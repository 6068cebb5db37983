import Mathlib.Order.Bounds.Basic
import ProfileLexer.Proofs.Chunk.Place
import ProfileLexer.Proofs.Pool.Outcome

/-!
What comes of a run in which chunks fail and workers break down. The outcome is the same in every
order of turns, up to which of the workers is the first to have its fault collected.
-/

namespace ProfileLexer

variable {σ : Type}

/-- A worker reports a fault exactly when its answer is no output. A refusal and a panic are not
told apart. -/
theorem Crew.isFault_handle_iff {crew : Crew σ} {label : String} {worker : Nat} (state : σ)
    (chunk : Chunk) : (crew.handle label worker state chunk).1.isFault = true ↔
      ¬ ∃ output, (crew.process state chunk).1 = .done output := by
  unfold handle
  cases answer : (crew.process state chunk).1 <;>
    simp [answer, ChunkAnswer.report, ChunkReport.isFault]

/-- The chunks of `faulty` are those on which the workers that start fail, and the workers of
`broken` are those that break down before they have started. A worker may be in `broken` and have
chunks in `faulty`; nobody will come to see those. -/
structure Crew.FailsOn (crew : Crew σ) (label : String) (workers : Nat) (chunks : List Chunk)
    (faulty broken : Set Nat) : Prop where
  numbered : ∀ id ∈ faulty, id < chunks.length
  faults : ∀ id < workers, ∀ report ∈ crew.script label id (Chunk.ownedBy workers id chunks),
    report.isFault = true ↔ report.chunk ∈ faulty
  breaks : ∀ id, id ∈ broken ↔ id < workers ∧ ∃ message, crew.start id = .error message

/-- A chunk contributes the piece that is made of what its worker reports on it. The report may
depend on the chunks that the worker has had before, but on no turn. -/
def Crew.Contributes (crew : Crew σ) (label : String) (workers : Nat) (chunks : List Chunk)
    (source : String) (chunk : Chunk) (piece : Piece) : Prop :=
  ∃ report ∈ crew.script label (chunk.id % workers)
      (Chunk.ownedBy workers (chunk.id % workers) chunks),
    report.chunk = chunk.id ∧ ((report.slot chunk.range).piece source.toList).result = .ok piece

/-- Workers that all start, and fail on the chunks of `faulty` and on no others, in the states that
they can be in. Of states that they cannot be in nothing is asked. -/
structure Crew.FailsAt (crew : Crew σ) (usual : σ → Prop) (faulty : Set Nat) : Prop where
  starts : ∀ id, ∃ first, crew.start id = .ok first ∧ usual first
  stays : ∀ state chunk, usual state → usual (crew.process state chunk).2.1
  answers : ∀ state chunk, usual state →
    ((∃ output, (crew.process state chunk).1 = .done output) ↔ chunk.id ∉ faulty)

namespace Crew.FailsAt

variable {crew : Crew σ} {usual : σ → Prop} {faulty : Set Nat} {chunks : List Chunk}

theorem keeps (fails : crew.FailsAt usual faulty) : crew.Keeps usual where
  first := by
    intro id state started
    obtain ⟨first, start, atFirst⟩ := fails.starts id
    rw [started] at start
    cases start
    exact atFirst
  next := fails.stays

/-- A report is a fault exactly when it is on a chunk of `faulty`, whatever number the worker
has. -/
theorem isFault_iff (fails : crew.FailsAt usual faulty) {label : String} {workers worker : Nat}
    {report : ChunkReport}
    (member : report ∈ crew.script label worker (Chunk.ownedBy workers worker chunks)) :
    report.isFault = true ↔ report.chunk ∈ faulty := by
  obtain ⟨chunk, _, _, current, atCurrent, rfl⟩ := exists_state_of_mem_script fails.keeps member
  rw [handle_chunk, isFault_handle_iff, fails.answers current chunk atCurrent, not_not]

/-- Where a fault would abort the run, workers that fail on none of the chunks are undisturbed.
Where it would not, they may fail on any. -/
theorem undisturbed (fails : crew.FailsAt usual faulty) {pool : Pool}
    (spared : pool.policy = .abortRun → ∀ chunk ∈ chunks, chunk.id ∉ faulty) (workers : Nat) :
    pool.Undisturbed crew workers chunks where
  starts id _ := (fails.starts id).imp fun _ => And.left
  faultless := by
    intro policy id _ report member
    obtain ⟨chunk, inChunks, _, current, made⟩ := exists_chunk_of_mem_script member
    rw [← Bool.not_eq_true, fails.isFault_iff member, made, handle_chunk]
    exact spared policy chunk inChunks

end Crew.FailsAt

namespace Crew.FailsOn

variable {crew : Crew σ} {label : String} {workers : Nat} {chunks : List Chunk}
variable {faulty broken : Set Nat}

/-- Workers that fail on some chunks whatever they have done before. Only the chunks of the run are
looked at, but all states. -/
theorem of_answers (numbered : ∀ id ∈ faulty, id < chunks.length)
    (answers : ∀ state, ∀ chunk ∈ chunks,
      (∃ output, (crew.process state chunk).1 = .done output) ↔ chunk.id ∉ faulty)
    (breaks : ∀ id, id ∈ broken ↔ id < workers ∧ ∃ message, crew.start id = .error message) :
    crew.FailsOn label workers chunks faulty broken where
  numbered := numbered
  breaks := breaks
  faults := by
    intro id _ report member
    obtain ⟨chunk, inChunks, _, current, rfl⟩ := Crew.exists_chunk_of_mem_script member
    rw [Crew.handle_chunk, Crew.isFault_handle_iff, answers current chunk inChunks, not_not]

theorem exists_start (fails : crew.FailsOn label workers chunks faulty broken) {id : Nat}
    (within : id < workers) (sound : id ∉ broken) : ∃ first, crew.start id = .ok first := by
  cases start : crew.start id with
  | ok first => exact ⟨first, rfl⟩
  | error message => exact absurd ((fails.breaks id).mpr ⟨within, message, start⟩) sound

/-- A worker with something to report has not broken down, since it has started. -/
theorem not_broken_of_mem_script (fails : crew.FailsOn label workers chunks faulty broken) {id : Nat}
    {queue : List Chunk} {report : ChunkReport} (member : report ∈ crew.script label id queue) :
    id ∉ broken := by
  intro down
  obtain ⟨_, message, start⟩ := (fails.breaks id).mp down
  rw [Crew.script_of_crash start] at member
  cases member

end Crew.FailsOn

/-- Each chunk of a crew that starts has its report, which depends on the chunks in front of it in
the same queue. -/
theorem Crew.exists_reports {crew : Crew σ} {workers : Nat} {chunks : List Chunk}
    (dealt : Chunk.Dealt workers chunks) (label : String)
    (started : ∀ id < workers, ∃ first, crew.start id = .ok first) :
    ∃ reportOn, crew.Reports label workers chunks reportOn := by
  have exists_report : ∀ chunk : Chunk, ∃ report, chunk ∈ chunks →
      report ∈ crew.script label (chunk.id % workers)
        (Chunk.ownedBy workers (chunk.id % workers) chunks) ∧ report.chunk = chunk.id := by
    intro chunk
    by_cases member : chunk ∈ chunks
    · obtain ⟨first, start⟩ := started _ (Nat.mod_lt chunk.id dealt.someWorker)
      have number : chunk.id ∈ (crew.script label (chunk.id % workers)
          (Chunk.ownedBy workers (chunk.id % workers) chunks)).map ChunkReport.chunk := by
        rw [map_chunk_script start]
        exact List.mem_map_of_mem (Chunk.mem_ownedBy.mpr ⟨member, rfl⟩)
      obtain ⟨report, inScript, same⟩ := List.mem_map.mp number
      exact ⟨report, fun _ => ⟨inScript, same⟩⟩
    · exact ⟨default, fun inChunks => absurd inChunks member⟩
  choose reportOn found using exists_report
  refine ⟨reportOn, fun id within => ?_⟩
  obtain ⟨first, start⟩ := started id within
  have numbers : (crew.script label id _).map ChunkReport.chunk = _ :=
    map_chunk_script start (Chunk.ownedBy workers id chunks)
  apply List.ext_getElem
  · simpa using congrArg List.length numbers
  intro i inScript inMap
  rw [List.length_map] at inMap
  obtain ⟨inChunks, owner⟩ := Chunk.mem_ownedBy.mp (List.getElem_mem inMap)
  obtain ⟨member, same⟩ := found _ inChunks
  rw [owner] at member
  have number : (crew.script label id (Chunk.ownedBy workers id chunks))[i].chunk =
      (Chunk.ownedBy workers id chunks)[i].id := by
    have atIndex := congrArg (·[i]?) numbers
    simpa [inScript, inMap] using atIndex
  rw [List.getElem_map]
  exact List.inj_on_of_nodup_map (dealt.nodup_script crew label id) (List.getElem_mem inScript)
    member (number.trans same.symm)

/-- With a place that can be cut out of the source, there is a piece for every report. For a result
the place does not matter. -/
theorem ChunkReport.exists_piece (report : ChunkReport) {range : ChunkRange}
    {source text : List Char} (place : Text.slice? source range.start range.stop = some text) :
    ∃ piece, ((report.slot range).piece source).result = .ok piece := by
  cases report with
  | result done => exact ⟨_, Slot.piece_of_result source rfl⟩
  | fault failed => exact ⟨_, Slot.piece_of_fault rfl rfl place⟩

/-- A worker that is at rest has either been started or broken down. One that has finished may have
been told to stop. -/
theorem Worker.Follows.start_of_atRest {crew : Crew σ} {label : String} {id : Nat}
    {own : List Chunk} {sent : List ChunkReport} {stopped : Prop} {worker : Worker σ}
    (follows : worker.Follows crew label id own sent stopped)
    (rest : worker.station.atRest = true) :
    (worker.station = .finished ∧ ∃ first, crew.start id = .ok first) ∨
      ∃ message, worker.station = .crashed message ∧ crew.start id = .error message := by
  unfold Follows at follows
  cases station : worker.station with
  | finished =>
    simp only [station] at follows
    obtain ⟨_, ⟨first, start, _⟩, _⟩ := follows
    exact .inl ⟨rfl, first, start⟩
  | crashed message =>
    simp only [station] at follows
    exact .inr ⟨message, rfl, follows.1⟩
  | starting | ready _ | holding _ _ | sending _ _ => simp [station, Station.atRest] at rest

namespace PoolState.Sound

open ChunkReport (sentBy sentBy_append sentBy_own mem_sentBy)
open Chunk (ownedBy)

variable {pool : Pool} {crew : Crew σ} {workers : Nat} {chunks : List Chunk}
variable {history : List ChunkReport} {state : PoolState σ} {faulty broken : Set Nat}

/-- At rest, the first crashed worker is the first that has broken down. Until then a later one may
have crashed and this one not. -/
theorem crash?_of_broken (sound : state.Sound pool crew workers chunks history)
    (quiet : state.isQuiet = true) (fails : crew.FailsOn pool.label workers chunks faulty broken)
    (some_broken : broken.Nonempty) :
    ∃ id message, state.crash? = some (id, message) ∧ crew.start id = .error message ∧
      IsLeast broken id := by
  have standing : ∀ (id : Nat) (worker : Worker σ), state.workers[id]? = some worker →
      (worker.station = .finished ∧ ∃ first, crew.start id = .ok first) ∨
        ∃ message, worker.station = .crashed message ∧ crew.start id = .error message :=
    fun id worker atId => (sound.follows id worker atId).start_of_atRest
      (List.all_eq_true.mp quiet _ (List.mem_of_getElem? atId))
  have crashed : ∀ id ∈ broken, ∃ worker message, state.workers[id]? = some worker ∧
      worker.station = .crashed message := by
    intro id down
    obtain ⟨within, message, start⟩ := (fails.breaks id).mp down
    obtain ⟨worker, atId⟩ := sound.exists_worker within
    rcases standing id worker atId with ⟨_, first, started⟩ | ⟨other, station, _⟩
    · rw [start] at started
      cases started
    · exact ⟨worker, other, atId, station⟩
  have found : state.crash?.isSome = true := by
    obtain ⟨id, down⟩ := some_broken
    obtain ⟨worker, message, atId, station⟩ := crashed id down
    rw [crash?, List.findSome?_isSome_iff]
    exact ⟨(worker, id), List.mem_zipIdx_iff_getElem?.mpr atId, by simp [station]⟩
  obtain ⟨⟨id, message⟩, crash⟩ := Option.isSome_iff_exists.mp found
  obtain ⟨before, ⟨worker, place⟩, after, split, atWorker, none_before⟩ :=
    List.findSome?_eq_some_iff.mp crash
  have number : place = before.length := by
    have atEnd : state.workers.zipIdx[before.length]? = some (worker, place) := by simp [split]
    rw [List.getElem?_zipIdx, Nat.zero_add] at atEnd
    obtain ⟨_, _, same⟩ := Option.map_eq_some_iff.mp atEnd
    exact (congrArg Prod.snd same).symm
  have atId : state.workers[place]? = some worker :=
    List.mem_zipIdx_iff_getElem?.mp (split ▸ List.mem_append_right _ List.mem_cons_self)
  have same : place = id ∧ worker.station = .crashed message := by
    cases station : worker.station <;> simp [station] at atWorker
    exact ⟨atWorker.1, by rw [atWorker.2]⟩
  obtain ⟨rfl, station⟩ := same
  have start : crew.start place = .error message := by
    rcases standing place worker atId with ⟨finished, _⟩ | ⟨other, stopped, start⟩
    · rw [station] at finished
      cases finished
    · rw [station] at stopped
      cases stopped
      exact start
  have within : place < workers := by
    rw [← sound.size]
    exact (List.getElem?_eq_some_iff.mp atId).1
  refine ⟨place, message, crash, start, (fails.breaks place).mpr ⟨within, message, start⟩, ?_⟩
  · intro other down
    by_contra less
    obtain ⟨early, cause, atOther, down⟩ := crashed other down
    have inFront : (early, other) ∈ before := by
      have atIndex : state.workers.zipIdx[other]? = some (early, other) := by simp [atOther]
      rw [split, List.getElem?_append_left (by omega)] at atIndex
      exact List.mem_of_getElem? atIndex
    simpa [down] using none_before _ inFront

/-- A fault that aborts the run is that of the first chunk on which its worker fails. Workers that
have broken down are left out, as they reach none of their chunks; which worker comes first is up to
the turns. -/
theorem least_of_aborted (sound : state.Sound pool crew workers chunks history)
    (dealt : Chunk.Dealt workers chunks)
    (fails : crew.FailsOn pool.label workers chunks faulty broken) {earlier : List ChunkReport}
    {fault : WorkerFault} (last : history = earlier ++ [.fault fault])
    (faultless : ∀ report ∈ earlier, report.isFault = false) :
    IsLeast {id ∈ {id ∈ faulty | id % workers ∉ broken} | id % workers = fault.chunk % workers}
      fault.chunk := by
  have inHistory : .fault fault ∈ history := last ▸ List.mem_append_right _ List.mem_cons_self
  have inScript := sound.mem_script dealt (List.mem_append_left _ inHistory)
  have owner : fault.chunk % workers < workers := Nat.mod_lt _ dealt.someWorker
  refine ⟨⟨⟨(fails.faults _ owner _ inScript).mp rfl, fails.not_broken_of_mem_script inScript⟩, rfl⟩,
    ?_⟩
  rintro id ⟨⟨failed, started⟩, same⟩
  rw [same] at started
  obtain ⟨first, start⟩ := fails.exists_start owner started
  -- The worker's script is what it had sent before the fault, the fault, and what is left.
  obtain ⟨worker, atId⟩ := sound.exists_worker owner
  obtain ⟨rest, script⟩ := (sound.follows _ _ atId).sent_starts
  have own : sentBy workers (fault.chunk % workers) [.fault fault] = [.fault fault] :=
    sentBy_own rfl
  rw [last, sentBy_append, sentBy_append, own, List.append_assoc, List.append_assoc,
    List.singleton_append] at script
  obtain ⟨chunk, owned, rfl⟩ := dealt.exists_chunk (fails.numbered id failed)
  rw [same] at owned
  have number : chunk.id ∈ (crew.script pool.label (fault.chunk % workers)
      (ownedBy workers (fault.chunk % workers) chunks)).map ChunkReport.chunk := by
    rw [Crew.map_chunk_script start]
    exact List.mem_map_of_mem owned
  obtain ⟨report, member, onChunk⟩ := List.mem_map.mp number
  have isFault := (fails.faults _ owner report member).mpr (onChunk ▸ failed)
  have ascending := dealt.ascending_script crew pool.label (fault.chunk % workers)
  rw [script] at member ascending
  rw [List.map_append, List.map_cons, List.pairwise_append, List.pairwise_cons] at ascending
  rcases List.mem_append.mp member with before | atFault
  · have isResult := faultless report (mem_sentBy.mp before).1
    rw [isFault] at isResult
    cases isResult
  rcases List.mem_cons.mp atFault with rfl | behind
  · exact onChunk.le
  · have later := ascending.2.1.1 _ (List.mem_map_of_mem behind)
    rw [onChunk] at later
    exact later.le


/-- When every worker has come to the end of its script, the fault of a chunk has been taken, if its
worker has started. -/
theorem exists_fault_of_scripts (dealt : Chunk.Dealt workers chunks)
    (fails : crew.FailsOn pool.label workers chunks faulty broken) {id : Nat} (failed : id ∈ faulty)
    (started : id % workers ∉ broken)
    (all : ∀ id < workers, sentBy workers id history =
      crew.script pool.label id (ownedBy workers id chunks)) :
    ∃ report ∈ history, report.isFault = true := by
  have owner : id % workers < workers := Nat.mod_lt _ dealt.someWorker
  obtain ⟨first, start⟩ := fails.exists_start owner started
  obtain ⟨report, member, rfl⟩ := exists_report_of_scripts dealt all (fails.numbered id failed) start
  refine ⟨report, member, (fails.faults _ owner report ?_).mpr failed⟩
  rw [← all _ owner]
  exact mem_sentBy.mpr ⟨member, rfl⟩

end PoolState.Sound

namespace PoolState

variable {state : PoolState σ} (source : String)

theorem conclude_of_failure {error : SchedulerError} (failure : state.failure = some error) :
    (state.conclude source).result = .error error := by
  rw [conclude, Logged.result_bind_of_ok (Logged.result_write _), failure]
  rfl

theorem conclude_of_crash {id : Nat} {message : String} (failure : state.failure = none)
    (crash : state.crash? = some (id, message)) :
    (state.conclude source).result = .error (.workerPanic id message) := by
  rw [conclude, Logged.result_bind_of_ok (Logged.result_write _), failure, crash]
  rfl

end PoolState

namespace Pool

variable {crew : Crew σ} {plan : ChunkPlan} {lexemes : List Lexeme} {source : String}
variable {faulty broken : Set Nat}

/-- When all workers start and no fault aborts the run, every chunk contributes what its worker
reports on it. Under the degrading policy the reports may all be faults. -/
theorem run_of_started (pool : Pool) (schedule : Schedule) (cover : Lexeme.Cover lexemes source)
    {chunks : List Chunk} {workers : Nat} (cut : chunks = plan.split lexemes)
    (size : workers = pool.crewSize chunks) (nonempty : chunks ≠ [])
    (started : ∀ id < workers, ∃ first, crew.start id = .ok first)
    (faultless : pool.policy = .abortRun → ∀ id < workers,
      ∀ report ∈ crew.script pool.label id (Chunk.ownedBy workers id chunks),
        report.isFault = false) :
    ∃ pieceOf : Chunk → Piece,
      (pool.run crew schedule source chunks).result = .ok (.ofPieces (chunks.map pieceOf)) ∧
      ∀ chunk ∈ chunks, crew.Contributes pool.label workers chunks source chunk (pieceOf chunk) := by
  subst cut size
  have numbered := plan.map_id_split lexemes
  have dealt := Chunk.dealt_crewSize pool numbered nonempty
  obtain ⟨reportOn, reports⟩ := Crew.exists_reports dealt pool.label started
  have exists_piece : ∀ chunk, ∃ piece, chunk ∈ plan.split lexemes →
      (((reportOn chunk).slot chunk.range).piece source.toList).result = .ok piece := by
    intro chunk
    by_cases member : chunk ∈ plan.split lexemes
    · obtain ⟨piece, made⟩ :=
        (reportOn chunk).exists_piece (ChunkPlan.slice_of_mem_split cover member)
      exact ⟨piece, fun _ => made⟩
    · exact ⟨default, fun inChunks => absurd inChunks member⟩
  choose pieceOf pieces using exists_piece
  refine ⟨pieceOf, ?_, fun chunk member => ⟨reportOn chunk, reports.mem_script dealt member,
    reports.chunk_eq dealt member, pieces chunk member⟩⟩
  exact pool.run_of_reports schedule source numbered nonempty started reports
    (fun policy chunk member => faultless policy _ (Nat.mod_lt _ dealt.someWorker) _
      (reports.mem_script dealt member)) pieces

/-- A run that succeeds is one in which all workers start and no fault aborts the run, so every
chunk contributes what its worker reports on it. This holds without any assumption on the crew. -/
theorem contributes_of_run (pool : Pool) (schedule : Schedule) (cover : Lexeme.Cover lexemes source)
    {chunks : List Chunk} {workers : Nat} (cut : chunks = plan.split lexemes)
    (size : workers = pool.crewSize chunks) {reassembly : Reassembly}
    (ran : (pool.run crew schedule source chunks).result = .ok reassembly) :
    ∃ pieceOf : Chunk → Piece, reassembly = .ofPieces (chunks.map pieceOf) ∧
      ∀ chunk ∈ chunks, crew.Contributes pool.label workers chunks source chunk (pieceOf chunk) := by
  by_cases empty : chunks = []
  · rw [empty] at ran
    exact ⟨fun _ => default, (Except.ok.inj ran).symm.trans (by rw [empty]; rfl),
      fun _ member => nomatch empty ▸ member⟩
  have numbered : chunks.map Chunk.id = List.range chunks.length := cut ▸ plan.map_id_split lexemes
  obtain ⟨history, sound⟩ := pool.final_sound crew schedule numbered empty
  rw [← size] at sound
  have ended := Bool.and_eq_true_iff.mp (pool.final_isOver crew schedule chunks)
  have closed : (pool.final crew schedule chunks).listening = false := by simpa using ended.1
  have concluded := ran
  rw [pool.run_of_ne_nil crew schedule source empty] at concluded
  have noFailure : (pool.final crew schedule chunks).failure = none := by
    cases failure : (pool.final crew schedule chunks).failure with
    | none => rfl
    | some error =>
      rw [PoolState.conclude_of_failure source failure] at concluded
      cases concluded
  have noCrash : (pool.final crew schedule chunks).crash? = none := by
    cases crash : (pool.final crew schedule chunks).crash? with
    | none => rfl
    | some crashed =>
      rw [PoolState.conclude_of_crash source noFailure crash] at concluded
      cases concluded
  have started : ∀ id < workers, ∃ first, crew.start id = .ok first := by
    intro id within
    obtain ⟨worker, atId⟩ := sound.exists_worker within
    rcases (sound.follows id worker atId).start_of_atRest
      (List.all_eq_true.mp ended.2 _ (List.mem_of_getElem? atId)) with
      ⟨_, first, start⟩ | ⟨message, station, _⟩
    · exact ⟨first, start⟩
    · have none_crashed := List.findSome?_eq_none_iff.mp noCrash (worker, id)
        (List.mem_zipIdx_iff_getElem?.mpr atId)
      simp [station] at none_crashed
  have faultless : pool.policy = .abortRun → ∀ id < workers,
      ∀ report ∈ crew.script pool.label id (Chunk.ownedBy workers id chunks),
        report.isFault = false := by
    intro policy id within report member
    rcases sound.ended closed with ⟨_, _, _, failure⟩ | ⟨_, calm, scripts⟩
    · rw [noFailure] at failure
      cases failure
    · rw [← scripts id within] at member
      exact calm policy report (ChunkReport.mem_sentBy.mp member).1
  obtain ⟨pieceOf, again, contributes⟩ :=
    pool.run_of_started schedule cover cut size empty started faultless
  exact ⟨pieceOf, Except.ok.inj (ran.symm.trans again), contributes⟩

/-- What comes of a run whose workers fail on the chunks of `faulty`, and of which the workers of
`broken` break down. A fault aborts the run, if it may: it is the first one of its worker. Else the
first worker that has broken down is named. Else the reports on all chunks are put together. There
is no other error, and nothing is assumed of the schedule. -/
theorem run_outcome (pool : Pool) (schedule : Schedule) (cover : Lexeme.Cover lexemes source)
    (nonempty : plan.split lexemes ≠ [])
    (fails : crew.FailsOn pool.label (pool.crewSize (plan.split lexemes)) (plan.split lexemes) faulty
      broken) :
    let chunks := plan.split lexemes
    let workers := pool.crewSize chunks
    let failing := {id ∈ faulty | id % workers ∉ broken}
    let outcome := (pool.run crew schedule source chunks).result
    (pool.policy = .abortRun → failing.Nonempty → ∃ fault, outcome = .error (.workerFault fault) ∧
      IsLeast {id ∈ failing | id % workers = fault.chunk % workers} fault.chunk) ∧
    (¬ (pool.policy = .abortRun ∧ failing.Nonempty) → broken.Nonempty → ∃ worker message,
      outcome = .error (.workerPanic worker message) ∧ crew.start worker = .error message ∧
        IsLeast broken worker) ∧
    (¬ (pool.policy = .abortRun ∧ failing.Nonempty) → ¬ broken.Nonempty → ∃ pieceOf : Chunk → Piece,
      outcome = .ok (.ofPieces (chunks.map pieceOf)) ∧
        ∀ chunk ∈ chunks, crew.Contributes pool.label workers chunks source chunk (pieceOf chunk)) ∧
    ∀ error, outcome = .error error →
      (∃ fault, error = .workerFault fault) ∨
        ∃ worker message, error = .workerPanic worker message := by
  intro chunks workers failing outcome
  have numbered : chunks.map Chunk.id = List.range chunks.length := plan.map_id_split lexemes
  have dealt : Chunk.Dealt workers chunks := Chunk.dealt_crewSize pool numbered nonempty
  obtain ⟨history, sound⟩ := pool.final_sound crew schedule numbered nonempty
  have ended := Bool.and_eq_true_iff.mp (pool.final_isOver crew schedule chunks)
  have closed : (pool.final crew schedule chunks).listening = false := by simpa using ended.1
  have concluded : outcome = ((pool.final crew schedule chunks).conclude source).result := by
    rw [← pool.run_of_ne_nil crew schedule source nonempty]
  -- A run that no fault aborts ends with all that the workers report.
  have completes : ¬ (pool.policy = .abortRun ∧ failing.Nonempty) →
      (pool.final crew schedule chunks).failure = none := by
    intro spared
    rcases sound.ended closed with ⟨last, faultless, policy, _⟩ | ⟨failure, _, _⟩
    · exact absurd ⟨policy, _, (sound.least_of_aborted dealt fails last faultless).1.1⟩ spared
    · exact failure
  have faulted : pool.policy = .abortRun → failing.Nonempty → ∃ fault,
      outcome = .error (.workerFault fault) ∧
        IsLeast {id ∈ failing | id % workers = fault.chunk % workers} fault.chunk := by
    rintro policy ⟨id, failed, started⟩
    rcases sound.ended closed with ⟨last, faultless, _, failure⟩ | ⟨_, calm, scripts⟩
    · exact ⟨_, concluded.trans (PoolState.conclude_of_failure source failure),
        sound.least_of_aborted dealt fails last faultless⟩
    · obtain ⟨report, member, isFault⟩ :=
        PoolState.Sound.exists_fault_of_scripts dealt fails failed started scripts
      rw [calm policy report member] at isFault
      cases isFault
  have crashed : ¬ (pool.policy = .abortRun ∧ failing.Nonempty) → broken.Nonempty →
      ∃ worker message, outcome = .error (.workerPanic worker message) ∧
        crew.start worker = .error message ∧ IsLeast broken worker := by
    intro spared some_broken
    obtain ⟨worker, message, crash, start, least⟩ :=
      sound.crash?_of_broken ended.2 fails some_broken
    exact ⟨worker, message,
      concluded.trans (PoolState.conclude_of_crash source (completes spared) crash), start, least⟩
  have whole : ¬ (pool.policy = .abortRun ∧ failing.Nonempty) → ¬ broken.Nonempty →
      ∃ pieceOf : Chunk → Piece, outcome = .ok (.ofPieces (chunks.map pieceOf)) ∧
        ∀ chunk ∈ chunks,
          crew.Contributes pool.label workers chunks source chunk (pieceOf chunk) := by
    intro spared none_broken
    rw [Set.not_nonempty_iff_eq_empty] at none_broken
    refine pool.run_of_started schedule cover rfl rfl nonempty
      (fun id within => fails.exists_start within (by simp [none_broken])) ?_
    intro policy id within report member
    rw [← Bool.not_eq_true]
    intro isFault
    have failed := (fails.faults id within report member).mp isFault
    exact spared ⟨policy, _, failed, by simp [none_broken]⟩
  refine ⟨faulted, crashed, whole, fun error failed => ?_⟩
  by_cases aborts : pool.policy = .abortRun ∧ failing.Nonempty
  · obtain ⟨fault, ends, _⟩ := faulted aborts.1 aborts.2
    rw [failed] at ends
    exact .inl ⟨fault, Except.error.inj ends⟩
  by_cases some_broken : broken.Nonempty
  · obtain ⟨worker, message, ends, _⟩ := crashed aborts some_broken
    rw [failed] at ends
    exact .inr ⟨worker, message, Except.error.inj ends⟩
  · obtain ⟨pieceOf, ends, _⟩ := whole aborts some_broken
    rw [failed] at ends
    cases ends

/-- Of three workers one breaks down, and another one fails on two chunks. -/
theorem run_outcome_of_three_workers :
    let lexemes : List Lexeme := [⟨"a", 0⟩, ⟨"b", 1⟩, ⟨"c", 2⟩, ⟨"d", 3⟩]
    let crew : Crew Unit := {
      start := fun id => if id = 1 then .error "down" else .ok ()
      process := fun _ chunk =>
        (if chunk.id = 0 ∨ chunk.id = 1 ∨ chunk.id = 3 then .panicked "lost"
          else .done ⟨[], .zero, []⟩, (), []) }
    let chunks := (ChunkPlan.mk 4 1 4 3).split lexemes
    (∃ fault, ((⟨3, .abortRun, "run"⟩ : Pool).run crew .inOrder "abcd" chunks).result =
      .error (.workerFault fault) ∧ fault.chunk = 0) ∧
    ∃ message, ((⟨3, .degradeChunk, "run"⟩ : Pool).run crew .inOrder "abcd" chunks).result =
      .error (.workerPanic 1 message) := by
  intro lexemes crew chunks
  have cover : Lexeme.Cover lexemes "abcd" :=
    ⟨⟨rfl, by decide, rfl, by decide, rfl, by decide, rfl, by decide, trivial⟩, by decide⟩
  have nonempty : chunks ≠ [] := by simp [chunks, ChunkPlan.split, ChunkPlan.splitFrom]
  have fails (policy : FailurePolicy) : crew.FailsOn "run"
      ((⟨3, policy, "run"⟩ : Pool).crewSize chunks) chunks {0, 1, 3} {1} := by
    refine Crew.FailsOn.of_answers ?_ ?_ ?_
    · rintro id (rfl | rfl | rfl) <;> decide
    · intro _ chunk _
      by_cases failed : chunk.id = 0 ∨ chunk.id = 1 ∨ chunk.id = 3
      · simp only [crew, if_pos failed]
        refine ⟨?_, fun spared => absurd failed spared⟩
        rintro ⟨_, done⟩
        cases done
      · simp only [crew, if_neg failed]
        exact ⟨fun _ => failed, fun _ => ⟨_, rfl⟩⟩
    · intro id
      by_cases first : id = 1
      · subst first
        exact ⟨fun _ => ⟨show 1 < 3 by decide, "down", rfl⟩, fun _ => rfl⟩
      · simp [crew, first]
  have aborts := run_outcome ⟨3, .abortRun, "run"⟩ .inOrder cover nonempty (fails .abortRun)
  have degrades := run_outcome ⟨3, .degradeChunk, "run"⟩ .inOrder cover nonempty
    (fails .degradeChunk)
  constructor
  · obtain ⟨fault, ends, ⟨⟨failed, started⟩, _⟩, least⟩ := aborts.1 rfl ⟨0, by simp, by simp⟩
    have owner : fault.chunk % 3 = 0 := by
      rcases failed with zero | one | three
      · rw [zero]
      · exact absurd (show fault.chunk % 3 = 1 by rw [one]) started
      · rw [three]
    have first : fault.chunk ≤ 0 := least ⟨⟨by simp, by simp⟩, owner.symm⟩
    exact ⟨fault, ends, by omega⟩
  · obtain ⟨worker, message, ends, _, least, _⟩ := degrades.2.1 (by simp) ⟨1, rfl⟩
    cases least
    exact ⟨message, ends⟩

end Pool

end ProfileLexer
