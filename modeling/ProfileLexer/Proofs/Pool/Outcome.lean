import ProfileLexer.Proofs.Chunk.Arrival
import ProfileLexer.Proofs.Pool.Preservation

/-!
What comes of a run. Whatever the schedule, a run whose workers all start and answer every chunk
ends with the answers in the order of the chunks.
-/

namespace ProfileLexer

variable {σ : Type}

/-- A crew whose workers all start, and whose answer to a chunk is the same from all states that
they can be in. The states may differ in what does not show in an answer. -/
structure Crew.Delivers (crew : Crew σ) (usual : σ → Prop) (output : Chunk → ChunkOutput) :
    Prop where
  starts : ∀ id, ∃ first, crew.start id = .ok first ∧ usual first
  answers : ∀ state chunk, usual state → (crew.process state chunk).1 = .done (output chunk)
  stays : ∀ state chunk, usual state → usual (crew.process state chunk).2.1

/-- Workers that report on each of their chunks what `reportOn` says, if nobody stops them. The
function may be different for another cut of the same lexemes. -/
def Crew.Reports (crew : Crew σ) (label : String) (workers : Nat) (chunks : List Chunk)
    (reportOn : Chunk → ChunkReport) : Prop :=
  ∀ id < workers, crew.script label id (Chunk.ownedBy workers id chunks) =
    (Chunk.ownedBy workers id chunks).map reportOn

/-- Workers that all start, and of which none reports a fault that would abort the run. Under the
degrading policy they may fail on any chunk. -/
structure Pool.Undisturbed (pool : Pool) (crew : Crew σ) (workers : Nat) (chunks : List Chunk) :
    Prop where
  starts : ∀ id < workers, ∃ first, crew.start id = .ok first
  faultless : pool.policy = .abortRun → ∀ id < workers,
    ∀ report ∈ crew.script pool.label id (Chunk.ownedBy workers id chunks), report.isFault = false

namespace Chunk

/-- The result of a worker with some output for a chunk. -/
def resultBy (worker : Nat) (output : Chunk → ChunkOutput) (chunk : Chunk) : WorkerResult :=
  .ofOutput chunk.id worker chunk.lexemes.length (output chunk)

theorem dealt_crewSize {chunks : List Chunk} (pool : Pool)
    (numbered : chunks.map Chunk.id = List.range chunks.length) (nonempty : chunks ≠ []) :
    Dealt (pool.crewSize chunks) chunks where
  numbered := numbered
  someWorker := by
    have positive := List.length_pos_iff.mpr nonempty
    rw [Pool.crewSize]
    omega
  enough := Nat.min_le_right _ _

theorem id_getElem {chunks : List Chunk}
    (numbered : chunks.map Chunk.id = List.range chunks.length) {i : Nat}
    (within : i < chunks.length) : chunks[i].id = i := by
  have atIndex : (chunks.map Chunk.id)[i]? = (List.range chunks.length)[i]? := by rw [numbered]
  simpa [within] using atIndex

theorem eq_of_id_eq {chunks : List Chunk}
    (numbered : chunks.map Chunk.id = List.range chunks.length) {chunk other : Chunk}
    (member : chunk ∈ chunks) (otherMember : other ∈ chunks) (same : chunk.id = other.id) :
    chunk = other :=
  List.inj_on_of_nodup_map (by rw [numbered]; exact List.nodup_range) member otherMember same

end Chunk

namespace Crew.Reports

variable {crew : Crew σ} {label : String} {workers : Nat} {chunks : List Chunk}
variable {reportOn : Chunk → ChunkReport} {chunk : Chunk}

theorem mem_script (reports : crew.Reports label workers chunks reportOn)
    (dealt : Chunk.Dealt workers chunks) (member : chunk ∈ chunks) :
    reportOn chunk ∈ crew.script label (chunk.id % workers)
      (Chunk.ownedBy workers (chunk.id % workers) chunks) := by
  rw [reports _ (Nat.mod_lt _ dealt.someWorker)]
  exact List.mem_map_of_mem (Chunk.mem_ownedBy.mpr ⟨member, rfl⟩)

/-- A report is on the chunk that it is given for. -/
theorem chunk_eq (reports : crew.Reports label workers chunks reportOn)
    (dealt : Chunk.Dealt workers chunks) (member : chunk ∈ chunks) :
    (reportOn chunk).chunk = chunk.id := by
  have script := reports _ (Nat.mod_lt chunk.id dealt.someWorker)
  have inScript := reports.mem_script dealt member
  cases start : crew.start (chunk.id % workers) with
  | error message =>
    rw [script_of_crash start] at inScript
    cases inScript
  | ok first =>
    have numbers : (crew.script label (chunk.id % workers) _).map ChunkReport.chunk = _ :=
      map_chunk_script start (Chunk.ownedBy workers (chunk.id % workers) chunks)
    rw [script, List.map_map, List.map_inj_left] at numbers
    exact numbers chunk (Chunk.mem_ownedBy.mpr ⟨member, rfl⟩)

end Crew.Reports

namespace Crew.Delivers

variable {crew : Crew σ} {usual : σ → Prop} {output : Chunk → ChunkOutput}

theorem handle_eq (delivers : crew.Delivers usual output) (label : String) (worker : Nat) {state : σ}
    (atState : usual state) (chunk : Chunk) :
    (crew.handle label worker state chunk).1 = .result (chunk.resultBy worker output) := by
  have answer := delivers.answers state chunk atState
  simp only [handle, answer, ChunkAnswer.report, Chunk.resultBy]

theorem reports_eq (delivers : crew.Delivers usual output) (label : String) (worker : Nat)
    {state : σ} (atState : usual state) (queue : List Chunk) :
    crew.reports label worker state queue =
      queue.map fun chunk => .result (chunk.resultBy worker output) := by
  induction queue generalizing state with
  | nil => rfl
  | cons chunk queue ih =>
    rw [reports_cons, List.map_cons, delivers.handle_eq label worker atState]
    exact congrArg _ (ih (delivers.stays state chunk atState))

theorem script_eq (delivers : crew.Delivers usual output) (label : String) (worker : Nat)
    (queue : List Chunk) :
    crew.script label worker queue =
      queue.map fun chunk => .result (chunk.resultBy worker output) := by
  obtain ⟨first, started, atFirst⟩ := delivers.starts worker
  rw [script_of_start started, delivers.reports_eq label worker atFirst]

end Crew.Delivers

namespace Pool

variable (pool : Pool) (crew : Crew σ) (schedule : Schedule) {chunks : List Chunk}

/-- At the end of a run its invariant holds, for some history of reports that depends on the
schedule. -/
theorem final_sound (numbered : chunks.map Chunk.id = List.range chunks.length)
    (nonempty : chunks ≠ []) :
    ∃ history, (pool.final crew schedule chunks).Sound pool crew (pool.crewSize chunks) chunks
      history := by
  have dealt := Chunk.dealt_crewSize pool numbered nonempty
  exact pool.final_induction crew schedule chunks
    (fun state => ∃ history, state.Sound pool crew (pool.crewSize chunks) chunks history)
    ⟨[], PoolState.sound_start _ _⟩
    fun ⟨_, sound⟩ moved => sound.step dealt moved

end Pool

namespace PoolState.Sound

open ChunkReport (sentBy mem_sentBy)
open Chunk (ownedBy)

variable {pool : Pool} {crew : Crew σ} {workers : Nat} {chunks : List Chunk}
variable {history : List ChunkReport} {state : PoolState σ}

/-- When every worker has come to the end of its script, there is a report on every chunk of a
worker that has started. Other workers have empty scripts. -/
theorem exists_report_of_scripts (dealt : Chunk.Dealt workers chunks)
    (all : ∀ id < workers, sentBy workers id history =
      crew.script pool.label id (ownedBy workers id chunks)) {id : Nat} (within : id < chunks.length)
    {first : σ} (started : crew.start (id % workers) = .ok first) :
    ∃ report ∈ history, report.chunk = id := by
  obtain ⟨chunk, owned, rfl⟩ := dealt.exists_chunk within
  have inScript : chunk.id ∈ (crew.script pool.label (chunk.id % workers)
      (ownedBy workers (chunk.id % workers) chunks)).map ChunkReport.chunk := by
    rw [Crew.map_chunk_script started]
    exact List.mem_map_of_mem owned
  rw [← all _ (Nat.mod_lt _ dealt.someWorker)] at inScript
  obtain ⟨report, sent, same⟩ := List.mem_map.mp inScript
  exact ⟨report, (mem_sentBy.mp sent).1, same⟩

/-- A chunk that has been reported on has been delivered, as the aborting policy lets no fault pass.
Under the other one a fault delivers a chunk as well. -/
theorem delivered_of_exists_report
    (faultless : pool.policy = .abortRun → ∀ report ∈ history, report.isFault = false) {id : Nat}
    (reported : ∃ report ∈ history, report.chunk = id) :
    Reassembler.delivered pool.policy history id = true := by
  obtain ⟨report, member, rfl⟩ := reported
  refine List.any_eq_true.mpr ⟨report, member, ?_⟩
  cases report with
  | result done => simp [ChunkReport.resultOf?, ChunkReport.chunk]
  | fault failed =>
    cases policy : pool.policy with
    | abortRun => cases faultless policy _ member
    | degradeChunk => simp [ChunkReport.faultOf?, ChunkReport.chunk]

theorem isComplete_of_delivered (sound : state.Sound pool crew workers chunks history)
    (dealt : Chunk.Dealt workers chunks)
    (all : ∀ id < chunks.length, Reassembler.delivered pool.policy history id = true) :
    state.reassembler.isComplete = true := by
  have once : ∀ id < chunks.length, Reassembler.overtaken pool.policy history id = false :=
    fun id _ => sound.not_overtaken dealt (List.prefix_append _ _)
  rw [sound.reassembled, Reassembler.isComplete_takeAll, List.length_map,
    Reassembler.countP_range_eq_self.mpr all, Reassembler.countP_range_eq_zero.mpr once,
    Nat.add_zero]

/-- Where no fault aborts the run, the collector stops only when it has taken everything. It may
stop before the channel is closed, by its count. -/
theorem scripts_of_closed (sound : state.Sound pool crew workers chunks history)
    (dealt : Chunk.Dealt workers chunks) (undisturbed : pool.Undisturbed crew workers chunks)
    (closed : state.listening = false) :
    state.failure = none ∧
      (pool.policy = .abortRun → ∀ report ∈ history, report.isFault = false) ∧
      ∀ id < workers, sentBy workers id history =
        crew.script pool.label id (ownedBy workers id chunks) := by
  rcases sound.ended closed with ⟨last, _, policy, _⟩ | ⟨failure, calm, scripts⟩
  · have member : .fault _ ∈ history ++ state.channel :=
      List.mem_append_left _ (last ▸ List.mem_append_right _ List.mem_cons_self)
    have inScript := sound.mem_script dealt member
    cases undisturbed.faultless policy _ (Nat.mod_lt _ dealt.someWorker) _ inScript
  · exact ⟨failure, calm, scripts⟩

theorem crash?_eq_none (sound : state.Sound pool crew workers chunks history)
    (started : ∀ id < workers, ∃ first, crew.start id = .ok first) : state.crash? = none := by
  rw [crash?, List.findSome?_eq_none_iff]
  rintro ⟨worker, id⟩ member
  have atId : state.workers[id]? = some worker := List.mem_zipIdx_iff_getElem?.mp member
  have within : id < workers := by
    rw [← sound.size]
    exact (List.getElem?_eq_some_iff.mp atId).1
  have follows := sound.follows id worker atId
  cases station : worker.station with
  | crashed message =>
    simp only [Worker.Follows, station] at follows
    obtain ⟨first, start⟩ := started id within
    rw [follows.1] at start
    cases start
  | _ => simp only [station]

variable {reportOn : Chunk → ChunkReport}

/-- What has been taken is what the workers report on their chunks, each on one of the chunks there
are. -/
theorem exists_chunk_of_reports (sound : state.Sound pool crew workers chunks history)
    (dealt : Chunk.Dealt workers chunks) (reports : crew.Reports pool.label workers chunks reportOn)
    {report : ChunkReport} (member : report ∈ history) :
    ∃ chunk ∈ chunks, report = reportOn chunk := by
  have inScript := sound.mem_script dealt (List.mem_append_left _ member)
  rw [reports _ (Nat.mod_lt _ dealt.someWorker)] at inScript
  obtain ⟨chunk, owned, made⟩ := List.mem_map.mp inScript
  exact ⟨chunk, (Chunk.mem_ownedBy.mp owned).1, made.symm⟩

/-- A slot holds the one report on its chunk. No later report replaces it, as there is none. -/
theorem slotAfter_of_mem (sound : state.Sound pool crew workers chunks history)
    (dealt : Chunk.Dealt workers chunks) {report : ChunkReport} (member : report ∈ history)
    (calm : pool.policy = .abortRun → report.isFault = false) (range : ChunkRange) :
    Reassembler.slotAfter pool.policy history report.chunk range = report.slot range :=
  Reassembler.slotAfter_of_only member
    (fun _ inHistory same => sound.unique dealt (List.mem_append_left _ inHistory)
      (List.mem_append_left _ member) same) calm range

/-- The slots at the end of a run in which there is a report on every chunk. They are in the order
of the chunks, and no longer depend on the order of the reports. -/
theorem slots_of_reports (sound : state.Sound pool crew workers chunks history)
    (dealt : Chunk.Dealt workers chunks) (reports : crew.Reports pool.label workers chunks reportOn)
    (faultless : pool.policy = .abortRun → ∀ report ∈ history, report.isFault = false)
    (all : ∀ id < chunks.length, ∃ report ∈ history, report.chunk = id) :
    state.reassembler.slots = chunks.map fun chunk => (reportOn chunk).slot chunk.range := by
  rw [sound.reassembled, Reassembler.slots_takeAll]
  apply List.ext_getElem
  · rw [List.length_mapIdx, List.length_map, List.length_map]
  intro id _ within
  rw [List.length_map] at within
  obtain ⟨report, member, number⟩ := all id within
  obtain ⟨chunk, inChunks, made⟩ := sound.exists_chunk_of_reports dealt reports member
  have same : chunk.id = chunks[id].id := by
    rw [← reports.chunk_eq dealt inChunks, ← made, number, Chunk.id_getElem dealt.numbered within]
  have place : chunk = chunks[id] :=
    Chunk.eq_of_id_eq dealt.numbered inChunks (List.getElem_mem within) same
  have slot := sound.slotAfter_of_mem dealt member (fun policy => faultless policy _ member)
    chunk.range
  rw [number, made, place] at slot
  rw [List.getElem_mapIdx, List.getElem_map, List.getElem_map, slot]

/-- What comes of a run in which every worker has come to the end of its script: the slots are put
together, behind what has been logged. -/
theorem conclude_of_scripts (sound : state.Sound pool crew workers chunks history)
    (dealt : Chunk.Dealt workers chunks)
    (started : ∀ id < workers, ∃ first, crew.start id = .ok first)
    (reports : crew.Reports pool.label workers chunks reportOn) (failure : state.failure = none)
    (calm : pool.policy = .abortRun → ∀ report ∈ history, report.isFault = false)
    (scripts : ∀ id < workers, sentBy workers id history =
      crew.script pool.label id (ownedBy workers id chunks)) (source : String) :
    state.conclude source =
        (Logged.write state.entries >>= fun _ => state.reassembler.finish source) ∧
      state.reassembler.slots = chunks.map fun chunk => (reportOn chunk).slot chunk.range := by
  have reported : ∀ id < chunks.length, ∃ report ∈ history, report.chunk = id := by
    intro id within
    obtain ⟨first, start⟩ := started _ (Nat.mod_lt id dealt.someWorker)
    exact exists_report_of_scripts dealt scripts within start
  have complete := sound.isComplete_of_delivered dealt fun id within =>
    delivered_of_exists_report calm (reported id within)
  refine ⟨?_, sound.slots_of_reports dealt reports calm reported⟩
  rw [conclude, failure, sound.crash?_eq_none started]
  simp only [complete, if_true]

end PoolState.Sound

namespace Pool

variable {crew : Crew σ} {usual : σ → Prop} {output : Chunk → ChunkOutput} {chunks : List Chunk}

/-- What a chunk contributes to a run that answers it. The number of its worker is in the record. -/
def pieceOf (workers : Nat) (output : Chunk → ChunkOutput) (chunk : Chunk) : Piece where
  tokens := (output chunk).tokens
  record := (chunk.resultBy (chunk.id % workers) output).record
  fault := none

theorem run_of_ne_nil (pool : Pool) (crew : Crew σ) (schedule : Schedule) (source : String)
    (nonempty : chunks ≠ []) :
    pool.run crew schedule source chunks = (pool.final crew schedule chunks).conclude source := by
  rw [run, List.isEmpty_eq_false_iff.mpr nonempty, if_neg Bool.false_ne_true]

/-- If no fault aborts the run, the reports of a crew that starts are put together in the order
of the chunks, whoever has had the turns. A fault that does not abort the run is put in like a
result. -/
theorem run_of_reports {reportOn : Chunk → ChunkReport} {pieceOf : Chunk → Piece} (pool : Pool)
    (schedule : Schedule) (source : String)
    (numbered : chunks.map Chunk.id = List.range chunks.length) (nonempty : chunks ≠ [])
    (started : ∀ id < pool.crewSize chunks, ∃ first, crew.start id = .ok first)
    (reports : crew.Reports pool.label (pool.crewSize chunks) chunks reportOn)
    (faultless : pool.policy = .abortRun → ∀ chunk ∈ chunks, (reportOn chunk).isFault = false)
    (pieces : ∀ chunk ∈ chunks, (((reportOn chunk).slot chunk.range).piece source.toList).result =
      .ok (pieceOf chunk)) :
    (pool.run crew schedule source chunks).result = .ok (.ofPieces (chunks.map pieceOf)) := by
  have dealt := Chunk.dealt_crewSize pool numbered nonempty
  obtain ⟨history, sound⟩ := pool.final_sound crew schedule numbered nonempty
  have undisturbed : pool.Undisturbed crew (pool.crewSize chunks) chunks := by
    refine ⟨started, fun policy id within report member => ?_⟩
    rw [reports id within] at member
    obtain ⟨chunk, owned, rfl⟩ := List.mem_map.mp member
    exact faultless policy chunk (Chunk.mem_ownedBy.mp owned).1
  obtain ⟨failure, calm, scripts⟩ := sound.scripts_of_closed dealt undisturbed
    (pool.listening_final crew schedule chunks)
  obtain ⟨concluded, slots⟩ :=
    sound.conclude_of_scripts dealt started reports failure calm scripts source
  rw [pool.run_of_ne_nil crew schedule source nonempty, concluded,
    Logged.result_bind_of_ok (Logged.result_write _)]
  exact Reassembler.finish_of_pieces slots pieces

/-- A crew that answers every chunk has its answers put together in the order of the chunks, whoever
has had the turns. There may be no chunks at all. -/
theorem run_of_delivers (pool : Pool) (schedule : Schedule) (source : String)
    (delivers : crew.Delivers usual output)
    (numbered : chunks.map Chunk.id = List.range chunks.length) :
    (pool.run crew schedule source chunks).result =
      .ok (.ofPieces (chunks.map (pieceOf (pool.crewSize chunks) output))) := by
  by_cases empty : chunks = []
  · subst empty
    rfl
  have reports : crew.Reports pool.label (pool.crewSize chunks) chunks fun chunk =>
      .result (chunk.resultBy (chunk.id % pool.crewSize chunks) output) := by
    intro id _
    rw [delivers.script_eq, List.map_inj_left]
    intro chunk owned
    rw [(Chunk.mem_ownedBy.mp owned).2]
  refine pool.run_of_reports schedule source numbered empty
    (fun id _ => (delivers.starts id).imp fun _ => And.left) reports (fun _ _ _ => rfl) ?_
  intro chunk _
  rw [ChunkReport.slot, Slot.piece_of_result source.toList rfl]
  rfl

end Pool

end ProfileLexer
