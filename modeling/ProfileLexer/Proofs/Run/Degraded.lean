import ProfileLexer.Profile.Builtin
import ProfileLexer.Proofs.Pool.Faults
import ProfileLexer.Proofs.Run.Classified

/-!
Runs that give chunks up. A chunk on which its worker fails becomes one invalid token over its place
in the source, and no other chunk is touched.
-/

namespace ProfileLexer

variable {σ : Type}

namespace Chunk

/-- The invalid token that stands for a chunk which was given up. It keeps the text of the chunk and
its place, and nothing of the lexemes in it. -/
def placeholder (chunk : Chunk) : Token :=
  .invalid .unknown ⟨String.ofList chunk.text, chunk.range.start⟩ .degradedChunk

/-- The tokens of a chunk when those of `faulty` are given up. -/
def tokensBut (profile : Profile) (faulty : Set Nat) [DecidablePred (· ∈ faulty)] (chunk : Chunk) :
    List Token :=
  if chunk.id ∈ faulty then [chunk.placeholder] else chunk.lexemes.map profile.token

end Chunk

namespace Crew

/-- Workers that all start with a classifier, and classify with it every chunk but those of
`faulty`, on which they fail. A worker may refuse one chunk and break down on another, and its state
behind a failure need only hold some classifier of the profile. What the workers write to the log is
left open. -/
structure ClassifiesBut (crew : Crew σ) (profile : Profile) (asked : ClassifyPreferences)
    (faulty : Set Nat) (classifier : σ → Classifier) : Prop where
  starts : ∀ id, ∃ first, crew.start id = .ok first ∧ (classifier first).For profile asked
  stays : ∀ state chunk, (classifier state).For profile asked →
    (classifier (crew.process state chunk).2.1).For profile asked
  fails : ∀ state chunk, chunk.id ∈ faulty → ∃ message,
    (crew.process state chunk).1 = .refused message ∨
      (crew.process state chunk).1 = .panicked message
  answers : ∀ state chunk, chunk.id ∉ faulty → (crew.process state chunk).1 =
    ((classifying profile asked).process (classifier state) chunk).1

theorem classifiesBut_classifying (profile : Profile) (asked : ClassifyPreferences) :
    (classifying profile asked).ClassifiesBut profile asked ∅ id where
  starts := fun _ => ⟨_, rfl, Classifier.for_ofProfile profile asked⟩
  stays := by
    intro state chunk ready
    obtain ⟨own, automaton, preferences⟩ := Classifier.classifyAll_for ready chunk.lexemes
    exact ⟨own, automaton, preferences⟩
  fails := fun _ _ failed => absurd failed (Set.notMem_empty _)
  answers := fun _ _ _ => rfl

/-- The crew whose workers refuse some chunks, and are otherwise as they are. A refused chunk leaves
the state of its worker alone and nothing in the log. -/
def refusing (crew : Crew σ) (faulty : Set Nat) [DecidablePred (· ∈ faulty)] (message : String) :
    Crew σ where
  start := crew.start
  process state chunk :=
    if chunk.id ∈ faulty then (.refused message, state, []) else crew.process state chunk

section

variable {crew : Crew σ} {faulty : Set Nat} [DecidablePred (· ∈ faulty)] {message : String}
variable {chunk : Chunk}

theorem process_refusing_of_failed (failed : chunk.id ∈ faulty) (state : σ) :
    (crew.refusing faulty message).process state chunk = (.refused message, state, []) :=
  if_pos failed

theorem process_refusing_of_spared (spared : chunk.id ∉ faulty) (state : σ) :
    (crew.refusing faulty message).process state chunk = crew.process state chunk :=
  if_neg spared

end

theorem classifiesBut_refusing (profile : Profile) (asked : ClassifyPreferences) (faulty : Set Nat)
    [DecidablePred (· ∈ faulty)] (message : String) :
    ((classifying profile asked).refusing faulty message).ClassifiesBut profile asked faulty id where
  starts := (classifiesBut_classifying profile asked).starts
  stays := by
    intro state chunk ready
    by_cases failed : chunk.id ∈ faulty
    · rw [process_refusing_of_failed failed]
      exact ready
    · rw [process_refusing_of_spared failed]
      exact (classifiesBut_classifying profile asked).stays state chunk ready
  fails := fun state chunk failed =>
    ⟨message, .inl (by rw [process_refusing_of_failed failed])⟩
  answers := fun state chunk spared => by
    rw [process_refusing_of_spared spared]
    rfl

namespace ClassifiesBut

variable {crew : Crew σ} {profile : Profile} {asked : ClassifyPreferences} {faulty : Set Nat}
variable {classifier : σ → Classifier}

theorem failsAt (classifies : crew.ClassifiesBut profile asked faulty classifier) :
    crew.FailsAt (fun state => (classifier state).For profile asked) faulty where
  starts := classifies.starts
  stays := classifies.stays
  answers := by
    intro state chunk _
    by_cases failed : chunk.id ∈ faulty
    · obtain ⟨message, refused | panicked⟩ := classifies.fails state chunk failed
      · simp [refused, failed]
      · simp [panicked, failed]
    · rw [classifies.answers state chunk failed]
      exact ⟨fun _ => failed, fun _ => ⟨_, rfl⟩⟩

variable {label : String} {worker : Nat} {state : σ} {chunk : Chunk}

theorem handle_of_failed (classifies : crew.ClassifiesBut profile asked faulty classifier)
    (failed : chunk.id ∈ faulty) :
    ∃ fault, (crew.handle label worker state chunk).1 = .fault fault := by
  obtain ⟨message, refused | panicked⟩ := classifies.fails state chunk failed
  · exact ⟨⟨chunk.id, worker, message, false⟩, by simp only [handle, refused, ChunkAnswer.report]⟩
  · exact ⟨⟨chunk.id, worker, message, true⟩, by simp only [handle, panicked, ChunkAnswer.report]⟩

theorem handle_of_spared (classifies : crew.ClassifiesBut profile asked faulty classifier)
    (ready : (classifier state).For profile asked) (spared : chunk.id ∉ faulty) :
    ∃ output, (crew.handle label worker state chunk).1 =
        .result (.ofOutput chunk.id worker chunk.lexemes.length output) ∧
      output.tokens = chunk.lexemes.map profile.token := by
  have answer := classifies.answers state chunk spared
  refine ⟨⟨((classifier state).classifyAll chunk.lexemes).1,
    ((classifier state).classifyAll chunk.lexemes).2.1.tally,
    ((classifier state).classifyAll chunk.lexemes).2.1.samples.toList⟩, ?_,
    Classifier.classifyAll_fst ready chunk.lexemes⟩
  simp only [handle, answer, classifying, ChunkAnswer.report]

variable {workers : Nat} {chunks : List Chunk}

theorem failsOn (classifies : crew.ClassifiesBut profile asked faulty classifier)
    (dealt : Chunk.Dealt workers chunks) :
    crew.FailsOn label workers chunks {id ∈ faulty | id < chunks.length} ∅ where
  numbered := fun _ => And.right
  faults := by
    intro id _ report member
    obtain ⟨chunk, inChunks, _, current, made⟩ := exists_chunk_of_mem_script member
    have within : report.chunk < chunks.length := by
      rw [made, handle_chunk]
      exact dealt.id_lt inChunks
    rw [classifies.failsAt.isFault_iff member]
    exact ⟨fun failed => ⟨failed, within⟩, And.left⟩
  breaks := by
    intro id
    obtain ⟨first, started, _⟩ := classifies.starts id
    simp [started]

variable [DecidablePred (· ∈ faulty)]

/-- What a chunk contributes, read off its worker: the tokens and the record, and whether there is a
fault. The message of the fault is not determined. -/
theorem piece_of_contributes (classifies : crew.ClassifiesBut profile asked faulty classifier)
    {workers : Nat} {chunks : List Chunk} {source : String} {piece : Piece}
    (numbered : chunks.map Chunk.id = List.range chunks.length)
    (member : chunk ∈ chunks)
    (place : Text.slice? source.toList chunk.range.start chunk.range.stop = some chunk.text)
    (contributes : crew.Contributes label workers chunks source chunk piece) :
    piece.tokens = chunk.tokensBut profile faulty ∧
      piece.fault.isSome = decide (chunk.id ∈ faulty) ∧ piece.record.chunk = chunk.id ∧
      piece.record.degraded = decide (chunk.id ∈ faulty) ∧
      piece.record.lexemes = chunk.lexemes.length := by
  obtain ⟨report, inScript, onChunk, made⟩ := contributes
  obtain ⟨other, inChunks, _, current, ready, handled⟩ :=
    exists_state_of_mem_script classifies.failsAt.keeps inScript
  have same : other = chunk := by
    refine Chunk.eq_of_id_eq numbered inChunks member ?_
    rw [← onChunk, handled, handle_chunk]
  subst same
  by_cases failed : other.id ∈ faulty
  · obtain ⟨fault, answer⟩ := classifies.handle_of_failed failed
    rw [handled, answer, ChunkReport.slot, Slot.piece_of_fault rfl rfl place] at made
    cases made
    simp [failed, Chunk.tokensBut, Chunk.placeholder, Slot.degradedPiece, Slot.degradedToken,
      ChunkRecord.ofTokens, Chunk.range]
  · obtain ⟨output, answer, tokens⟩ := classifies.handle_of_spared ready failed
    rw [handled, answer, ChunkReport.slot, Slot.piece_of_result _ rfl] at made
    cases made
    simp [failed, Chunk.tokensBut, tokens, WorkerResult.ofOutput, ChunkRecord.ofTokens]

end ClassifiesBut

end Crew

namespace Lexeme

/-- Where chunks lie end to end, so does what takes their places, if each chunk is replaced by
lexemes that lie end to end over the same text. Nothing is asked of the number of the lexemes. -/
theorem Tiled.flatMap_of_agree {chunks : List Chunk} (instead : Chunk → List Lexeme) {start : Nat}
    (tiled : Tiled start (chunks.flatMap Chunk.lexemes))
    (agree : ∀ chunk ∈ chunks, ∀ start, Tiled start chunk.lexemes →
      Tiled start (instead chunk) ∧ (instead chunk).flatMap (·.text.toList) = chunk.text) :
    Tiled start (chunks.flatMap instead) ∧
      (chunks.flatMap instead).flatMap (·.text.toList) = chunks.flatMap Chunk.text := by
  induction chunks generalizing start with
  | nil => exact ⟨trivial, rfl⟩
  | cons chunk chunks ih =>
    rw [List.flatMap_cons, tiled_append] at tiled
    obtain ⟨own, texts⟩ := agree chunk List.mem_cons_self start tiled.1
    obtain ⟨later, laterTexts⟩ := ih tiled.2 fun other member =>
      agree other (List.mem_cons_of_mem _ member)
    rw [List.flatMap_cons, List.flatMap_cons, List.flatMap_append, tiled_append, texts, laterTexts]
    exact ⟨⟨own, later⟩, rfl⟩

end Lexeme

namespace Chunk

variable {profile : Profile} {faulty : Set Nat} [DecidablePred (· ∈ faulty)] {chunk : Chunk}

/-- The tokens of a chunk take its place, also when it is given up. -/
theorem tiled_tokensBut (nonempty : chunk.lexemes ≠ []) {start : Nat}
    (tiled : Lexeme.Tiled start chunk.lexemes) :
    Lexeme.Tiled start ((chunk.tokensBut profile faulty).map Token.lexeme) ∧
      ((chunk.tokensBut profile faulty).map Token.lexeme).flatMap (·.text.toList) = chunk.text := by
  by_cases failed : chunk.id ∈ faulty
  · have text : chunk.text ≠ [] := by
      obtain ⟨first, rest, lexemes⟩ := List.exists_cons_of_ne_nil nonempty
      rw [lexemes] at tiled
      simp [Chunk.text, lexemes, tiled.2.1]
    simp [tokensBut, failed, placeholder, Token.invalid, Token.lexeme, Lexeme.Tiled,
      range_start tiled nonempty, text]
  · have lexemes : (chunk.tokensBut profile faulty).map Token.lexeme = chunk.lexemes := by
      simp [tokensBut, failed, Token.lexeme, Function.comp_def]
    rw [lexemes]
    exact ⟨tiled, rfl⟩

/-- The tokens of chunks lie end to end over their source, whichever chunks are given up. Only an
empty chunk could not be given up, since no token is empty. -/
theorem cover_tokensBut (profile : Profile) (faulty : Set Nat) [DecidablePred (· ∈ faulty)]
    {chunks : List Chunk} {source : String}
    (cover : Lexeme.Cover (chunks.flatMap Chunk.lexemes) source)
    (nonempty : ∀ chunk ∈ chunks, chunk.lexemes ≠ []) :
    Token.Cover (chunks.flatMap (tokensBut profile faulty)) source := by
  obtain ⟨tiled, texts⟩ := cover.tiled.flatMap_of_agree
    (fun chunk => (chunk.tokensBut profile faulty).map Token.lexeme)
    fun chunk member start own => tiled_tokensBut (nonempty chunk member) own
  refine Token.cover_of_lexemes ⟨?_, ?_⟩
  · rw [List.map_flatMap]
    exact tiled
  · rw [List.map_flatMap, texts, ← cover.texts, List.flatMap_assoc]
    rfl

/-- The same for the chunks of a plan, which are not empty by construction, so that nothing is asked
of them. -/
theorem cover_tokensBut_split (profile : Profile) (faulty : Set Nat) [DecidablePred (· ∈ faulty)]
    (workers minChunk threshold : Nat) {lexemes : List Lexeme} {source : String}
    (cover : Lexeme.Cover lexemes source) :
    Token.Cover (((ChunkPlan.compute lexemes.length workers minChunk threshold).split
      lexemes).flatMap (tokensBut profile faulty)) source := by
  refine cover_tokensBut profile faulty ?_ fun _ => ChunkPlan.lexemes_ne_nil_of_mem_split
  rw [ChunkPlan.flatMap_lexemes_split]
  exact cover

end Chunk

section

variable {crew : Crew σ} {profile : Profile} {asked : ClassifyPreferences} {faulty : Set Nat}
variable {classifier : σ → Classifier} [DecidablePred (· ∈ faulty)] {config : RunConfig}
variable {source : String} {scan : Scan}

/-- The pieces of a pool whose workers classify all chunks but some, in the order of the chunks. The
aborting policy is covered where no chunk of the plan fails. -/
theorem Pool.run_of_classifiesBut (pool : Pool) (schedule : Schedule)
    (classifies : crew.ClassifiesBut profile asked faulty classifier) {plan : ChunkPlan}
    {lexemes : List Lexeme} (cover : Lexeme.Cover lexemes source)
    (spared : pool.policy = .abortRun → ∀ chunk ∈ plan.split lexemes, chunk.id ∉ faulty) :
    ∃ pieceOf : Chunk → Piece,
      (pool.run crew schedule source (plan.split lexemes)).result =
        .ok (.ofPieces ((plan.split lexemes).map pieceOf)) ∧
      ∀ chunk ∈ plan.split lexemes, (pieceOf chunk).tokens = chunk.tokensBut profile faulty ∧
        (pieceOf chunk).fault.isSome = decide (chunk.id ∈ faulty) ∧
        (pieceOf chunk).record.chunk = chunk.id ∧
        (pieceOf chunk).record.degraded = decide (chunk.id ∈ faulty) ∧
        (pieceOf chunk).record.lexemes = chunk.lexemes.length := by
  by_cases empty : plan.split lexemes = []
  · rw [empty]
    exact ⟨fun _ => default, rfl, fun _ member => nomatch member⟩
  have undisturbed := classifies.failsAt.undisturbed spared (pool.crewSize (plan.split lexemes))
  obtain ⟨pieceOf, ran, contributes⟩ := pool.run_of_started schedule cover rfl rfl empty
    undisturbed.starts undisturbed.faultless
  exact ⟨pieceOf, ran, fun chunk member => classifies.piece_of_contributes
    (plan.map_id_split lexemes) member (ChunkPlan.slice_of_mem_split cover member)
    (contributes chunk member)⟩

omit [DecidablePred (· ∈ faulty)] in
/-- Under the aborting policy no pool succeeds on a chunk on which its workers fail. This is the
converse of what a pool needs in order to succeed under that policy. -/
theorem Pool.spared_of_run {pool : Pool} {schedule : Schedule} {plan : ChunkPlan}
    {lexemes : List Lexeme} {reassembly : Reassembly}
    (classifies : crew.ClassifiesBut profile asked faulty classifier)
    (cover : Lexeme.Cover lexemes source)
    (ran : (pool.run crew schedule source (plan.split lexemes)).result = .ok reassembly)
    (aborts : pool.policy = .abortRun) : ∀ chunk ∈ plan.split lexemes, chunk.id ∉ faulty := by
  intro chunk member failed
  have nonempty : plan.split lexemes ≠ [] := List.ne_nil_of_mem member
  have dealt := Chunk.dealt_crewSize pool (plan.map_id_split lexemes) nonempty
  have faulted := (pool.run_outcome schedule cover nonempty (classifies.failsOn dealt)).1 aborts
  obtain ⟨fault, ends, _⟩ := faulted ⟨chunk.id, ⟨failed, dealt.id_lt member⟩, by simp⟩
  rw [ran] at ends
  cases ends

/-- What the pieces of chunks come to when those of `faulty` are given up. The chunks need not be
those of a plan. -/
theorem Reassembly.ofPieces_of_classifiesBut {chunks : List Chunk} {pieceOf : Chunk → Piece}
    (pieces : ∀ chunk ∈ chunks, (pieceOf chunk).tokens = chunk.tokensBut profile faulty ∧
      (pieceOf chunk).fault.isSome = decide (chunk.id ∈ faulty) ∧
      (pieceOf chunk).record.chunk = chunk.id ∧
      (pieceOf chunk).record.degraded = decide (chunk.id ∈ faulty) ∧
      (pieceOf chunk).record.lexemes = chunk.lexemes.length) :
    (ofPieces (chunks.map pieceOf)).tokens = chunks.flatMap (Chunk.tokensBut profile faulty) ∧
      (ofPieces (chunks.map pieceOf)).degraded = (chunks.map Chunk.id).filter (· ∈ faulty) ∧
      (ofPieces (chunks.map pieceOf)).chunks.map
          (fun record => (record.chunk, record.degraded, record.lexemes)) =
        chunks.map fun chunk => (chunk.id, decide (chunk.id ∈ faulty), chunk.lexemes.length) := by
  simp only [ofPieces]
  refine ⟨?_, ?_, ?_⟩
  · rw [List.flatMap_map]
    exact List.flatMap_congr fun chunk member => (pieces chunk member).1
  · rw [List.filter_map, List.map_map, List.filter_map]
    have kept : chunks.filter ((fun piece => piece.fault.isSome) ∘ pieceOf) =
        chunks.filter ((fun id => decide (id ∈ faulty)) ∘ Chunk.id) :=
      List.filter_congr fun chunk member => (pieces chunk member).2.1
    rw [kept]
    exact List.map_congr_left fun chunk member =>
      (pieces chunk (List.mem_of_mem_filter member)).2.2.1
  · rw [List.map_map, List.map_map]
    refine List.map_congr_left fun chunk member => ?_
    obtain ⟨_, _, number, degraded, count⟩ := pieces chunk member
    simp only [Function.comp_apply, number, degraded, count]

/-- Under the degrading policy a run gives up the chunks on which workers fail, and those only: its
stream is that of a run without faults, but for one invalid token for each of these chunks. It need
not be assumed that any chunk is spared, nor that a worker fails in the same way twice, and the two
runs may have different schedules. -/
theorem stream_of_degraded
    (classifies : crew.ClassifiesBut profile config.classify faulty classifier)
    (degrades : config.schedule.policy = .degradeChunk) (positive : config.schedule.workers ≠ some 0)
    (scanned : (profile.scan config.scan source).result = .ok scan)
    (schedule otherSchedule : Schedule) (readings otherReadings : Readings) :
    ∃ result usual,
      (tokenizeWith profile config crew schedule readings source).result = .ok result ∧
      (tokenizeWith profile config (.classifying profile config.classify) otherSchedule otherReadings
        source).result = .ok usual ∧
      let chunks := result.metrics.plan.split scan.lexemes
      result.stream.verify source = .ok () ∧
      usual.stream.tokens = chunks.flatMap (fun chunk => chunk.lexemes.map profile.token) ∧
      result.stream.tokens = chunks.flatMap (fun chunk =>
        if chunk.id ∈ faulty then [chunk.placeholder] else chunk.lexemes.map profile.token) ∧
      (∀ chunk ∈ chunks, chunk.placeholder.offset = chunk.range.start ∧
        Text.slice? source.toList chunk.range.start chunk.range.stop =
          some chunk.placeholder.text.toList) ∧
      result.metrics.degraded = (List.range chunks.length).filter (· ∈ faulty) ∧
      result.metrics.chunks.map (fun record => (record.chunk, record.degraded, record.lexemes)) =
        (chunks.map fun chunk => (chunk.id, decide (chunk.id ∈ faulty), chunk.lexemes.length)) ∧
      chunks.map Chunk.id = List.range chunks.length := by
  have scannable := profile.scannable_of_scan scanned
  rw [profile.scan_of_scannable config.scan scannable] at scanned
  cases scanned
  have cover := profile.cover_scanned config.scan source
  obtain ⟨_, _, _, usual⟩ := tokenizeWith_classifying profile config.classify otherSchedule
    otherReadings positive scannable
  obtain ⟨workers, planned⟩ := SchedulePreferences.plan_eq_ok config.host positive
    (profile.scanned config.scan source).lexemes.length
  obtain ⟨pieceOf, ran, pieces⟩ := Pool.run_of_classifiesBut
    ⟨_, config.schedule.policy, config.label.getD profile.id⟩ schedule classifies cover
    fun aborts => by rw [degrades] at aborts; cases aborts
  obtain ⟨tokens, degraded, records⟩ := Reassembly.ofPieces_of_classifiesBut pieces
  have whole := ChunkPlan.flatMap_lexemes_split workers config.schedule.minChunk
    config.schedule.threshold (profile.scanned config.scan source).lexemes
  have replaced := Chunk.cover_tokensBut_split profile faulty workers config.schedule.minChunk
    config.schedule.threshold cover
  rw [← tokens] at replaced
  have result := tokenizeWith_of_dispatch readings scannable (dispatch_of_run planned ran) replaced
  refine ⟨_, _, result, usual, replaced.verify, ?_, tokens, ?_, ?_, records,
    ChunkPlan.map_id_split _ _⟩
  · rw [← List.map_flatMap]
    exact (profile.tokens_eq config.scan source).trans (congrArg _ whole.symm)
  · intro chunk member
    refine ⟨rfl, ?_⟩
    rw [ChunkPlan.slice_of_mem_split cover member]
    simp [Chunk.placeholder, Token.invalid]
  · rw [← ChunkPlan.map_id_split]
    exact degraded

omit [DecidablePred (· ∈ faulty)] in
/-- The tokens of a run that succeeds lie end to end over its source, under either policy and
whichever chunks have been given up. -/
theorem cover_of_run (classifies : crew.ClassifiesBut profile config.classify faulty classifier)
    {schedule : Schedule} {readings : Readings} {result : RunResult}
    (ran : (tokenizeWith profile config crew schedule readings source).result = .ok result) :
    Token.Cover result.stream.tokens source := by
  classical
  obtain ⟨⟨plan, reassembly⟩, dispatched, stream⟩ := Profile.exists_dispatch_of_run ran
  obtain ⟨planned, pooled⟩ := exists_plan_of_dispatch dispatched
  dsimp only at planned pooled
  have cover := profile.cover_scanned config.scan source
  obtain ⟨workers, computed⟩ := SchedulePreferences.plan_eq_ok config.host
    (Profile.positive_of_run ran) (profile.scanned config.scan source).lexemes.length
  obtain rfl := Except.ok.inj (planned.symm.trans computed)
  obtain ⟨pieceOf, again, pieces⟩ := Pool.run_of_classifiesBut _ schedule classifies cover
    (Pool.spared_of_run classifies cover pooled)
  obtain rfl := Except.ok.inj (pooled.symm.trans again)
  rw [stream]
  exact (Reassembly.ofPieces_of_classifiesBut pieces).1 ▸
    Chunk.cover_tokensBut_split profile faulty _ _ _ cover

/-- A run whose workers refuse the second chunk, next to one in which they refuse none. -/
theorem stream_of_degraded_second_chunk :
    let profile := Profile.build Builtin.imperative
    let settings := Settings.ofEnvironment [("TURING_SCHEDULER_MIN_CHUNK", "1")]
    let config := (((RunConfig.ofSettings settings ⟨4, 2⟩).withWorkers 4).withPolicy
      .degradeChunk).alwaysParallel
    let crew := (Crew.classifying profile config.classify).refusing {1} "refused"
    ∃ result usual,
      (tokenizeWith profile config crew .inOrder default "x = f(1)").result = .ok result ∧
      (tokenizeWith profile config (.classifying profile config.classify) .inOrder default
        "x = f(1)").result = .ok usual ∧
      result.stream.verify "x = f(1)" = .ok () := by
  intro profile settings config crew
  have scannable : profile.Scannable "x = f(1)" :=
    ⟨by decide, Nat.le_trans (profile.length_pieces_le 0 _) (by decide)⟩
  obtain ⟨result, usual, ran, usualRan, verified, _⟩ := stream_of_degraded
    (Crew.classifiesBut_refusing profile config.classify {1} "refused") rfl (by decide)
    (profile.scan_of_scannable config.scan scannable) .inOrder .inOrder default default
  exact ⟨result, usual, ran, usualRan, verified⟩

end

end ProfileLexer
