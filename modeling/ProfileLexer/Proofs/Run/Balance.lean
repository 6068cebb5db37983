import Mathlib.Algebra.BigOperators.Group.List.Basic
import Mathlib.Data.List.Dedup
import ProfileLexer.Proofs.Run.Degraded

/-!
The books of a run. What is counted by rule, by chunk, by worker and over the whole stream comes
from four tallies that are kept apart; they agree whatever the workers have made of their chunks and
whichever chunks have been given up.
-/

namespace ProfileLexer

section

variable {α β : Type}

theorem total_eq_sum (measure : α → Nat) (items : List α) :
    total measure items = (items.map measure).sum := by
  induction items with
  | nil => rfl
  | cons item items ih => rw [total, ih, List.map_cons, List.sum_cons]

theorem total_congr {measure other : α → Nat} {items : List α}
    (same : ∀ item ∈ items, measure item = other item) : total measure items = total other items := by
  rw [total_eq_sum, total_eq_sum, List.map_congr_left same]

/-- What a test leaves out is counted apart: the parts on both sides of it add up to the whole. -/
theorem total_filter_add (measure : α → Nat) (test : α → Bool) (items : List α) :
    total measure (items.filter test) + total measure (items.filter (!test ·)) =
      total measure items := by
  induction items with
  | nil => rfl
  | cons item items ih =>
    rw [total, ← ih]
    cases held : test item <;> simp only [List.filter_cons, held, Bool.not_true, Bool.not_false,
      if_true, Bool.false_eq_true, if_false, total] <;> omega

/-- Items told apart by keys add up to all items, key by key. Keys that no item has may be among
them, but none twice. -/
theorem total_total_filter [DecidableEq β] (measure : α → Nat) (key : α → β) {keys : List β}
    (distinct : keys.Nodup) {items : List α} (all : ∀ item ∈ items, key item ∈ keys) :
    total (fun k => total measure (items.filter (key · == k))) keys = total measure items := by
  induction keys generalizing items with
  | nil =>
    have empty : items = [] := List.eq_nil_iff_forall_not_mem.mpr fun item member =>
      List.not_mem_nil (all item member)
    rw [empty]
    rfl
  | cons k keys ih =>
    obtain ⟨fresh, distinct⟩ := List.nodup_cons.mp distinct
    have others : ∀ item ∈ items.filter (!key · == k), key item ∈ keys := by
      intro item member
      obtain ⟨inItems, apart⟩ := List.mem_filter.mp member
      exact (List.mem_cons.mp (all item inItems)).resolve_left (by simpa using apart)
    have rest : total (fun k => total measure (items.filter (key · == k))) keys =
        total (fun k' => total measure ((items.filter (!key · == k)).filter (key · == k'))) keys := by
      refine total_congr fun k' member => ?_
      have apart : k' ≠ k := fun same => fresh (same ▸ member)
      rw [List.filter_filter]
      congr 1
      refine List.filter_congr fun item _ => ?_
      by_cases own : key item = k' <;> simp [own, apart]
    rw [total, rest, ih distinct others, total_filter_add]

theorem total_const_one (items : List α) : total (fun _ => 1) items = items.length := by
  induction items with
  | nil => rfl
  | cons item items ih => rw [total, ih, List.length_cons, Nat.add_comm]

theorem total_map (measure : β → Nat) (made : α → β) (items : List α) :
    total measure (items.map made) = total (fun item => measure (made item)) items := by
  rw [total_eq_sum, total_eq_sum, List.map_map]
  rfl

theorem total_filter_pos (measure : α → Nat) (items : List α) :
    total measure (items.filter (0 < measure ·)) = total measure items := by
  induction items with
  | nil => rfl
  | cons item items ih =>
    by_cases positive : 0 < measure item
    · rw [List.filter_cons_of_pos (by simpa using positive), total, total, ih]
    · rw [List.filter_cons_of_neg (by simpa using positive), total, ih]
      omega

theorem nodup_eraseDups [BEq α] [LawfulBEq α] (items : List α) : items.eraseDups.Nodup := by
  match items with
  | [] => exact List.nodup_nil
  | item :: items =>
    rw [List.eraseDups_cons, List.nodup_cons]
    exact ⟨by simp, nodup_eraseDups _⟩
termination_by items.length
decreasing_by
  exact Nat.lt_succ_of_le (List.length_filter_le ..)

end

/-- The count of a kind in counts by kind, zero for a kind that they do not list. Of a kind that is
listed twice the first count is taken. -/
def countOf (kind : TokenKind) (counts : List (TokenKind × Nat)) : Nat :=
  (counts.lookup kind).getD 0

theorem countOf_filter_pos {kinds : List TokenKind} {count : TokenKind → Nat} {kind : TokenKind}
    (member : kind ∈ kinds) :
    countOf kind ((kinds.map fun kind => (kind, count kind)).filter (0 < ·.2)) = count kind := by
  by_cases counted : 0 < count kind
  · induction kinds with
    | nil => cases member
    | cons other kinds ih =>
      by_cases same : kind = other
      · subst same
        simp [countOf, counted]
      · have later := ih ((List.mem_cons.mp member).resolve_left same)
        rw [← later, countOf, countOf, List.map_cons, List.filter_cons]
        split
        · rw [List.lookup_cons, beq_false_of_ne same]
        · rfl
  · have unlisted : ((kinds.map fun kind => (kind, count kind)).filter (0 < ·.2)).lookup kind =
        none := by
      rw [List.lookup_eq_none_iff]
      intro entry listed
      obtain ⟨made, positive⟩ := List.mem_filter.mp listed
      obtain ⟨other, _, rfl⟩ := List.mem_map.mp made
      have apart : kind ≠ other := fun same => counted (by simpa [same] using positive)
      simpa using apart
    rw [countOf, unlisted, Option.getD_none]
    omega

theorem TokenKind.mem_all (kind : TokenKind) : kind ∈ TokenKind.all := by
  cases kind <;> decide

theorem countOf_kindCounts (kind : TokenKind) (tokens : List Token) :
    countOf kind (kindCounts tokens) = tokens.countP (·.kind == kind) :=
  countOf_filter_pos kind.mem_all

theorem Rule.mem_all (rule : Rule) : rule ∈ Rule.all := by
  cases rule <;> decide

/-- Each lexeme is a hit of one rule. The hits are counted apart from the lexemes, rule by rule, and
rules without a hit are not listed. -/
theorem Scan.total_ruleHits (scan : Scan) : total (·.2) scan.ruleHits = scan.lexemes.length := by
  have hits : ∀ rule, scan.hits rule =
      total (fun _ => 1) (scan.bounded.filter (·.rule == rule)) := by
    intro rule
    rw [total_const_one, Scan.hits, List.countP_eq_length_filter]
  have distinct : Rule.all.Nodup := by decide
  have all := total_total_filter (fun _ => 1) Bounded.rule distinct
    fun bounded (_ : bounded ∈ scan.bounded) => bounded.rule.mem_all
  rw [ruleHits, total_filter_pos (fun entry : Rule × Nat => entry.2), total_map,
    total_congr fun rule _ => hits rule, all, total_const_one, lexemes, List.length_map]

/-- The record of a chunk tells of the tokens that the chunk has become. The number of lexemes is
that of the chunk itself, also where it has been given up for one token; worker and time are left
open. -/
structure Piece.Recorded (chunk : Chunk) (piece : Piece) : Prop where
  tokens : piece.record.tokens = piece.tokens.length
  invalid : piece.record.invalid = piece.tokens.countP (!·.valid)
  kinds : piece.record.kinds = kindCounts piece.tokens
  lexemes : piece.record.lexemes = chunk.lexemes.length

/-- Whatever a worker makes of a chunk, its record is true. The crew is arbitrary: its tokens need
not have anything to do with the lexemes. -/
theorem Crew.Contributes.recorded {σ : Type} {crew : Crew σ} {label : String} {workers : Nat}
    {chunks : List Chunk} {source : String} {chunk : Chunk} {piece : Piece}
    (numbered : chunks.map Chunk.id = List.range chunks.length) (member : chunk ∈ chunks)
    (place : Text.slice? source.toList chunk.range.start chunk.range.stop = some chunk.text)
    (contributes : crew.Contributes label workers chunks source chunk piece) :
    piece.Recorded chunk := by
  obtain ⟨report, inScript, onChunk, made⟩ := contributes
  obtain ⟨other, inChunks, _, current, handled⟩ := exists_chunk_of_mem_script inScript
  have same : other = chunk := by
    refine Chunk.eq_of_id_eq numbered inChunks member ?_
    rw [← onChunk, handled, handle_chunk]
  subst same
  have fault : ∀ fault, report = .fault fault → piece.Recorded other := by
    rintro fault rfl
    rw [ChunkReport.slot, Slot.piece_of_fault rfl rfl place] at made
    cases made
    exact ⟨rfl, rfl, rfl, rfl⟩
  rw [handle] at handled
  cases answer : (crew.process current other).1 with
  | done output =>
    simp only [answer, ChunkAnswer.report] at handled
    rw [handled, ChunkReport.slot, Slot.piece_of_result _ rfl] at made
    cases made
    exact ⟨rfl, rfl, rfl, rfl⟩
  | refused message =>
    simp only [answer, ChunkAnswer.report] at handled
    exact fault _ handled
  | panicked message =>
    simp only [answer, ChunkAnswer.report] at handled
    exact fault _ handled

namespace RunMetrics

theorem mem_workersOf {records : List ChunkRecord} {worker : Nat} :
    worker ∈ workersOf records ↔ ∃ record ∈ records, record.worker = worker := by
  rw [workersOf, List.mem_mergeSort, List.mem_eraseDups, List.mem_map]

theorem pairwise_workersOf (records : List ChunkRecord) :
    (workersOf records).Pairwise (· < ·) := by
  have sorted : ((records.map (·.worker)).eraseDups.mergeSort fun first second =>
      first ≤ second).Pairwise fun first second => decide (first ≤ second) = true :=
    List.pairwise_mergeSort (fun _ _ _ => by simpa using Nat.le_trans)
      (fun first second => by simpa using Nat.le_total first second) _
  have distinct := (List.mergeSort_perm (records.map (·.worker)).eraseDups
    fun first second => first ≤ second).nodup_iff.mpr (nodup_eraseDups _)
  refine (sorted.and distinct).imp fun ⟨atMost, apart⟩ => ?_
  exact Nat.lt_of_le_of_ne (by simpa using atMost) apart

/-- The parts of the workers add up to the whole, for whatever is measured of a record. -/
theorem total_workersOf (measure : ChunkRecord → Nat) (records : List ChunkRecord) :
    total (fun worker => total measure (records.filter (·.worker == worker))) (workersOf records) =
      total measure records :=
  total_total_filter measure (·.worker)
    ((pairwise_workersOf records).imp fun less => Nat.ne_of_lt less)
    fun record member => mem_workersOf.mpr ⟨record, member, rfl⟩

/-- The counts of a run agree with each other and with its stream. The fields on chunks, on workers
and on rules are tallies that are kept apart while a run is made; that the stream covers the source
is not among them. -/
structure Balanced (metrics : RunMetrics) (stream : TokenStream) : Prop where
  tokens : metrics.tokens = stream.length
  invalid : metrics.invalid = stream.invalidCount
  kinds : metrics.kinds = kindCounts stream.tokens
  chunks : metrics.chunks.length = metrics.plan.count
  chunkTokens : total (·.tokens) metrics.chunks = stream.length
  chunkInvalid : total (·.invalid) metrics.chunks = stream.invalidCount
  chunkKinds : ∀ kind, total (countOf kind ·.kinds) metrics.chunks =
    countOf kind (kindCounts stream.tokens)
  chunkLexemes : total (·.lexemes) metrics.chunks = metrics.scan.lexemes.length
  ruleHits : total (·.2) metrics.scan.ruleHits = metrics.scan.lexemes.length
  /-- Workers come in ascending order, each once. -/
  ascending : (metrics.workers.map (·.worker)).Pairwise (· < ·)
  /-- There is a summary of every worker with a record, and no other. -/
  workers : ∀ worker, (∃ summary ∈ metrics.workers, summary.worker = worker) ↔
    ∃ record ∈ metrics.chunks, record.worker = worker
  workerChunks : total (·.chunks) metrics.workers = metrics.plan.count
  workerTokens : total (·.tokens) metrics.workers = stream.length
  invalidTokens : metrics.invalidTokens =
    (stream.tokens.filter (!·.valid)).take (min Limits.maxInvalidSamples stream.invalidCount)

end RunMetrics

namespace Reassembly

theorem total_chunks_ofPieces (measure : ChunkRecord → Nat) (chunks : List Chunk)
    (pieceOf : Chunk → Piece) : total measure (ofPieces (chunks.map pieceOf)).chunks =
      total (fun chunk => measure (pieceOf chunk).record) chunks := by
  simp only [ofPieces]
  rw [total_map, total_map]

theorem countP_tokens_ofPieces (test : Token → Bool) (chunks : List Chunk)
    (pieceOf : Chunk → Piece) : (ofPieces (chunks.map pieceOf)).tokens.countP test =
      total (fun chunk => (pieceOf chunk).tokens.countP test) chunks := by
  simp only [ofPieces]
  rw [List.flatMap_map, List.countP_flatMap, total_eq_sum]
  rfl

theorem length_tokens_ofPieces (chunks : List Chunk) (pieceOf : Chunk → Piece) :
    (ofPieces (chunks.map pieceOf)).tokens.length =
      total (fun chunk => (pieceOf chunk).tokens.length) chunks := by
  simp only [ofPieces]
  rw [List.flatMap_map, List.length_flatMap, total_eq_sum]

end Reassembly

namespace RunMetrics

section

variable (profile : String) (scan : Scan) (run : ScheduledRun) (stream : TokenStream)
  (readings : Readings)

theorem map_worker_workers_collect :
    (collect profile scan run stream readings).workers.map (·.worker) =
      workersOf run.reassembly.chunks := by
  simp only [collect, List.map_map, Function.comp_def, WorkerSummary.ofRecords, List.map_id']

theorem total_chunks_workers_collect :
    total (·.chunks) (collect profile scan run stream readings).workers =
      run.reassembly.chunks.length := by
  simp only [collect]
  rw [total_map, ← total_const_one run.reassembly.chunks, ← total_workersOf]
  exact total_congr fun worker _ => (total_const_one _).symm

theorem total_tokens_workers_collect :
    total (·.tokens) (collect profile scan run stream readings).workers =
      total (·.tokens) run.reassembly.chunks := by
  simp only [collect]
  rw [total_map, ← total_workersOf]
  rfl

theorem invalidTokens_collect :
    (collect profile scan run stream readings).invalidTokens =
      (stream.tokens.filter (!·.valid)).take (min Limits.maxInvalidSamples stream.invalidCount) := by
  simp only [collect, TokenStream.invalid]
  rw [TokenStream.invalidCount, TokenStream.invalid, ← List.take_eq_take_min]

end

/-- True records of chunks balance, whoever has made them. All that is needed of the plan is that
its chunks hold the lexemes of the scan. -/
theorem balanced_of_recorded {plan : ChunkPlan} {scan : Scan} {pieceOf : Chunk → Piece}
    {reassembly : Reassembly} (profile : String) (readings : Readings)
    (reassembled : reassembly = .ofPieces ((plan.split scan.lexemes).map pieceOf))
    (whole : (plan.split scan.lexemes).flatMap Chunk.lexemes = scan.lexemes)
    (recorded : ∀ chunk ∈ plan.split scan.lexemes, (pieceOf chunk).Recorded chunk) :
    (collect profile scan ⟨plan, reassembly⟩ (.ofTokens reassembly.tokens) readings).Balanced
      (.ofTokens reassembly.tokens) := by
  subst reassembled
  have tokens : total (·.tokens) (Reassembly.ofPieces ((plan.split scan.lexemes).map pieceOf)).chunks =
      (Reassembly.ofPieces ((plan.split scan.lexemes).map pieceOf)).tokens.length := by
    rw [Reassembly.total_chunks_ofPieces, Reassembly.length_tokens_ofPieces]
    exact total_congr fun chunk member => (recorded chunk member).tokens
  have records : (Reassembly.ofPieces ((plan.split scan.lexemes).map pieceOf)).chunks.length =
      plan.count := by
    simp only [Reassembly.ofPieces, List.length_map, plan.length_split]
  exact {
    tokens := rfl
    invalid := rfl
    kinds := rfl
    chunks := records
    chunkTokens := tokens
    chunkInvalid := by
      rw [TokenStream.invalidCount, TokenStream.invalid, ← List.countP_eq_length_filter]
      refine (Reassembly.total_chunks_ofPieces ..).trans (.trans ?_
        (Reassembly.countP_tokens_ofPieces ..).symm)
      exact total_congr fun chunk member => (recorded chunk member).invalid
    chunkKinds := by
      intro kind
      rw [countOf_kindCounts]
      refine (Reassembly.total_chunks_ofPieces ..).trans (.trans ?_
        (Reassembly.countP_tokens_ofPieces ..).symm)
      exact total_congr fun chunk member => by
        rw [(recorded chunk member).kinds, countOf_kindCounts]
    chunkLexemes := by
      refine (Reassembly.total_chunks_ofPieces ..).trans (.trans
        (total_congr fun chunk member => (recorded chunk member).lexemes) ?_)
      rw [total_eq_sum, ← List.length_flatMap, whole]
      rfl
    ruleHits := scan.total_ruleHits
    ascending := map_worker_workers_collect .. ▸ pairwise_workersOf _
    workers := by
      intro worker
      rw [← List.mem_map, map_worker_workers_collect]
      exact mem_workersOf
    workerChunks := (total_chunks_workers_collect ..).trans records
    workerTokens := (total_tokens_workers_collect ..).trans tokens
    invalidTokens := invalidTokens_collect .. }

variable {σ : Type} {profile : Profile} {crew : Crew σ} {config : RunConfig} {schedule : Schedule}
  {readings : Readings} {source : String} {result : RunResult}

/-- The counts of every run that succeeds balance, whatever the workers have made of their chunks
and whichever chunks have been given up. Nothing is assumed of the crew, the policy or the schedule,
nor that the stream has been checked. -/
theorem balanced_of_run
    (ran : (tokenizeWith profile config crew schedule readings source).result = .ok result) :
    result.metrics.Balanced result.stream ∧
      (profile.scan config.scan source).result = .ok result.metrics.scan := by
  obtain ⟨⟨plan, reassembly⟩, dispatched, rfl⟩ := Profile.exists_result_of_run ran
  obtain ⟨planned, pooled⟩ := exists_plan_of_dispatch dispatched
  dsimp only at planned pooled
  have cover := profile.cover_scanned config.scan source
  obtain ⟨workers, computed⟩ := SchedulePreferences.plan_eq_ok config.host
    (Profile.positive_of_run ran) (profile.scanned config.scan source).lexemes.length
  obtain rfl := Except.ok.inj (planned.symm.trans computed)
  obtain ⟨pieceOf, reassembled, contributes⟩ := Pool.contributes_of_run _ schedule cover rfl rfl pooled
  refine ⟨balanced_of_recorded _ readings reassembled (ChunkPlan.flatMap_lexemes_split ..) ?_,
    profile.scan_of_scannable config.scan (Profile.scannable_of_run ran)⟩
  exact fun chunk member => (contributes chunk member).recorded (ChunkPlan.map_id_split ..) member
    (ChunkPlan.slice_of_mem_split cover member)

/-- A run in which the second of two chunks is refused: four lexemes become three tokens, and the
one for the refused chunk is the one sample of what is invalid. -/
theorem balanced_of_run_with_refused_chunk :
    let profile := Profile.build (.ofId "plain")
    let settings := Settings.ofEnvironment [("TURING_SCHEDULER_MIN_CHUNK", "2")]
    let config := (((RunConfig.ofSettings settings ⟨4, 2⟩).withWorkers 2).withPolicy
      .degradeChunk).alwaysParallel
    let crew := (Crew.classifying profile config.classify).refusing {1} "refused"
    ∃ result, (tokenizeWith profile config crew .inOrder default "a b\n").result = .ok result ∧
      result.metrics.Balanced result.stream ∧
      (profile.scan config.scan "a b\n").result = .ok result.metrics.scan ∧
      result.metrics.scan.lexemes.length = 4 ∧ result.stream.length = 3 ∧
      result.metrics.invalidTokens = [.invalid .unknown ⟨"b\n", 2⟩ .degradedChunk] := by
  intro profile settings config crew
  have scannable : profile.Scannable "a b\n" :=
    ⟨by decide, Nat.le_trans (profile.length_pieces_le 0 _) (by decide)⟩
  let lexemes : List Lexeme := [⟨"a", 0⟩, ⟨" ", 1⟩, ⟨"b", 2⟩, ⟨"\n", 3⟩]
  have scanned : (profile.scanned config.scan "a b\n").lexemes = lexemes := by decide +kernel
  have planned : config.schedule.plan config.host 4 = .ok ⟨4, 2, 2, 2⟩ := by decide +kernel
  have cover := profile.cover_scanned config.scan "a b\n"
  rw [scanned] at cover
  have split : ((ChunkPlan.mk 4 2 2 2).split lexemes).flatMap (Chunk.tokensBut profile {1}) =
      [⟨.identifier, "a", 0, true, none⟩, ⟨.whitespace, " ", 1, true, none⟩,
        .invalid .unknown ⟨"b\n", 2⟩ .degradedChunk] := by decide +kernel
  obtain ⟨reassembly, pooled, tokens⟩ : ∃ reassembly,
      (Pool.run ⟨2, .degradeChunk, config.label.getD profile.id⟩ crew .inOrder "a b\n"
        ((ChunkPlan.mk 4 2 2 2).split lexemes)).result = .ok reassembly ∧
      reassembly.tokens = [⟨.identifier, "a", 0, true, none⟩, ⟨.whitespace, " ", 1, true, none⟩,
        .invalid .unknown ⟨"b\n", 2⟩ .degradedChunk] := by
    obtain ⟨pieceOf, pooled, pieces⟩ := Pool.run_of_classifiesBut
      ⟨2, .degradeChunk, config.label.getD profile.id⟩ .inOrder
      (Crew.classifiesBut_refusing profile config.classify {1} "refused") cover
      fun aborts => nomatch aborts
    exact ⟨_, pooled, (Reassembly.ofPieces_of_classifiesBut pieces).1.trans split⟩
  have dispatched : (dispatch config.schedule config.host (config.label.getD profile.id) crew
      .inOrder "a b\n" lexemes).result = .ok ⟨⟨4, 2, 2, 2⟩, reassembly⟩ :=
    dispatch_of_run planned pooled
  rw [← scanned] at dispatched
  have replaced : Token.Cover reassembly.tokens "a b\n" := by
    rw [tokens]
    exact ⟨⟨rfl, by decide, rfl, by decide, rfl, by decide, trivial⟩, by decide⟩
  have ran := tokenizeWith_of_dispatch default scannable dispatched replaced
  obtain ⟨balanced, scan⟩ := balanced_of_run ran
  refine ⟨_, ran, balanced, scan, congrArg List.length scanned, congrArg List.length tokens, ?_⟩
  rw [balanced.invalidTokens, tokens]
  rfl

end RunMetrics

end ProfileLexer
