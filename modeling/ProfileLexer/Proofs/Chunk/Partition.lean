import Mathlib.Data.List.Sort
import Mathlib.Tactic.Ring
import ProfileLexer.Pool.Basic
import ProfileLexer.Proofs.Chunk.Place
import ProfileLexer.Proofs.Guarded.Plan
import ProfileLexer.Proofs.Scan.Cut

/-!
Plans partition. The lexemes are dealt to chunks, of which only the last may differ in length, the
chunks are dealt in turn to the workers, and the places of the chunks partition the source.
-/

namespace ProfileLexer

/-- Chunks whose places lie end to end, from an offset to another one. A chunk may be empty as far
as this goes. -/
inductive Chunk.Adjoin : Nat → List Chunk → Nat → Prop where
  | nil (stop : Nat) : Adjoin stop [] stop
  | cons {chunk : Chunk} {chunks : List Chunk} {stop : Nat} :
    Adjoin chunk.range.stop chunks stop → Adjoin chunk.range.start (chunk :: chunks) stop

namespace ChunkPlan

/-- What a plan makes of as many lexemes as it is for. Only the last chunk may differ in length, and
it is shorter than two of the others together. -/
structure Cuts (plan : ChunkPlan) (lexemes : List Lexeme) : Prop where
  count : (plan.split lexemes).length = plan.count
  ids : (plan.split lexemes).map Chunk.id = List.range plan.count
  whole : (plan.split lexemes).flatMap Chunk.lexemes = lexemes
  nonempty : ∀ chunk ∈ plan.split lexemes, chunk.lexemes ≠ []
  sizes : ∃ last < 2 * plan.length, (plan.split lexemes).map (·.lexemes.length) =
    List.replicate (plan.count - 1) plan.length ++ [last]

/-- How a plan deals its chunks to its workers. No worker goes without a chunk, and none has two
chunks more than another. -/
structure Deals (plan : ChunkPlan) : Prop where
  some_worker : 1 ≤ plan.workers
  few_workers : plan.workers ≤ plan.count
  busy : ∀ worker < plan.workers, plan.assignedTo worker ≠ []
  covers : ∀ id < plan.count, ∃! worker, worker < plan.workers ∧ id ∈ plan.assignedTo worker
  within : ∀ worker < plan.workers, ∀ id ∈ plan.assignedTo worker, id < plan.count
  once : ∀ worker < plan.workers, (plan.assignedTo worker).Nodup
  even : ∀ first < plan.workers, ∀ second < plan.workers,
    (plan.assignedTo first).length ≤ (plan.assignedTo second).length + 1

/-- The last chunk takes what the others leave, which have the length of the plan. It may be shorter
or longer than they are. -/
theorem map_length_splitFrom {length id left : Nat} {lexemes : List Lexeme}
    (enough : left * length ≤ lexemes.length) :
    (splitFrom length id lexemes (left + 1)).map (·.lexemes.length) =
      List.replicate left length ++ [lexemes.length - left * length] := by
  induction left generalizing id lexemes with
  | zero => simp [splitFrom]
  | succ left ih =>
    have size : (left + 1) * length = left * length + length := Nat.succ_mul _ _
    have rest : (lexemes.drop length).length = lexemes.length - length := List.length_drop
    have first : (lexemes.take length).length = length := by
      rw [List.length_take]
      omega
    have last : lexemes.length - length - left * length =
        lexemes.length - (left + 1) * length := by omega
    rw [splitFrom, List.map_cons, ih (by omega), rest, last, first]
    rfl

/-- A plan for some lexemes leaves less than two of its lengths to the last chunk. The number of
workers and the limits may be any, zero included. -/
theorem exists_last_compute {total : Nat} (workers minChunk threshold : Nat)
    (some_left : 0 < total) : ∃ left, (compute total workers minChunk threshold).count = left + 1 ∧
      left * (compute total workers minChunk threshold).length ≤ total ∧
      total < (left + 2) * (compute total workers minChunk threshold).length := by
  unfold compute
  dsimp only
  rw [if_neg (by omega)]
  split
  · exact ⟨0, rfl, by omega, by dsimp only; omega⟩
  split
  · exact ⟨total - 1, by dsimp only; omega, by dsimp only; omega, by dsimp only; omega⟩
  · generalize size : max (total / (2 * max workers 1)) (max minChunk 1) = length
    have positive : 0 < length := by omega
    have below := Nat.lt_mul_div_succ total positive
    have above := Nat.div_mul_le_self total length
    rcases Nat.eq_zero_or_pos (total / length) with none_whole | some_whole
    · rw [none_whole] at below
      refine ⟨0, ?_, ?_, ?_⟩
      · dsimp only
        omega
      · dsimp only
        omega
      · dsimp only
        omega
    · obtain ⟨left, whole⟩ := Nat.exists_eq_add_of_lt some_whole
      rw [Nat.zero_add] at whole
      rw [whole] at below above
      have front : (left + 1) * length = left * length + length := Nat.succ_mul _ _
      have behind : length * (left + 1 + 1) = (left + 2) * length := Nat.mul_comm _ _
      refine ⟨left, ?_, ?_, ?_⟩
      · dsimp only
        omega
      · dsimp only
        omega
      · dsimp only
        omega

theorem cuts_compute {lexemes : List Lexeme} (workers minChunk threshold : Nat)
    (some_left : 0 < lexemes.length) :
    (compute lexemes.length workers minChunk threshold).Cuts lexemes := by
  obtain ⟨left, count, enough, few⟩ := exists_last_compute workers minChunk threshold some_left
  generalize made : compute lexemes.length workers minChunk threshold = plan at count enough few
  have split : (left + 2) * plan.length = left * plan.length + 2 * plan.length := Nat.add_mul _ _ _
  refine ⟨plan.length_split lexemes, ?_, ?_, ?_, ?_⟩
  · have ids := plan.map_id_split lexemes
    rwa [plan.length_split lexemes] at ids
  · rw [← made]
    exact flatMap_lexemes_split workers minChunk threshold lexemes
  · intro chunk member
    rw [← made] at member
    exact lexemes_ne_nil_of_mem_split member
  · refine ⟨lexemes.length - left * plan.length, by omega, ?_⟩
    rw [ChunkPlan.split, count, map_length_splitFrom enough]
    rfl

/-- There are about two chunks for each worker, and fewer than four. -/
theorem count_compute_lt {total : Nat} (workers minChunk threshold : Nat) (some_left : 0 < total) :
    (compute total workers minChunk threshold).count < 4 * max workers 1 := by
  unfold compute
  dsimp only
  rw [if_neg (by omega)]
  split
  · dsimp only
    omega
  split
  · dsimp only
    omega
  · generalize most : max workers 1 = all
    generalize share : total / (2 * all) = part
    generalize size : max part (max minChunk 1) = length
    -- the share of half a worker is rounded down, but no length is less than half of the next share
    have below : total < 2 * all * (part + 1) := by
      rw [← share]
      exact Nat.lt_mul_div_succ total (by omega)
    have twice : part + 1 ≤ 2 * length := by omega
    have bound : 2 * all * (part + 1) ≤ 2 * all * (2 * length) := Nat.mul_le_mul_left _ twice
    have regroup : 2 * all * (2 * length) = 4 * all * length := by ring
    have few : total / length < 4 * all := (Nat.div_lt_iff_lt_mul (by omega)).mpr (by omega)
    dsimp only
    omega

theorem workers_compute {total : Nat} (workers minChunk threshold : Nat) (some_left : 0 < total) :
    1 ≤ (compute total workers minChunk threshold).workers ∧
      (compute total workers minChunk threshold).workers ≤
        (compute total workers minChunk threshold).count := by
  unfold compute
  dsimp only
  rw [if_neg (by omega)]
  repeat' split
  all_goals
    dsimp only
    omega

theorem mem_assignedTo {plan : ChunkPlan} {worker : Nat} (mine : worker < plan.workers)
    {id : Nat} : id ∈ plan.assignedTo worker ↔ id < plan.count ∧ id % plan.workers = worker := by
  have steps (step : Nat) :
      step < (plan.count - worker + plan.workers - 1) / plan.workers ↔
        worker + step * plan.workers < plan.count := by
    have next : (step + 1) * plan.workers = step * plan.workers + plan.workers := Nat.succ_mul _ _
    rw [Nat.lt_iff_add_one_le, Nat.le_div_iff_mul_le (by omega)]
    omega
  unfold assignedTo
  dsimp only
  rw [Nat.max_eq_left (by omega), List.mem_map]
  constructor
  · rintro ⟨step, within, rfl⟩
    refine ⟨(steps step).mp (List.mem_range.mp within), ?_⟩
    rw [Nat.add_mul_mod_self_right, Nat.mod_eq_of_lt mine]
  · rintro ⟨within, rest⟩
    have whole := Nat.mod_add_div id plan.workers
    rw [rest, Nat.mul_comm] at whole
    refine ⟨id / plan.workers, List.mem_range.mpr ((steps _).mpr ?_), whole⟩
    omega

theorem pairwise_assignedTo (plan : ChunkPlan) (worker : Nat) :
    (plan.assignedTo worker).Pairwise (· < ·) := by
  have positive : 0 < max plan.workers 1 := by omega
  unfold assignedTo
  refine List.pairwise_map.mpr (List.pairwise_lt_range.imp ?_)
  intro first second ordered
  have apart := Nat.mul_lt_mul_of_pos_right ordered positive
  omega

/-- The chunks of a worker are those whose numbers leave the number of the worker, when they are
divided by the number of workers. -/
theorem assignedTo_eq {plan : ChunkPlan} {worker : Nat} (mine : worker < plan.workers) :
    plan.assignedTo worker =
      (List.range plan.count).filter fun id => id % plan.workers == worker := by
  refine (plan.pairwise_assignedTo worker).eq_of_mem_iff (List.pairwise_lt_range.filter _) ?_
  intro id
  rw [mem_assignedTo mine, List.mem_filter, List.mem_range, beq_iff_eq]

theorem length_assignedTo (plan : ChunkPlan) (worker : Nat) : (plan.assignedTo worker).length =
    (plan.count - worker + max plan.workers 1 - 1) / max plan.workers 1 := by
  unfold assignedTo
  rw [List.length_map, List.length_range]

/-- Chunks are dealt in turn. All that is needed is a chunk for every worker. -/
theorem deals_of_workers {plan : ChunkPlan} (some_worker : 1 ≤ plan.workers)
    (few_workers : plan.workers ≤ plan.count) : plan.Deals where
  some_worker := some_worker
  few_workers := few_workers
  busy worker mine := by
    have member : worker ∈ plan.assignedTo worker := by
      rw [mem_assignedTo mine, Nat.mod_eq_of_lt mine]
      exact ⟨by omega, rfl⟩
    exact List.ne_nil_of_mem member
  covers id within := by
    have mine : id % plan.workers < plan.workers := Nat.mod_lt _ some_worker
    refine ⟨id % plan.workers, ⟨mine, (mem_assignedTo mine).mpr ⟨within, rfl⟩⟩, ?_⟩
    rintro other ⟨theirs, member⟩
    exact ((mem_assignedTo theirs).mp member).2.symm
  within worker mine id member := ((mem_assignedTo mine).mp member).1
  once worker _ := (plan.pairwise_assignedTo worker).imp Nat.ne_of_lt
  even first _ second mine := by
    have onceMore := Nat.add_div_right (plan.count - second + plan.workers - 1) some_worker
    rw [length_assignedTo, length_assignedTo, Nat.max_eq_left some_worker, ← onceMore]
    refine Nat.div_le_div_right ?_
    omega

variable {lexemes : List Lexeme}

/-- A pool for the workers of a plan has no other queues than the plan deals. The pool and the plan
count them out apart from each other. -/
theorem map_queue_start {plan : ChunkPlan} (deals : plan.Deals) {pool : Pool}
    (same : pool.workers = plan.workers) {σ : Type} :
    (PoolState.start (pool.crewSize (plan.split lexemes)) pool.policy
        (plan.split lexemes) : PoolState σ).workers.map (fun worker => worker.queue.map Chunk.id) =
      (List.range plan.workers).map plan.assignedTo := by
  have some_worker := deals.some_worker
  have few_workers := deals.few_workers
  have size : pool.crewSize (plan.split lexemes) = plan.workers := by
    rw [Pool.crewSize, plan.length_split, same]
    omega
  have ids := plan.map_id_split lexemes
  rw [plan.length_split] at ids
  rw [size, PoolState.start, List.map_map]
  refine List.map_congr_left ?_
  intro worker member
  have mine := List.mem_range.mp member
  have queue := List.filter_map (f := Chunk.id) (p := fun id => id % plan.workers == worker)
    (l := plan.split lexemes)
  rw [assignedTo_eq mine, ← ids, queue]
  rfl

/-- A chunk of lexemes that lie end to end, in front of chunks that do. -/
theorem adjoin_cons {chunk : Chunk} {chunks : List Chunk} {start stop : Nat}
    (tiled : Lexeme.Tiled start chunk.lexemes) (nonempty : chunk.lexemes ≠ [])
    (rest : Chunk.Adjoin (start + Text.byteLength chunk.text) chunks stop) :
    Chunk.Adjoin start (chunk :: chunks) stop := by
  rw [← Chunk.range_stop tiled nonempty] at rest
  have adjoin := Chunk.Adjoin.cons rest
  rwa [Chunk.range_start tiled nonempty] at adjoin

/-- The chunks of lexemes that lie end to end lie end to end as well. Empty chunks are excluded,
since their place would be at zero. -/
theorem adjoin_splitFrom {length id left start : Nat} (tiled : Lexeme.Tiled start lexemes)
    (nonempty : ∀ chunk ∈ splitFrom length id lexemes (left + 1), chunk.lexemes ≠ []) :
    Chunk.Adjoin start (splitFrom length id lexemes (left + 1))
      (start + Text.byteLength (lexemes.flatMap (·.text.toList))) := by
  induction left generalizing id lexemes start with
  | zero =>
    have alone : ([⟨id, lexemes⟩] : List Chunk) = splitFrom length id lexemes 1 := rfl
    have member : ⟨id, lexemes⟩ ∈ splitFrom length id lexemes 1 := alone ▸ List.mem_cons_self
    exact adjoin_cons tiled (nonempty _ member) (.nil _)
  | succ left ih =>
    rw [splitFrom] at nonempty ⊢
    obtain ⟨first, later⟩ := List.forall_mem_cons.mp nonempty
    rw [← List.take_append_drop length lexemes] at tiled
    obtain ⟨front, behind⟩ := Lexeme.tiled_append.mp tiled
    have rest := ih behind later
    have whole : Text.byteLength ((lexemes.take length).flatMap (·.text.toList)) +
        Text.byteLength ((lexemes.drop length).flatMap (·.text.toList)) =
        Text.byteLength (lexemes.flatMap (·.text.toList)) := by
      rw [← Text.byteLength_append, ← List.flatMap_append, List.take_append_drop]
    rw [Nat.add_assoc, whole] at rest
    exact adjoin_cons front first rest

/-- The places of the chunks of a scan partition the source, from its first byte to its last. -/
theorem adjoin_split {source : String} {workers minChunk threshold : Nat}
    (cover : Lexeme.Cover lexemes source) (some_left : 0 < lexemes.length) :
    Chunk.Adjoin 0 ((compute lexemes.length workers minChunk threshold).split lexemes)
      source.utf8ByteSize := by
  have cuts : (compute lexemes.length workers minChunk threshold).Cuts lexemes :=
    cuts_compute workers minChunk threshold some_left
  obtain ⟨left, count, _⟩ := exists_last_compute workers minChunk threshold some_left
  have nonempty := cuts.nonempty
  rw [split, count] at nonempty ⊢
  have adjoin := adjoin_splitFrom cover.tiled nonempty
  rwa [cover.texts, Nat.zero_add, Text.byteLength_toList] at adjoin

/-- A plan for less than half as many lexemes as there are words is made without overflow. It cuts
any such lexemes into chunks that are numbered in order and of one length but for the last, deals
the chunks evenly to the workers, whose queues are dealt in the same way, and cuts what a scan finds
into chunks whose places partition the source. Nothing is assumed of the number of workers, of the
least length of a chunk or of the threshold. -/
theorem compute_partitions {total : Nat} (some_left : 0 < total) (small : total < signedLimit)
    (workers minChunk threshold : Nat) :
    ∃ plan, Guarded.plan total workers minChunk threshold = some plan ∧
      compute? total workers minChunk threshold = some plan ∧
      plan.count < 4 * max workers 1 ∧
      plan.Deals ∧
      (∀ lexemes : List Lexeme, lexemes.length = total → plan.Cuts lexemes ∧
        ∀ (pool : Pool) (σ : Type), pool.workers = plan.workers →
          (PoolState.start (pool.crewSize (plan.split lexemes)) pool.policy
            (plan.split lexemes) : PoolState σ).workers.map (·.queue.map Chunk.id) =
              (List.range plan.workers).map plan.assignedTo) ∧
      ∀ (profile : Profile) (preferences : ScanPreferences) (source : String) (scan : Scan),
        (profile.scan preferences source).result = .ok scan → scan.lexemes.length = total →
        Chunk.Adjoin 0 (plan.split scan.lexemes) source.utf8ByteSize := by
  have made : compute? total workers minChunk threshold =
      some (compute total workers minChunk threshold) := by
    have half : 2 * signedLimit = wordLimit := by decide
    rw [compute?, if_neg]
    omega
  obtain ⟨some_worker, few_workers⟩ := workers_compute workers minChunk threshold some_left
  have deals := deals_of_workers some_worker few_workers
  refine ⟨_, (Guarded.plan_eq ..).trans made, made, count_compute_lt _ _ _ some_left, deals, ?_, ?_⟩
  · rintro lexemes rfl
    exact ⟨cuts_compute _ _ _ some_left, fun pool σ same => map_queue_start deals same⟩
  · rintro profile preferences source scan scanned rfl
    have scannable := Profile.scannable_of_scan _ scanned
    rw [Profile.scan_of_scannable _ preferences scannable, Except.ok.injEq] at scanned
    subst scanned
    exact adjoin_split (profile.cover_scanned preferences source) some_left

/-- Five lexemes for two workers, at least two to a chunk: the second chunk takes the fifth. -/
theorem compute_partitions_of_five :
    let profile := Profile.build { Definition.ofId "words" with operators := ["="] }
    let plan : ChunkPlan := ⟨5, 2, 2, 2⟩
    Guarded.plan 5 2 2 0 = some plan ∧ plan.Deals ∧
      ∃ scan, (profile.scan default "a = b").result = .ok scan ∧ plan.Cuts scan.lexemes ∧
        Chunk.Adjoin 0 (plan.split scan.lexemes) 5 := by
  intro profile plan
  have some_left : 0 < 5 := by decide
  have small : 5 < signedLimit := by decide
  obtain ⟨_, made, computed, _, deals, cuts, places⟩ :=
    compute_partitions some_left small 2 2 0
  obtain rfl : plan = _ := Option.some.inj computed
  have scannable : profile.Scannable "a = b" :=
    ⟨by decide, Nat.le_trans (Profile.length_pieces_le _ 0 _) (by decide)⟩
  have scanned := profile.scan_of_scannable default scannable
  have length : (profile.scanned default "a = b").lexemes.length = 5 := by decide +kernel
  exact ⟨made, deals, _, scanned, (cuts _ length).1, places _ _ _ _ scanned length⟩

end ChunkPlan

end ProfileLexer
