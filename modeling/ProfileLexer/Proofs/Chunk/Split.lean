import Mathlib.Data.List.Basic
import ProfileLexer.Chunk.Plan

/-!
Cutting lexemes into chunks: the chunks are numbered from zero, and end to end they hold the lexemes
that were cut.
-/

namespace ProfileLexer

namespace ChunkPlan

theorem map_id_splitFrom (length id : Nat) (lexemes : List Lexeme) (left : Nat) :
    (splitFrom length id lexemes left).map Chunk.id = List.range' id left := by
  induction left generalizing id lexemes with
  | zero => rfl
  | succ left ih =>
    cases left with
    | zero => rfl
    | succ left => rw [splitFrom, List.map_cons, ih, ← List.range'_succ]

theorem flatMap_lexemes_splitFrom (length id : Nat) (lexemes : List Lexeme) (left : Nat) :
    (splitFrom length id lexemes (left + 1)).flatMap Chunk.lexemes = lexemes := by
  induction left generalizing id lexemes with
  | zero => simp [splitFrom]
  | succ left ih => rw [splitFrom, List.flatMap_cons, ih, List.take_append_drop]

theorem length_split (plan : ChunkPlan) (lexemes : List Lexeme) :
    (plan.split lexemes).length = plan.count := by
  have ids := congrArg List.length (map_id_splitFrom plan.length 0 lexemes plan.count)
  rwa [List.length_map, List.length_range'] at ids

/-- Chunks are numbered by their places, from zero on and without gaps. -/
theorem map_id_split (plan : ChunkPlan) (lexemes : List Lexeme) :
    (plan.split lexemes).map Chunk.id = List.range (plan.split lexemes).length := by
  rw [length_split, split, map_id_splitFrom, List.range_eq_range']

/-- Only a plan for no lexemes has no chunks, however many workers are asked for. -/
theorem count_compute_eq_zero {total workers minChunk threshold : Nat} :
    (compute total workers minChunk threshold).count = 0 ↔ total = 0 := by
  unfold compute
  dsimp only
  split
  · simp [*]
  · split
    · simp [*]
    · split
      · simp
      · simp [*]

/-- Chunks that take up no more lexemes than there are. Written additively to avoid truncated
subtraction. -/
theorem lexemes_ne_nil_of_mem_splitFrom {length id left : Nat} {lexemes : List Lexeme}
    {chunk : Chunk} (positive : 0 < length) (enough : left * length < lexemes.length + length)
    (member : chunk ∈ splitFrom length id lexemes left) : chunk.lexemes ≠ [] := by
  fun_induction splitFrom length id lexemes left with
  | case1 => cases member
  | case2 id lexemes =>
    rw [List.mem_singleton.mp member]
    replace enough : 1 * length < lexemes.length + length := enough
    have some_left : 0 < lexemes.length := by omega
    exact List.length_pos_iff.mp some_left
  | case3 id lexemes left ih =>
    replace enough : (left + 2) * length < lexemes.length + length := enough
    have size : (left + 2) * length = (left + 1) * length + length := Nat.succ_mul _ _
    have rest : (left + 1) * length = left * length + length := Nat.succ_mul _ _
    have some_left : 0 < lexemes.length := by omega
    rcases List.mem_cons.mp member with rfl | later
    · rw [ne_eq, List.take_eq_nil_iff]
      rintro (zero | empty)
      · omega
      · exact List.length_pos_iff.mp some_left empty
    · refine ih ?_ later
      rw [List.length_drop]
      omega

/-- A plan for some lexemes makes no more chunks than it has lexemes for, so that the last one gets
at least one. -/
theorem enough_compute {total : Nat} (workers minChunk threshold : Nat) (some_left : 0 < total) :
    0 < (compute total workers minChunk threshold).length ∧
      (compute total workers minChunk threshold).count *
          (compute total workers minChunk threshold).length <
        total + (compute total workers minChunk threshold).length := by
  unfold compute
  dsimp only
  rw [if_neg (by omega)]
  split
  · dsimp only
    omega
  split
  · dsimp only
    omega
  · generalize size : max (total / (2 * max workers 1)) (max minChunk 1) = length
    have positive : 0 < length := by omega
    have whole := Nat.div_mul_le_self total length
    refine ⟨positive, ?_⟩
    dsimp only
    rcases Nat.le_total (total / length) 1 with few | many
    · rw [Nat.max_eq_right few]
      omega
    · rw [Nat.max_eq_left many]
      omega

/-- A plan leaves no chunk empty, if it is used for as many lexemes as it was made for. -/
theorem lexemes_ne_nil_of_mem_split {workers minChunk threshold : Nat} {lexemes : List Lexeme}
    {chunk : Chunk}
    (member : chunk ∈ (compute lexemes.length workers minChunk threshold).split lexemes) :
    chunk.lexemes ≠ [] := by
  by_cases empty : lexemes.length = 0
  · rw [split, count_compute_eq_zero.mpr empty] at member
    cases member
  · obtain ⟨positive, enough⟩ :=
      enough_compute workers minChunk threshold (Nat.pos_of_ne_zero empty)
    exact lexemes_ne_nil_of_mem_splitFrom positive enough member

/-- End to end, the chunks of a plan hold all lexemes, in their order and each once. -/
theorem flatMap_lexemes_split (workers minChunk threshold : Nat) (lexemes : List Lexeme) :
    ((compute lexemes.length workers minChunk threshold).split lexemes).flatMap Chunk.lexemes =
      lexemes := by
  cases count : (compute lexemes.length workers minChunk threshold).count with
  | zero =>
    have none_there := List.length_eq_zero_iff.mp (count_compute_eq_zero.mp count)
    rw [split, count, none_there]
    rfl
  | succ left => rw [split, count, flatMap_lexemes_splitFrom]

end ChunkPlan

end ProfileLexer
