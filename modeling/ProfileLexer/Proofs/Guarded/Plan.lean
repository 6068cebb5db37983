import ProfileLexer.Chunk.Plan
import ProfileLexer.Proofs.Guarded.Basic

/-!
Plans made with machine words. The only step that can break off is the product that counts to twice
the number of workers, since what a total is divided by is never zero.
-/

namespace ProfileLexer.Guarded

/-- A product of words, which breaks off where it leaves a word. -/
def mul (first second : Nat) : Guarded Nat :=
  if first * second < wordLimit then some (first * second) else none

theorem mul_of_lt {first second : Nat} (fits : first * second < wordLimit) :
    mul first second = some (first * second) :=
  if_pos fits

/-- A quotient of words, which breaks off where it would be one by zero. -/
def div (first second : Nat) : Guarded Nat :=
  if second = 0 then none else some (first / second)

theorem div_of_pos {first second : Nat} (positive : 0 < second) :
    div first second = some (first / second) :=
  if_neg (Nat.pos_iff_ne_zero.mp positive)

/-- A plan for a number of lexemes. Products and quotients are those of machine words; sums do not
occur. -/
def plan (total workers minChunk threshold : Nat) : Guarded ChunkPlan := do
  let workers := max workers 1
  if total = 0 then return ⟨0, 0, 0, 1⟩
  else if workers = 1 ∨ total < threshold then return ⟨total, total, 1, 1⟩
  else if total < workers then return ⟨total, 1, total, total⟩
  else
    let length := max (← div total (← mul 2 workers)) (max minChunk 1)
    let count := max (← div total length) 1
    return ⟨total, length, count, min workers count⟩

/-- A plan breaks off exactly where it is said to, and is the same plan elsewhere. Nothing is
assumed of its arguments. -/
theorem plan_eq (total workers minChunk threshold : Nat) :
    plan total workers minChunk threshold =
      ChunkPlan.compute? total workers minChunk threshold := by
  unfold plan ChunkPlan.compute? ChunkPlan.compute
  dsimp only
  by_cases broken : 0 < total ∧ threshold ≤ total ∧ workers ≤ total ∧ wordLimit ≤ 2 * workers
  · have large : ¬2 * max workers 1 < wordLimit := by omega
    have empty : total ≠ 0 := by omega
    have single : ¬(max workers 1 = 1 ∨ total < threshold) := by
      unfold wordLimit at broken
      omega
    have few : ¬total < max workers 1 := by omega
    rw [if_pos broken, if_neg empty, if_neg single, if_neg few, mul, if_neg large]
    rfl
  · rw [if_neg broken]
    split
    · rfl
    split
    · rfl
    split
    · rfl
    · have fits : 2 * max workers 1 < wordLimit := by omega
      have twice : 0 < 2 * max workers 1 := by omega
      have length : 0 < max (total / (2 * max workers 1)) (max minChunk 1) := by omega
      rw [mul_of_lt fits]
      simp only [Option.bind_eq_bind, Option.bind_some, div_of_pos twice, div_of_pos length]
      rfl

end ProfileLexer.Guarded
