import Mathlib.Data.Nat.Find

/-!
Computations whose steps can fail: differences of counts and loops. A loop has a result exactly when
it ends.
-/

namespace ProfileLexer

/-- A computation that may break off. It has no result where a cut falls inside a character,
where a count would fall below zero, and where a loop does not end. An error that is returned is
a result. -/
abbrev Guarded (α : Type) := Option α

namespace Guarded

/-- A difference of counts, which breaks off where it would fall below zero. -/
def sub (first second : Nat) : Guarded Nat :=
  if second ≤ first then some (first - second) else none

theorem sub_of_le {first second : Nat} (ordered : second ≤ first) :
    sub first second = some (first - second) :=
  if_pos ordered

variable {σ α : Type}

/-- The result of a loop within some rounds. A round goes on from a new state, or ends the loop, or
breaks off. -/
def inRounds (round : σ → Guarded (σ ⊕ α)) : Nat → σ → Guarded α
  | 0, _ => none
  | rounds + 1, state => (round state).bind (Sum.elim (inRounds round rounds) some)

open Classical in
/-- The result of a loop, in as many rounds as it takes. No bound on the rounds is part of it, so
that a result shows that the loop ends. -/
noncomputable def loop (round : σ → Guarded (σ ⊕ α)) (state : σ) : Guarded α :=
  if ends : ∃ rounds, (inRounds round rounds state).isSome then
    inRounds round (Nat.find ends) state
  else none

variable {round : σ → Guarded (σ ⊕ α)} {state : σ} {result : α}

theorem inRounds_succ {rounds : Nat} (ends : inRounds round rounds state = some result) :
    inRounds round (rounds + 1) state = some result := by
  induction rounds generalizing state with
  | zero => cases ends
  | succ rounds ih =>
    obtain ⟨next, goesOn, rest⟩ := Option.bind_eq_some_iff.mp ends
    rw [inRounds, goesOn]
    cases next with
    | inl next => exact ih rest
    | inr last => exact rest

theorem inRounds_of_le {rounds more : Nat} (ends : inRounds round rounds state = some result)
    (atMost : rounds ≤ more) : inRounds round more state = some result := by
  induction atMost with
  | refl => exact ends
  | step _ ih => exact inRounds_succ ih

/-- A loop has the result that it has within any number of rounds that are enough. -/
theorem loop_eq_some : loop round state = some result ↔
    ∃ rounds, inRounds round rounds state = some result := by
  classical
  rw [loop]
  constructor
  · intro found
    split at found
    · exact ⟨_, found⟩
    · cases found
  · rintro ⟨rounds, found⟩
    have ends : ∃ rounds, (inRounds round rounds state).isSome := ⟨rounds, by rw [found]; rfl⟩
    rw [dif_pos ends]
    obtain ⟨first, foundFirst⟩ := Option.isSome_iff_exists.mp (Nat.find_spec ends)
    have least := inRounds_of_le foundFirst (Nat.find_min' ends (by rw [found]; rfl))
    rw [foundFirst, ← least, found]

/-- A loop is its first round, and the loop again where that goes on. Whether it ends need not be
known. -/
theorem loop_eq (round : σ → Guarded (σ ⊕ α)) (state : σ) :
    loop round state = (round state).bind (Sum.elim (loop round) some) := by
  ext result
  rw [loop_eq_some, Option.bind_eq_some_iff]
  constructor
  · rintro ⟨rounds, found⟩
    cases rounds with
    | zero => cases found
    | succ rounds =>
      obtain ⟨next, goesOn, rest⟩ := Option.bind_eq_some_iff.mp found
      refine ⟨next, goesOn, ?_⟩
      cases next with
      | inl next => exact loop_eq_some.mpr ⟨rounds, rest⟩
      | inr last => exact rest
  · rintro ⟨next, goesOn, rest⟩
    cases next with
    | inl next =>
      obtain ⟨rounds, found⟩ := loop_eq_some.mp rest
      exact ⟨rounds + 1, by rw [inRounds, goesOn]; exact found⟩
    | inr last => exact ⟨1, by rw [inRounds, goesOn]; exact rest⟩

end Guarded

end ProfileLexer
