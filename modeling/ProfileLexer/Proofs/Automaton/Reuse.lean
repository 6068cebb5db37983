import ProfileLexer.Automaton.Machine

/-!
An automaton that is used again. It remembers how many steps it has made in its life, and nothing
that it does depends on that number.
-/

namespace ProfileLexer

namespace Machine

/-- Machines that differ in nothing but the number of their steps, which is told to nobody but their
owner. -/
structure Alike (machine other : Machine) : Prop where
  profile : machine.profile = other.profile
  state : machine.state = other.state
  buffer : machine.buffer = other.buffer
  markerFrom : machine.markerFrom = other.markerFrom

variable {machine other : Machine}

theorem Alike.eq (alike : machine.Alike other) :
    machine = { other with steps := machine.steps } := by
  cases machine
  cases other
  obtain ⟨rfl, rfl, rfl, rfl⟩ := alike
  rfl

theorem alike_reset (same : machine.profile = other.profile) : machine.reset.Alike other.reset :=
  ⟨same, rfl, rfl, rfl⟩

theorem step_steps (machine : Machine) (steps : Nat) (input : Option Char) :
    { machine with steps := steps }.step input =
      ({ (machine.step input).1 with steps := steps + 1 }, (machine.step input).2) := rfl

theorem Alike.step (alike : machine.Alike other) (input : Option Char) :
    (machine.step input).1.Alike (other.step input).1 ∧
      (machine.step input).2 = (other.step input).2 := by
  rw [alike.eq, step_steps]
  exact ⟨⟨rfl, rfl, rfl, rfl⟩, rfl⟩

theorem feed_cons (machine : Machine) (c : Char) (text : List Char) :
    machine.feed (c :: text) =
      if (machine.step (some c)).2.isFinal then machine.step (some c)
      else (machine.step (some c)).1.feed text := rfl

theorem Alike.feed (alike : machine.Alike other) (text : List Char) :
    (machine.feed text).1.Alike (other.feed text).1 ∧
      (machine.feed text).2 = (other.feed text).2 := by
  induction text generalizing machine other with
  | nil => exact alike.step none
  | cons c text ih =>
    obtain ⟨next, action⟩ := alike.step (some c)
    rw [feed_cons, feed_cons, ← action]
    split
    · exact ⟨next, action⟩
    · exact ih next

@[simp] theorem step_profile (machine : Machine) (input : Option Char) :
    (machine.step input).1.profile = machine.profile := rfl

@[simp] theorem feed_profile (machine : Machine) (text : List Char) :
    (machine.feed text).1.profile = machine.profile := by
  induction text generalizing machine with
  | nil => rfl
  | cons c text ih =>
    rw [feed_cons]
    split
    · rfl
    · rw [ih, step_profile]

@[simp] theorem classify_profile (machine : Machine) (text : List Char) :
    (machine.classify text).2.profile = machine.profile :=
  feed_profile machine.reset text

/-- What a machine says about a text depends on its profile alone. Each run starts over, so neither
the state nor what has been read before matters. -/
theorem run_congr (same : machine.profile = other.profile) (text : List Char) :
    (machine.run text).1 = (other.run text).1 := by
  obtain ⟨alike, action⟩ := (alike_reset same).feed text
  simp only [run, Machine.verdict, action]
  rw [alike.eq]
  rfl

theorem classify_congr (same : machine.profile = other.profile) (text : List Char) :
    (machine.classify text).1 = (other.classify text).1 := by
  simp only [classify, run_congr same]

end Machine

end ProfileLexer
