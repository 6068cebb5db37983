import ProfileLexer.Proofs.Automaton.Reuse

/-!
Actions and the states that they lead to. An automaton accepts into a state that stands for a kind
and rejects into one state only, and no step leaves these.
-/

namespace ProfileLexer

theorem Action.isFinal_of_ne_read {action : Action} (stops : action ≠ .read) :
    action.isFinal = true := by
  cases action with
  | read => exact absurd rfl stops
  | accept | acceptBefore | reject => rfl

theorem Action.eq_reject_of_final {action : Action} (stops : action ≠ .read)
    (refuses : action.isAccept = false) : action = .reject := by
  cases action with
  | read => exact absurd rfl stops
  | reject => rfl
  | accept | acceptBefore => cases refuses

/-- Whether no step leaves a state: an accepting one, or the one in which a text is rejected. -/
def State.isAbsorbing (state : State) : Bool :=
  state.isAccepting || state == .rejected

theorem State.isAbsorbing_of_isAccepting {state : State} (accepting : state.isAccepting = true) :
    state.isAbsorbing = true := by
  unfold isAbsorbing
  rw [accepting, Bool.true_or]

namespace Machine

/-- The moves that there are: what a character, or the end of the text, may lead to. From which
state they are made is left open, so this is all that many proofs have to know of a transition. -/
inductive Move : Option Char → State × Action → Prop where
  | read (c : Char) (next : State) : Move (some c) (next, .read)
  | accept {next : State} (accepting : next.isAccepting = true) : Move none (next, .accept)
  | acceptBefore (c : Char) {next : State} (accepting : next.isAccepting = true) :
    Move (some c) (next, .acceptBefore)
  | reject (input : Option Char) : Move input (.rejected, .reject)

section

variable {input : Option Char} {next : State} {action : Action}

theorem Move.isAccepting (move : Move input (next, action)) (accepts : action.isAccept = true) :
    next.isAccepting = true := by
  cases move with
  | accept accepting => exact accepting
  | acceptBefore _ accepting => exact accepting
  | read | reject => cases accepts

theorem Move.eq_rejected (move : Move input (next, action)) (rejects : action = .reject) :
    next = .rejected := by
  subst rejects
  cases move
  rfl

theorem Move.ne_read_of_end (move : Move none (next, action)) : action ≠ .read := by
  cases move <;> decide

/-- A final action leads to a state that no step leaves, be it an accepting one or the one in which
a text is rejected. -/
theorem Move.isAbsorbing (move : Move input (next, action)) (stops : action ≠ .read) :
    next.isAbsorbing = true := by
  cases move with
  | read => exact absurd rfl stops
  | accept accepting => exact State.isAbsorbing_of_isAccepting accepting
  | acceptBefore _ accepting => exact State.isAbsorbing_of_isAccepting accepting
  | reject => decide

end

theorem move_onInitial (profile : Profile) (c : Char) : Move (some c) (onInitial profile c) := by
  unfold onInitial
  repeat' split
  all_goals constructor

theorem move_onSymbols (profile : Profile) (text : List Char) (c : Char) :
    Move (some c) (onSymbols profile text c) := by
  unfold onSymbols
  repeat' split
  all_goals constructor
  all_goals rfl

theorem move_numberEnd (c : Char) : Move (some c) (numberEnd c) := by
  unfold numberEnd
  split
  · constructor
  · constructor
    rfl

theorem move_onNumber (machine : Machine) (c : Char) : Move (some c) (machine.onNumber c) := by
  unfold onNumber
  dsimp only
  repeat' split
  all_goals first | exact move_numberEnd c | constructor

theorem move_onComment (machine : Machine) (depth : Nat) (c : Char) :
    Move (some c) (machine.onComment depth c) := by
  unfold onComment
  repeat' split
  all_goals constructor

theorem move_onChar (machine : Machine) (c : Char) : Move (some c) (machine.onChar c) := by
  obtain ⟨profile, state, buffer, markerFrom, steps⟩ := machine
  cases state with
  | initial => exact move_onInitial profile c
  | number => exact move_onNumber _ c
  | numberUnit => exact move_numberEnd c
  | blockComment depth => exact move_onComment _ depth c
  | symbols => exact move_onSymbols profile buffer.toList c
  | stringEscape quote => exact .read c (.string quote)
  | literal => exact .read c .literal
  | word | string _ | numberRadix _ _ | numberPoint | numberFraction _ | numberExponent _ _
  | lineComment | layout =>
    unfold onChar
    dsimp only
    repeat' split
    all_goals first | exact move_numberEnd c | constructor <;> rfl
  | stringDone | numberDone | commentDone | operatorDone | literalDone _ | identifierDone
  | delimiter | layoutDone => exact .acceptBefore c rfl
  | rejected => exact .reject (some c)

theorem move_onEnd (machine : Machine) : Move none machine.onEnd := by
  obtain ⟨profile, state, buffer, markerFrom, steps⟩ := machine
  cases state with
  | initial | string _ | stringEscape _ | blockComment _ | rejected => exact .reject none
  | numberRadix _ digits | numberFraction digits | numberExponent _ digits =>
    cases digits with
    | true => exact .accept rfl
    | false => exact .reject none
  | symbols | literal =>
    unfold onEnd
    dsimp only
    repeat' split
    all_goals constructor <;> rfl
  | _ => exact .accept rfl

theorem step_state (machine : Machine) (input : Option Char) :
    (machine.step input).1.state = (machine.transition input).1 := rfl

theorem step_action (machine : Machine) (input : Option Char) :
    (machine.step input).2 = (machine.transition input).2 := rfl

/-- Whatever a machine is given, it makes one of the moves that there are. Its state may be any,
also one that it never comes to. -/
theorem move_transition (machine : Machine) (input : Option Char) :
    Move input (machine.transition input) := by
  cases input with
  | some c => exact machine.move_onChar c
  | none => exact machine.move_onEnd

theorem move_step (machine : Machine) (input : Option Char) :
    Move input ((machine.step input).1.state, (machine.step input).2) :=
  machine.move_transition input

theorem kind?_isSome_of_isAccepting {machine : Machine}
    (accepting : machine.state.isAccepting = true) : machine.kind?.isSome = true := by
  obtain ⟨profile, state, buffer, markerFrom, steps⟩ := machine
  cases state <;> first | rfl | cases accepting

theorem transition_of_isAbsorbing {machine : Machine} (absorbing : machine.state.isAbsorbing = true)
    (input : Option Char) :
    ∃ action, action ≠ .read ∧ machine.transition input = (machine.state, action) := by
  obtain ⟨profile, state, buffer, markerFrom, steps⟩ := machine
  cases input <;> cases state <;>
    first | exact ⟨_, Action.noConfusion, rfl⟩ | cases absorbing

/-- Behind its end a machine does nothing but count its steps. Which action it reports then is left
open, except that it reads nothing. -/
theorem step_of_isAbsorbing {machine : Machine} (absorbing : machine.state.isAbsorbing = true)
    (input : Option Char) : ∃ action, action ≠ .read ∧
      machine.step input = ({ machine with steps := machine.steps + 1 }, action) := by
  obtain ⟨action, stops, moved⟩ := transition_of_isAbsorbing absorbing input
  refine ⟨action, stops, ?_⟩
  obtain ⟨profile, state, buffer, markerFrom, steps⟩ := machine
  unfold step
  rw [moved]
  cases action with
  | read => exact absurd rfl stops
  | accept | acceptBefore | reject => cases state <;> first | rfl | cases absorbing

end Machine

end ProfileLexer
