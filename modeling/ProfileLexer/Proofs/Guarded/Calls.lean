import ProfileLexer.Profile.Builtin
import ProfileLexer.Proofs.Automaton.Actions
import ProfileLexer.Proofs.Guarded.Automaton

/-!
Automata that are called step by step. Whatever characters, ends of texts and resets a machine is
given, in any order, it stays well formed, and behind the end of a token it waits for a reset.
-/

namespace ProfileLexer

/-- In a block comment at least one comment is open. Of other states nothing is asked. -/
def State.Deep : State → Prop
  | .blockComment depth => 1 ≤ depth
  | _ => True

namespace Machine

/-- What a machine can be called to do. A caller may go on after the end of a text or of a token,
and may reset the machine at any time. -/
inductive Call where
  | step (input : Option Char)
  | reset
  deriving DecidableEq, Repr, Inhabited

/-- A machine behind a call. -/
def call (machine : Machine) : Call → Machine
  | .step input => (machine.step input).1
  | .reset => machine.reset

/-- A machine behind some calls. -/
def after (machine : Machine) (calls : List Call) : Machine :=
  calls.foldl call machine

@[simp] theorem after_nil (machine : Machine) : machine.after [] = machine := rfl

@[simp] theorem after_cons (machine : Machine) (call : Call) (calls : List Call) :
    machine.after (call :: calls) = (machine.call call).after calls := rfl

/-- What every machine is that has been called from its start: the last marker is part of what it
has read, and the comments that it is in are open. Which calls have been made is left open. -/
structure Called (profile : Profile) (machine : Machine) : Prop where
  profile : machine.profile = profile
  marked : machine.Marked
  deep : machine.state.Deep

theorem deep_of_symbolState? {profile : Profile} {symbols : List Char} {state : State}
    (found : profile.symbolState? symbols = some state) : state.Deep := by
  unfold Profile.symbolState? at found
  dsimp only at found
  repeat' split at found
  all_goals cases found
  · trivial
  · exact Nat.le_refl 1
  · trivial

theorem deep_onInitial (profile : Profile) (c : Char) : (onInitial profile c).1.Deep := by
  unfold onInitial
  repeat' split
  all_goals first | trivial | exact deep_of_symbolState? ‹_›

theorem deep_onSymbols (profile : Profile) (text : List Char) (c : Char) :
    (onSymbols profile text c).1.Deep := by
  unfold onSymbols
  repeat' split
  all_goals first | trivial | exact deep_of_symbolState? ‹_›

theorem deep_numberEnd (c : Char) : (numberEnd c).1.Deep := by
  unfold numberEnd
  split <;> trivial

theorem deep_onNumber (machine : Machine) (c : Char) : (machine.onNumber c).1.Deep := by
  unfold onNumber
  dsimp only
  repeat' split
  all_goals first | trivial | exact deep_numberEnd c

/-- A closing marker leaves the comment where no other one is open, so the depth never comes to zero
inside a comment. -/
theorem deep_onComment (machine : Machine) {depth : Nat} (deep : 1 ≤ depth) (c : Char) :
    (machine.onComment depth c).1.Deep := by
  unfold onComment
  repeat' split
  all_goals first | trivial | skip
  · show 1 ≤ depth - 1
    omega
  · show 1 ≤ depth + 1
    omega

/-- No final action leads into a comment, whatever the state was. -/
theorem Move.deep {input : Option Char} {next : State} {action : Action}
    (move : Move input (next, action)) (stops : action ≠ .read) : next.Deep := by
  have absorbing := move.isAbsorbing stops
  cases next with
  | blockComment depth => cases absorbing
  | _ => trivial

theorem deep_onChar {machine : Machine} (deep : machine.state.Deep) (c : Char) :
    (machine.onChar c).1.Deep := by
  obtain ⟨profile, state, buffer, markerFrom, steps⟩ := machine
  cases state with
  | initial => exact deep_onInitial profile c
  | number => exact deep_onNumber _ c
  | numberUnit => exact deep_numberEnd c
  | blockComment depth => exact deep_onComment _ deep c
  | symbols => exact deep_onSymbols profile buffer.toList c
  | word | string _ | numberRadix _ _ | numberPoint | numberFraction _ | numberExponent _ _
  | lineComment | layout =>
    unfold onChar
    dsimp only
    repeat' split
    all_goals first | trivial | exact deep_numberEnd c
  | stringEscape _ | literal | stringDone | numberDone | commentDone | operatorDone
  | literalDone _ | identifierDone | delimiter | layoutDone | rejected => trivial

theorem deep_step {machine : Machine} (deep : machine.state.Deep) (input : Option Char) :
    (machine.step input).1.state.Deep := by
  cases input with
  | some c => exact deep_onChar deep c
  | none =>
    have move := machine.move_step none
    exact move.deep move.ne_read_of_end

variable {profile : Profile} {machine : Machine}

theorem called_ofProfile (profile : Profile) : (ofProfile profile).Called profile :=
  ⟨rfl, Nat.zero_le _, trivial⟩

theorem Called.reset (called : machine.Called profile) : machine.reset.Called profile :=
  ⟨called.profile, Nat.zero_le _, trivial⟩

theorem Called.step (wellFormed : profile.WellFormed) (called : machine.Called profile)
    (input : Option Char) : (machine.step input).1.Called profile := by
  have marked := (Guarded.step_inBytes (called.profile ▸ wellFormed) called.marked input).2
  exact ⟨called.profile, marked, deep_step called.deep input⟩

theorem Called.call (wellFormed : profile.WellFormed) (called : machine.Called profile)
    (call : Call) : (machine.call call).Called profile := by
  cases call with
  | step input => exact called.step wellFormed input
  | reset => exact called.reset

/-- Behind the end of a token further steps change neither the state nor what has been read. They
are counted. -/
theorem after_of_isAbsorbing (absorbing : machine.state.isAbsorbing = true)
    (inputs : List (Option Char)) :
    (machine.after (inputs.map .step)).state = machine.state ∧
      (machine.after (inputs.map .step)).text = machine.text := by
  induction inputs generalizing machine with
  | nil => exact ⟨rfl, rfl⟩
  | cons input inputs ih =>
    obtain ⟨action, _, moved⟩ := step_of_isAbsorbing absorbing input
    have counted : machine.call (.step input) = { machine with steps := machine.steps + 1 } := by
      rw [call, moved]
    rw [List.map_cons, after_cons, counted]
    exact ih absorbing

end Machine

namespace Guarded

noncomputable section

/-- A machine behind a call. -/
def call (machine : Machine) : Machine.Call → Guarded Machine
  | .step input => do return (← step machine input).1
  | .reset => return machine.reset

/-- A machine behind some calls. -/
def after (machine : Machine) (calls : List Machine.Call) : Guarded Machine :=
  calls.foldlM call machine

end

variable {profile : Profile} {machine : Machine}

theorem call_inBytes (wellFormed : profile.WellFormed) (called : machine.Called profile)
    (here : Machine.Call) : call machine.inBytes here = some (machine.call here).inBytes := by
  cases here with
  | step input =>
    have steps := (step_inBytes (called.profile ▸ wellFormed) called.marked input).1
    rw [call, steps]
    rfl
  | reset => rfl

/-- No sequence of calls breaks off, and each leaves the machine as it may be. The calls need not
spell a text of the language. -/
theorem after_inBytes (wellFormed : profile.WellFormed) (called : machine.Called profile)
    (calls : List Machine.Call) :
    after machine.inBytes calls = some (machine.after calls).inBytes ∧
      (machine.after calls).Called profile := by
  induction calls generalizing machine with
  | nil => exact ⟨rfl, called⟩
  | cons here calls ih =>
    have next := ih (called.call wellFormed here)
    rw [after, List.foldlM_cons, call_inBytes wellFormed called here]
    exact next

/-- What holds of a machine with places in bytes between any two calls. Whatever is called next has
a result, and a machine that has accepted or rejected stays where it is. -/
structure Intact (machine : Machine) : Prop where
  within : machine.markerFrom ≤ Text.byteLength machine.text
  boundary : Text.IsBoundary machine.text machine.markerFrom
  unused : (Text.behind? machine.text machine.markerFrom).isSome = true
  deep : ∀ depth, machine.state = .blockComment depth → 1 ≤ depth
  step : ∀ input, ∃ next action, Guarded.step machine input = some (next, action) ∧
    (action.isAccept = true → next.state.isAccepting = true) ∧
    (action = .reject → next.state = .rejected)
  rests : machine.state.isAccepting = true ∨ machine.state = .rejected →
    ∀ inputs : List (Option Char), ∃ later,
      after machine (inputs.map .step) = some later ∧
        later.state = machine.state ∧ later.text = machine.text

theorem intact_inBytes (wellFormed : profile.WellFormed) (called : machine.Called profile) :
    Intact machine.inBytes where
  within := by
    have split := Text.byteLength_take_add_drop machine.text machine.markerFrom
    show Text.byteLength (machine.text.take machine.markerFrom) ≤ Text.byteLength machine.text
    omega
  boundary := ⟨machine.text.take machine.markerFrom, machine.text.drop machine.markerFrom,
    (List.take_append_drop _ _).symm, rfl⟩
  unused := by
    have cut := Text.behind?_take machine.text machine.markerFrom
    show (Text.behind? machine.text
      (Text.byteLength (machine.text.take machine.markerFrom))).isSome = true
    rw [cut]
    rfl
  deep depth inComment := by
    have deep := called.deep
    have inComment : machine.state = .blockComment depth := inComment
    rwa [inComment] at deep
  step input := by
    have steps := (step_inBytes (called.profile ▸ wellFormed) called.marked input).1
    have move := machine.move_step input
    exact ⟨_, _, steps, move.isAccepting, move.eq_rejected⟩
  rests ended inputs := by
    have absorbing : machine.state.isAbsorbing = true := by
      rcases ended with accepting | rejected
      · exact State.isAbsorbing_of_isAccepting accepting
      · have rejected : machine.state = .rejected := rejected
        rw [rejected]
        decide
    have unchanged := machine.after_of_isAbsorbing absorbing inputs
    exact ⟨_, (after_inBytes wellFormed called _).1, unchanged⟩

/-- Whatever a machine is called to do, it comes through, and it is intact behind the last call.
Nothing is assumed of the calls: characters may come behind the end of the text, and resets in the
middle of a token. -/
theorem intact_after {definition : Definition}
    (accepted : Profile.ofDefinition definition = .ok profile) (calls : List Machine.Call) :
    ∃ machine, after (Machine.ofProfile profile) calls = some machine ∧
      machine = ((Machine.ofProfile profile).after calls).inBytes ∧ Intact machine := by
  have wellFormed := Profile.wellFormed_of_accepted accepted
  have start : (Machine.ofProfile profile).inBytes = Machine.ofProfile profile := rfl
  obtain ⟨ran, called⟩ :=
    after_inBytes wellFormed (Machine.called_ofProfile profile) calls
  rw [start] at ran
  exact ⟨_, ran, rfl, intact_inBytes wellFormed called⟩

/-- Behind a nested comment that has been closed the outer one is still open, and its markers have
used the first eight bytes, an accented letter of two bytes among them. -/
theorem intact_after_nested_comment :
    let profile := Profile.build Builtin.symbolic
    let calls := ['#', '|', 'é', '#', '|', '|', '#', 'é'].map fun c => Machine.Call.step (some c)
    Profile.ofDefinition Builtin.symbolic = .ok profile ∧
      ∃ machine, after (Machine.ofProfile profile) calls = some machine ∧
        machine.state = .blockComment 1 ∧ machine.markerFrom = 8 ∧ Intact machine := by
  intro profile calls
  have accepted : Profile.ofDefinition Builtin.symbolic = .ok profile := rfl
  obtain ⟨machine, ran, rfl, intact⟩ := intact_after accepted calls
  refine ⟨accepted, _, ran, ?_, ?_, intact⟩
  · decide +kernel
  · decide +kernel

end Guarded

end ProfileLexer
