import ProfileLexer.Profile.Builtin
import ProfileLexer.Proofs.Automaton.Actions
import ProfileLexer.Proofs.Automaton.Verdict
import ProfileLexer.Proofs.Classifier.Tables
import ProfileLexer.Proofs.Scan.Front

/-!
Verdicts are stable. What an automaton accepts in front of a character, it accepts as well where
the text ends there, with the same kind.
-/

namespace ProfileLexer

/-- A text that starts with no lead of a literal is no literal. This needs an accepted definition:
forms that could be empty have no lead. -/
theorem Profile.literalKind?_eq_none {definition : Definition} {profile : Profile}
    (accepted : ofDefinition definition = .ok profile) {c : Char} (text : List Char)
    (noLead : profile.isLiteralLead c = false) : profile.literalKind? (c :: text) = none := by
  rw [literalKind?, Option.map_eq_none_iff, List.find?_eq_none]
  intro form member whole
  have solid := (wellFormed_of_accepted accepted).literals form member
  have found := eq_of_beq whole
  have lead := literalLeads_of_accepted accepted member (mem_leads_of_literalExtent? solid found)
  rw [lead] at noLead
  cases noLead

namespace Machine

variable {machine : Machine} {c : Char} {next : State}

/-- An operator ends in front of a character only where no literal starts like it. Otherwise symbols
are read on, and the end of the text decides. -/
theorem onSymbols_eq_acceptBefore {profile : Profile} {text : List Char}
    (stops : onSymbols profile text c = (next, .acceptBefore)) :
    next = .operatorDone ∧ profile.isOperator text = true ∧
      (text.head?.map profile.isLiteralLead).getD false = false := by
  unfold onSymbols at stops
  repeat' split at stops
  all_goals simp_all

theorem numberEnd_eq_acceptBefore (stops : numberEnd c = (next, .acceptBefore)) :
    next = .numberDone := by
  unfold numberEnd at stops
  split at stops <;> simp_all

theorem onNumber_eq_acceptBefore (stops : machine.onNumber c = (next, .acceptBefore)) :
    next = .numberDone := by
  unfold onNumber at stops
  dsimp only at stops
  repeat' split at stops
  all_goals first | exact numberEnd_eq_acceptBefore stops | simp at stops

theorem onComment_ne_acceptBefore {depth : Nat} :
    machine.onComment depth c ≠ (next, .acceptBefore) := by
  unfold onComment
  repeat' split
  all_goals simp

theorem onInitial_ne_acceptBefore {profile : Profile} :
    onInitial profile c ≠ (next, .acceptBefore) := by
  unfold onInitial
  repeat' split
  all_goals simp

theorem onEnd_of_acceptBefore_symbols {definition : Definition}
    (accepted : Profile.ofDefinition definition = .ok machine.profile)
    (state : machine.state = .symbols)
    (stops : onSymbols machine.profile machine.text c = (next, .acceptBefore)) :
    machine.onEnd = (next, .accept) := by
  obtain ⟨rfl, operator, noLead⟩ := onSymbols_eq_acceptBefore stops
  unfold onEnd
  rw [state]
  cases text : machine.text with
  | nil =>
    rw [text] at operator
    have member := List.contains_iff_mem.mp operator
    exact absurd member (Profile.wellFormed_of_accepted accepted).operators
  | cons first rest =>
    rw [text] at operator noLead
    simp only [Profile.literalKind?_eq_none accepted rest noLead, operator, if_true]

/-- A token that ends in front of a character also ends at the end of the text, and in the same
state. -/
theorem onEnd_of_acceptBefore {definition : Definition}
    (accepted : Profile.ofDefinition definition = .ok machine.profile)
    (stops : machine.onChar c = (next, .acceptBefore)) : machine.onEnd = (next, .accept) := by
  obtain ⟨profile, state, buffer, markerFrom, steps⟩ := machine
  cases state with
  | symbols => exact onEnd_of_acceptBefore_symbols accepted rfl stops
  | initial => exact absurd stops onInitial_ne_acceptBefore
  | blockComment depth => exact absurd stops onComment_ne_acceptBefore
  | number =>
    obtain rfl := onNumber_eq_acceptBefore stops
    rfl
  | numberUnit =>
    obtain rfl := numberEnd_eq_acceptBefore stops
    rfl
  | numberPoint | numberRadix _ digits | numberFraction digits | numberExponent _ digits =>
    -- where digits are missing both reject, elsewhere both end the number
    unfold onChar at stops
    dsimp only at stops
    repeat' split at stops
    all_goals
      first
      | obtain rfl := numberEnd_eq_acceptBefore stops
        simp_all [onEnd]
      | simp_all [onEnd]
  | word | string _ | stringEscape _ | lineComment | layout | literal | rejected =>
    unfold onChar at stops
    dsimp only at stops
    repeat' split at stops
    all_goals first | (cases stops; rfl) | cases stops
  | stringDone | numberDone | commentDone | operatorDone | literalDone _ | identifierDone
  | delimiter | layoutDone =>
    cases stops
    rfl

/-- Where a machine stops: it has read the characters in front, is behind them, and makes its last
step on what is left. Whether that step accepts is left open. -/
structure Stops (machine behind : Machine) (front rest : List Char) : Prop where
  profile : behind.profile = machine.profile
  text : behind.text = machine.text ++ front
  feed : machine.feed (front ++ rest) = behind.step rest.head?
  alone : machine.feed front = behind.step none
  final : (behind.step rest.head?).2 ≠ .read

/-- Whatever a machine is given to read, it stops somewhere, at the latest at the end of the
text. -/
theorem exists_stops (machine : Machine) (text : List Char) :
    ∃ behind front rest, text = front ++ rest ∧ machine.Stops behind front rest := by
  induction text generalizing machine with
  | nil =>
    have final := (machine.move_step none).ne_read_of_end
    exact ⟨machine, [], [], rfl, rfl, (List.append_nil _).symm, rfl, rfl, final⟩
  | cons c text ih =>
    by_cases reads : (machine.step (some c)).2 = .read
    · obtain ⟨behind, front, rest, rfl, stops⟩ := ih (machine.step (some c)).1
      have goesOn (text : List Char) :
          machine.feed (c :: text) = (machine.step (some c)).1.feed text := by
        rw [feed_cons, reads]
        exact if_neg Bool.false_ne_true
      have read : behind.text = machine.text ++ c :: front := by
        rw [stops.text, text_step_of_read reads, List.append_assoc, List.singleton_append]
      exact ⟨behind, c :: front, rest, rfl, stops.profile, read, (goesOn _).trans stops.feed,
        (goesOn front).trans stops.alone, stops.final⟩
    · have final := Action.isFinal_of_ne_read reads
      have stops : machine.feed ([] ++ c :: text) = machine.step (some c) := by
        rw [List.nil_append, feed_cons, if_pos final]
      exact ⟨machine, [], c :: text, rfl, rfl, (List.append_nil _).symm, stops, rfl, reads⟩

theorem Move.eq_of_isAccept {rest : List Char} {action : Action}
    (move : Move rest.head? (next, action)) (accepts : action.isAccept = true) :
    action = if rest = [] then .accept else .acceptBefore := by
  cases rest with
  | nil =>
    cases move with
    | accept => rfl
    | reject => cases accepts
  | cons c rest =>
    cases move with
    | acceptBefore => rfl
    | read | reject => cases accepts

/-- A token that ends in front of what is left ends as well where nothing is left. -/
theorem transition_none_of_isAccept {definition : Definition} {rest : List Char}
    (accepted : Profile.ofDefinition definition = .ok machine.profile)
    (accepts : (machine.step rest.head?).2.isAccept = true) :
    machine.transition none = ((machine.step rest.head?).1.state, .accept) := by
  have action := (machine.move_step rest.head?).eq_of_isAccept accepts
  cases rest with
  | nil => exact Prod.ext rfl action
  | cons c rest => exact onEnd_of_acceptBefore accepted (Prod.ext rfl action)

theorem verdict_of_isAccept {action : Action} (accepts : action.isAccept = true) :
    machine.verdict action =
      ⟨machine.state, action, Text.byteLength machine.text, machine.kind?⟩ := by
  unfold verdict
  rw [if_pos accepts, if_pos accepts]

theorem verdict_congr {other : Machine} (profile : machine.profile = other.profile)
    (state : machine.state = other.state) (text : machine.text = other.text) (action : Action) :
    machine.verdict action = other.verdict action := by
  obtain ⟨_, _, buffer, _, _⟩ := machine
  obtain ⟨_, _, buffer', _, _⟩ := other
  obtain rfl : buffer = buffer' := Array.toList_inj.mp text
  subst profile state
  rfl

/-- The verdict on what is in front of the last step, where the text ends there. Only the action
differs, and only if something was left. -/
theorem verdict_step_none {definition : Definition} {rest : List Char}
    (accepted : Profile.ofDefinition definition = .ok machine.profile)
    (accepts : (machine.step rest.head?).2.isAccept = true) :
    (machine.step none).1.verdict (machine.step none).2 =
      { (machine.step rest.head?).1.verdict (machine.step rest.head?).2 with action := .accept } := by
  have ends := transition_none_of_isAccept accepted accepts
  have state : (machine.step none).1.state = (machine.step rest.head?).1.state := by
    rw [step_state, ends]
  have action : (machine.step none).2 = .accept := by
    rw [step_action, ends]
  have unread : (machine.step rest.head?).2 ≠ .read := by
    intro reads
    rw [reads] at accepts
    cases accepts
  have text : (machine.step none).1.text = (machine.step rest.head?).1.text := by
    rw [text_step_none, text_step_of_ne_read unread]
  have same := verdict_congr ((machine.step_profile none).trans (machine.step_profile _).symm)
    state text .accept
  rw [action, same, verdict_of_isAccept rfl, verdict_of_isAccept accepts]

/-- A verdict is sound and stable, whatever a machine has read before. What it accepts is the text
up to where it stops: it has a kind, the end of the text was seen exactly when all of it is
accepted, and the same part of the text alone is accepted as a whole, with the same kind. What it
does not accept leaves nothing but a rejection. The part may be given to another machine of the same
profile, in whatever state that one is. -/
theorem run_stable {definition : Definition} {profile : Profile}
    (accepted : Profile.ofDefinition definition = .ok profile) {machine other : Machine}
    (same : machine.profile = profile) (alike : other.profile = profile) (text : List Char) :
    ((machine.run text).1.accepted = true →
      (machine.run text).1.kind.isSome = true ∧
      (machine.run text).2.text <+: text ∧
      (machine.run text).1.consumed = Text.byteLength (machine.run text).2.text ∧
      ((machine.run text).1.action = .accept ↔
        (machine.run text).1.consumed = Text.byteLength text) ∧
      ((machine.run text).1.action = .acceptBefore ↔
        (machine.run text).1.consumed < Text.byteLength text) ∧
      (other.run (machine.run text).2.text).1 = { (machine.run text).1 with action := .accept }) ∧
    ((machine.run text).1.accepted = false →
      (machine.run text).1 = ⟨.rejected, .reject, 0, none⟩) := by
  obtain ⟨behind, front, rest, rfl, stops⟩ := machine.reset.exists_stops text
  have accepted' : Profile.ofDefinition definition = .ok behind.profile := by
    rw [accepted, stops.profile, ← same]
    rfl
  have ran : machine.run (front ++ rest) =
      ((behind.step rest.head?).1.verdict (behind.step rest.head?).2,
        (behind.step rest.head?).1) := by
    rw [run, stops.feed]
  have buffer : (behind.step rest.head?).1.text = front :=
    (text_step_of_ne_read stops.final).trans stops.text
  have move := behind.move_step rest.head?
  rw [ran]
  constructor
  · intro accepts
    have accepts : (behind.step rest.head?).2.isAccept = true := accepts
    have alone : (other.run front).1 =
        { (machine.run (front ++ rest)).1 with action := .accept } := by
      rw [run_congr (alike.trans same.symm), ran, run, stops.alone]
      exact verdict_step_none accepted' accepts
    rw [ran] at alone
    have action := move.eq_of_isAccept accepts
    have kind := kind?_isSome_of_isAccepting (move.isAccepting accepts)
    rw [verdict_of_isAccept accepts, buffer] at alone ⊢
    have whole : Text.byteLength front = Text.byteLength (front ++ rest) ↔ rest = [] := by
      rw [Text.byteLength_append, ← Text.byteLength_eq_zero_iff]
      omega
    have cut : Text.byteLength front < Text.byteLength (front ++ rest) ↔ rest ≠ [] := by
      rw [Text.byteLength_append, Ne, ← Text.byteLength_eq_zero_iff]
      omega
    refine ⟨kind, List.prefix_append front rest, rfl, ?_, ?_, alone⟩
    · show (behind.step rest.head?).2 = .accept ↔ Text.byteLength front = _
      rw [action, whole]
      by_cases empty : rest = [] <;> simp [empty]
    · show (behind.step rest.head?).2 = .acceptBefore ↔ Text.byteLength front < _
      rw [action, cut]
      by_cases empty : rest = [] <;> simp [empty]
  · intro refuses
    have action := Action.eq_reject_of_final stops.final refuses
    have state := move.eq_rejected action
    rw [action]
    unfold verdict
    rw [state]
    rfl

/-- The query language ends an operator behind two of three equals signs, also on a machine that
has read another operator before. -/
theorem run_stable_of_three_equals_signs :
    let machine := ((Machine.ofProfile (Profile.build Builtin.query)).run ['!', '=']).2
    Profile.ofDefinition Builtin.query = .ok (Profile.build Builtin.query) ∧
      (machine.run ['=', '=', '=']).1 = ⟨.operatorDone, .acceptBefore, 2, some .operator⟩ ∧
      (machine.run (machine.run ['=', '=', '=']).2.text).1 =
        ⟨.operatorDone, .accept, 2, some .operator⟩ := by
  intro machine
  have verdict : (machine.run ['=', '=', '=']).1 =
      ⟨.operatorDone, .acceptBefore, 2, some .operator⟩ := by decide +kernel
  have accepts : (machine.run ['=', '=', '=']).1.accepted = true := by
    rw [verdict]
    rfl
  have accepted : Profile.ofDefinition Builtin.query = .ok (Profile.build Builtin.query) := rfl
  have stable := @run_stable Builtin.query _ accepted machine machine rfl rfl ['=', '=', '=']
  obtain ⟨_, _, _, _, _, again⟩ := stable.1 accepts
  rw [verdict] at again
  exact ⟨accepted, verdict, again⟩

end Machine

end ProfileLexer
