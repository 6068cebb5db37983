import ProfileLexer.Proofs.Automaton.Reuse
import ProfileLexer.Proofs.Text.Boundary

/-!
The verdict of an automaton, read off its transitions. A text has a kind exactly when every one of
its characters is read and its end is accepted.
-/

namespace ProfileLexer

namespace Machine

/-- The kind that a machine comes to when it reads a text to its end. If it stops before, there is
none, even where it accepts the part that it has read. -/
def kindAfter? (machine : Machine) : List Char → Option TokenKind
  | [] => if (machine.step none).2.isAccept then (machine.step none).1.kind? else none
  | c :: text =>
    if (machine.step (some c)).2 = .read then (machine.step (some c)).1.kindAfter? text else none

theorem text_step_of_read {machine : Machine} {c : Char}
    (reads : (machine.step (some c)).2 = .read) :
    (machine.step (some c)).1.text = machine.text ++ [c] := by
  rw [step, transition] at reads ⊢
  simp only at reads
  simp [text, reads]

theorem text_step_of_ne_read {machine : Machine} {input : Option Char}
    (stops : (machine.step input).2 ≠ .read) : (machine.step input).1.text = machine.text := by
  rw [step] at stops ⊢
  dsimp only at stops ⊢
  split
  · exact absurd ‹_› stops
  · rfl

theorem text_step_none (machine : Machine) : (machine.step none).1.text = machine.text := by
  rw [step]
  dsimp only
  split <;> first | rfl | contradiction

/-- A run that stops in front of a character does not cover the text, whether it accepts or rejects
there. -/
theorem not_covers_of_stop {machine : Machine} {c : Char} (text : List Char)
    (stops : (machine.step (some c)).2 ≠ .read) :
    ((machine.step (some c)).1.verdict (machine.step (some c)).2).covers
      (Text.byteLength (machine.text ++ c :: text)) = false := by
  have positive := c.utf8Size_pos
  have unread := text_step_of_ne_read stops
  rw [verdict, Verdict.covers, unread, Text.byteLength_append, Text.byteLength_cons, Bool.and_eq_false_iff]
  refine .inr (beq_eq_false_iff_ne.mpr ?_)
  dsimp only
  split <;> omega

theorem feed_verdict (machine : Machine) (text : List Char) :
    (if ((machine.feed text).1.verdict (machine.feed text).2).covers
        (Text.byteLength (machine.text ++ text)) then
      ((machine.feed text).1.verdict (machine.feed text).2).kind else none) =
      machine.kindAfter? text := by
  induction text generalizing machine with
  | nil =>
    have same := machine.text_step_none
    rw [feed, kindAfter?, List.append_nil, verdict, Verdict.covers, Verdict.accepted]
    cases accepted : (machine.step none).2.isAccept with
    | true => simp [same]
    | false => simp
  | cons c text ih =>
    rw [feed_cons, kindAfter?]
    by_cases reads : (machine.step (some c)).2 = .read
    · have rest := ih (machine.step (some c)).1
      rw [text_step_of_read reads, List.append_assoc, List.singleton_append] at rest
      rw [if_pos reads, reads, Action.isFinal, if_neg Bool.false_ne_true]
      exact rest
    · have final : (machine.step (some c)).2.isFinal = true := by
        cases action : (machine.step (some c)).2 with
        | read => exact absurd action reads
        | accept => rfl
        | acceptBefore => rfl
        | reject => rfl
      rw [if_neg reads, if_pos final, not_covers_of_stop text reads, if_neg Bool.false_ne_true]

theorem classify_fst (machine : Machine) (text : List Char) :
    (machine.classify text).1 = machine.reset.kindAfter? text :=
  machine.reset.feed_verdict text

theorem Alike.kindAfter? {machine other : Machine} (alike : machine.Alike other)
    (text : List Char) : machine.kindAfter? text = other.kindAfter? text := by
  induction text generalizing machine other with
  | nil =>
    obtain ⟨next, action⟩ := alike.step none
    rw [Machine.kindAfter?, Machine.kindAfter?, action, next.eq]
    rfl
  | cons c text ih =>
    obtain ⟨next, action⟩ := alike.step (some c)
    rw [Machine.kindAfter?, Machine.kindAfter?, action, ih next]

end Machine

namespace Profile

/-- A machine in a state behind some characters, of which comment markers have used the first. The
three need not fit together. -/
def machineIn (profile : Profile) (state : State) (read : List Char) (used : Nat) : Machine :=
  ⟨profile, state, read.toArray, used, 0⟩

/-- The kind that the automaton comes to from a state, when it is given the rest of a text. -/
def kindFrom? (profile : Profile) (state : State) (read : List Char) (used : Nat)
    (text : List Char) : Option TokenKind :=
  (profile.machineIn state read used).kindAfter? text

def usedBehind (state next : State) (used length : Nat) : Nat :=
  match next with
  | .blockComment _ => if state = next then used else length
  | _ => used

theorem usedBehind_self (state : State) (used length : Nat) :
    usedBehind state state used length = used := by
  cases state <;> simp [usedBehind]

theorem usedBehind_blockComment {state : State} {depth : Nat} (used length : Nat)
    (changes : state ≠ .blockComment depth) :
    usedBehind state (.blockComment depth) used length = length := by
  rw [usedBehind, if_neg changes]

variable (profile : Profile)

theorem classify_ofProfile (text : List Char) :
    ((Machine.ofProfile profile).classify text).1 = profile.kindFrom? .initial [] 0 text := by
  rw [Machine.classify_fst]
  exact Machine.Alike.kindAfter? ⟨rfl, rfl, rfl, rfl⟩ text

variable {profile} {state next : State} {read : List Char} {used : Nat} {c : Char}

theorem step_of_read
    (reads : (profile.machineIn state read used).onChar c = (next, .read)) :
    (profile.machineIn state read used).step (some c) =
      (⟨profile, next, (read ++ [c]).toArray, usedBehind state next used (read.length + 1), 1⟩,
        .read) := by
  rw [Machine.step, Machine.transition, reads]
  simp only [machineIn, List.push_toArray, List.size_toArray, List.length_append,
    List.length_singleton]
  cases next <;> rfl

theorem kindFrom?_of_read (next : State) (text : List Char)
    (reads : (profile.machineIn state read used).onChar c = (next, .read)) :
    profile.kindFrom? state read used (c :: text) =
      profile.kindFrom? next (read ++ [c]) (usedBehind state next used (read.length + 1)) text := by
  rw [kindFrom?, Machine.kindAfter?, step_of_read reads, if_pos rfl]
  refine Machine.Alike.kindAfter? ?_ text
  exact ⟨rfl, rfl, rfl, rfl⟩

theorem kindFrom?_of_stop (text : List Char)
    (stops : ((profile.machineIn state read used).onChar c).2 ≠ .read) :
    profile.kindFrom? state read used (c :: text) = none := by
  have action : ((profile.machineIn state read used).step (some c)).2 ≠ .read := stops
  rw [kindFrom?, Machine.kindAfter?, if_neg action]

theorem kindFrom?_nil :
    profile.kindFrom? state read used [] =
      if (profile.machineIn state read used).onEnd.2.isAccept then
        (profile.machineIn (profile.machineIn state read used).onEnd.1 read used).kind?
      else none := by
  have action : ((profile.machineIn state read used).step none).2 =
      (profile.machineIn state read used).onEnd.2 := rfl
  have kind : ((profile.machineIn state read used).step none).1.kind? =
      (profile.machineIn (profile.machineIn state read used).onEnd.1 read used).kind? := by
    have text := (profile.machineIn state read used).text_step_none
    rw [Machine.kind?, Machine.kind?, text]
    rfl
  rw [kindFrom?, Machine.kindAfter?, action, kind]

theorem kindFrom?_of_accept
    (accepts : (profile.machineIn state read used).onEnd = (next, .accept)) :
    profile.kindFrom? state read used [] = (profile.machineIn next read used).kind? := by
  rw [kindFrom?_nil, accepts, Action.isAccept, if_pos rfl]

theorem kindFrom?_of_reject
    (rejects : (profile.machineIn state read used).onEnd = (next, .reject)) :
    profile.kindFrom? state read used [] = none := by
  rw [kindFrom?_nil, rejects, Action.isAccept, if_neg Bool.false_ne_true]

end Profile

end ProfileLexer
