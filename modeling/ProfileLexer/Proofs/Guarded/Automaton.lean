import ProfileLexer.Proofs.Automaton.Reuse
import ProfileLexer.Proofs.Guarded.Extents

/-!
The automaton with the place behind its last marker in bytes. Whatever it reads, no step cuts a
character and no depth falls below zero.
-/

namespace ProfileLexer

/-- A machine with the place in bytes behind the last marker. Everything else about it, the text
that it has read included, is the same. -/
def Machine.inBytes (machine : Machine) : Machine :=
  { machine with markerFrom := Text.byteLength (machine.text.take machine.markerFrom) }

@[simp] theorem Machine.inBytes_text (machine : Machine) : machine.inBytes.text = machine.text := rfl

@[simp] theorem Machine.inBytes_markerFrom (machine : Machine) : machine.inBytes.markerFrom =
    Text.byteLength (machine.text.take machine.markerFrom) := rfl

/-- The last marker of a machine is part of what it has read. No other relation between the two is
needed. -/
def Machine.Marked (machine : Machine) : Prop :=
  machine.markerFrom ≤ machine.text.length

def Machine.readOn (machine : Machine) (action : Action) (input : Option Char) : Array Char :=
  match action, input with
  | .read, some c => machine.buffer.push c
  | _, _ => machine.buffer

/-- How much is used after a move, of which some was used before. Only where the depth of a comment
changes, a marker has been used. -/
def usedAfter (state next : State) (before here : Nat) : Nat :=
  match next with
  | .blockComment _ => if state = next then before else here
  | _ => before

namespace Guarded

/-- Whether a character completes a marker at the end of a text. -/
def completes (body marker : List Char) (c : Char) : Bool :=
  marker.getLast? == some c && marker.dropLast.isSuffixOf body

/-- What a character in a block comment leads to. The unused text is cut out of what has been read,
and the depth is taken down by one where a comment is closed. -/
def onComment (machine : Machine) (depth : Nat) (c : Char) : Guarded (State × Action) := do
  match machine.profile.blockComment with
  | none => return (.rejected, .reject)
  | some markers =>
    let body ← Text.behind? machine.text machine.markerFrom
    if completes body markers.closer c then
      if depth ≤ 1 then return (.commentDone, .read)
      else return (.blockComment (← sub depth 1), .read)
    else if markers.nesting && completes body markers.opener c then
      return (.blockComment (depth + 1), .read)
    else return (.blockComment depth, .read)

noncomputable section

/-- Whether a text is one closed literal of a form from end to end. -/
def isLiteral (profile : Profile) (text : List Char) (form : LiteralForm) : Guarded Bool := do
  return (← literalExtent profile text form) == some ⟨Text.byteLength text, true⟩

/-- The kind of a text that is one closed literal from end to end. -/
def literalKind (profile : Profile) (text : List Char) : Guarded (Option TokenKind) := do
  return (← profile.literals.findM? (isLiteral profile text)).map (·.kind)

def onChar (machine : Machine) (c : Char) : Guarded (State × Action) :=
  match machine.state with
  | .blockComment depth => onComment machine depth c
  | _ => return machine.onChar c

/-- What the end of the text leads to. Literals are looked for with a cursor, as in the scan. -/
def onEnd (machine : Machine) : Guarded (State × Action) := do
  match machine.state with
  | .symbols =>
    match ← literalKind machine.profile machine.text with
    | some kind => return (.literalDone kind, .accept)
    | none =>
      if machine.profile.isOperator machine.text then return (.operatorDone, .accept)
      else if machine.profile.isIdentifier machine.text then return (.identifierDone, .accept)
      else return (.rejected, .reject)
  | .literal =>
    match ← literalKind machine.profile machine.text with
    | some kind => return (.literalDone kind, .accept)
    | none =>
      if machine.profile.isIdentifier machine.text then return (.identifierDone, .accept)
      else return (.rejected, .reject)
  | _ => return machine.onEnd

/-- What a character, or the end of the text, leads to. -/
def transition (machine : Machine) : Option Char → Guarded (State × Action)
  | some c => onChar machine c
  | none => onEnd machine

/-- One step. When the depth of a comment changes, all bytes up to here are used. -/
def step (machine : Machine) (input : Option Char) : Guarded (Machine × Action) := do
  let (next, action) ← transition machine input
  let read := machine.readOn action input
  let used := usedAfter machine.state next machine.markerFrom (Text.byteLength read.toList)
  return (⟨machine.profile, next, read, used, machine.steps + 1⟩, action)

/-- Reads a text up to the first final action. -/
def feed (machine : Machine) : List Char → Guarded (Machine × Action)
  | [] => step machine none
  | c :: text => do
    let (machine, action) ← step machine (some c)
    if action.isFinal then return (machine, action) else feed machine text

def run (machine : Machine) (text : List Char) : Guarded (Verdict × Machine) := do
  let (machine, action) ← feed machine.reset text
  return (machine.verdict action, machine)

/-- The kind of a text that is accepted as a whole. -/
def replay (machine : Machine) (text : List Char) : Guarded (Option TokenKind × Machine) := do
  let (verdict, machine) ← run machine text
  return (if verdict.covers (Text.byteLength text) then verdict.kind else none, machine)

end

/-- The end of a text is compared where the text is cut and where it is not. The cut may leave too
little for the comparison. -/
theorem isSuffixOf_drop {text front : List Char} {used : Nat} (within : used ≤ text.length) :
    front.isSuffixOf (text.drop used) = true ↔
      used + front.length ≤ text.length ∧ text.drop (text.length - front.length) = front := by
  rw [List.isSuffixOf_iff_suffix]
  constructor
  · rintro ⟨skipped, split⟩
    have length := congrArg List.length split
    rw [List.length_append, List.length_drop] at length
    have place : text.length - front.length = used + skipped.length := by omega
    refine ⟨by omega, ?_⟩
    rw [place, ← List.drop_drop, ← split, List.drop_left]
  · rintro ⟨room, same⟩
    have place : used + (text.length - used - front.length) = text.length - front.length := by omega
    have suffix := List.drop_suffix (text.length - used - front.length) (text.drop used)
    rwa [List.drop_drop, place, same] at suffix

/-- A marker ends in the unused text exactly when it fits between its start and the character. The
first of the two is how it is found where texts are cut. -/
theorem completes_eq {machine : Machine} (marked : machine.Marked) (marker : List Char) (c : Char) :
    completes (machine.text.drop machine.markerFrom) marker c = machine.completes marker c := by
  have size : machine.buffer.size = machine.text.length := Array.length_toList.symm
  have tail (start : Nat) :
      (machine.buffer.extract start machine.buffer.size).toList = machine.text.drop start := by
    rw [Array.toList_extract, List.extract, ← Machine.text, size, ← List.length_drop,
      List.take_length]
  rw [completes, Machine.completes, tail, size, ← List.length_dropLast, Bool.and_assoc]
  congr 1
  rw [Bool.eq_iff_iff, isSuffixOf_drop marked, Bool.and_eq_true, decide_eq_true_iff, beq_iff_eq]

theorem onComment_inBytes {machine : Machine} (marked : machine.Marked) (depth : Nat) (c : Char) :
    onComment machine.inBytes depth c = some (machine.onComment depth c) := by
  rw [onComment, Machine.onComment, Machine.inBytes_text, Machine.inBytes_markerFrom,
    Text.behind?_take, Machine.inBytes]
  cases machine.profile.blockComment with
  | none => rfl
  | some markers =>
    simp only [Option.bind_eq_bind, Option.bind_some, completes_eq marked]
    split
    · split
      · rfl
      · rename_i inside
        rw [sub_of_le (by omega)]
        rfl
    · split <;> rfl

theorem isLiteral_eq {profile : Profile} (wellFormed : profile.WellFormed) (text : List Char)
    {form : LiteralForm} (member : form ∈ profile.literals) : isLiteral profile text form =
      some (profile.literalExtent? form text == some ⟨text.length, true⟩) := by
  rw [isLiteral, literalExtent_eq]
  simp only [Option.bind_eq_bind, Option.bind_some, Option.pure_def, Option.some.injEq]
  cases found : profile.literalExtent? form text with
  | none => rfl
  | some extent =>
    have within := (Profile.fits_literalExtent? wellFormed member found).le
    obtain ⟨length, closed⟩ := extent
    rw [Bool.eq_iff_iff, beq_iff_eq, beq_iff_eq]
    simp [Extent.inBytes, byteLength_take_eq_iff within]

theorem literalKind_eq {profile : Profile} (wellFormed : profile.WellFormed) (text : List Char) :
    literalKind profile text = some (profile.literalKind? text) := by
  rw [literalKind, findM?_eq fun form member => isLiteral_eq wellFormed text member]
  rfl

/-- No transition breaks off, and none depends on how places are counted. The machine may be in any
state, if its marker is in what it has read. -/
theorem transition_inBytes {machine : Machine} (wellFormed : machine.profile.WellFormed)
    (marked : machine.Marked) (input : Option Char) :
    transition machine.inBytes input = some (machine.transition input) := by
  obtain ⟨profile, state, buffer, markerFrom, steps⟩ := machine
  cases input with
  | some c =>
    cases state with
    | blockComment depth => exact onComment_inBytes marked depth c
    | _ => rfl
  | none =>
    have kind : literalKind profile buffer.toList = some (profile.literalKind? buffer.toList) :=
      literalKind_eq wellFormed buffer.toList
    cases state with
    | symbols | literal =>
      cases found : profile.literalKind? buffer.toList <;>
        cases operator : profile.isOperator buffer.toList <;>
        cases identifier : profile.isIdentifier buffer.toList <;>
        simp [transition, onEnd, Machine.inBytes, Machine.transition, Machine.onEnd,
          Machine.text, kind, found, operator, identifier]
    | _ => rfl

/-- Whatever is used after a move is used in bytes as well, and has been read. The place stays on
the boundary of a character. -/
theorem usedAfter_inBytes (state next : State) {text : List Char} {used : Nat}
    (within : used ≤ text.length) (more : List Char) :
    usedAfter state next (Text.byteLength (text.take used)) (Text.byteLength (text ++ more)) =
        Text.byteLength ((text ++ more).take (usedAfter state next used (text ++ more).length)) ∧
      usedAfter state next used (text ++ more).length ≤ (text ++ more).length := by
  have kept : Text.byteLength (text.take used) = Text.byteLength ((text ++ more).take used) ∧
      used ≤ (text ++ more).length := by
    rw [List.take_append_of_le_length within, List.length_append]
    exact ⟨rfl, by omega⟩
  cases next with
  | blockComment depth =>
    by_cases same : state = .blockComment depth
    · simpa only [usedAfter, if_pos same] using kept
    · simp only [usedAfter, if_neg same, List.take_length]
      exact ⟨trivial, Nat.le_refl _⟩
  | _ => exact kept

/-- What a machine has read stays in front of what it reads; nothing is ever taken back. -/
theorem readOn_eq (machine : Machine) (action : Action) (input : Option Char) :
    ∃ more, (machine.readOn action input).toList = machine.text ++ more := by
  unfold Machine.readOn
  split
  · rename_i c
    exact ⟨[c], by rw [Array.toList_push, Machine.text]⟩
  · exact ⟨[], by rw [List.append_nil, Machine.text]⟩

theorem step_eq {machine : Machine} {input : Option Char} {next : State} {action : Action}
    (moved : machine.transition input = (next, action)) : machine.step input =
      (⟨machine.profile, next, machine.readOn action input,
        usedAfter machine.state next machine.markerFrom (machine.readOn action input).toList.length,
        machine.steps + 1⟩, action) := by
  rw [Machine.step, moved, Array.length_toList]
  rfl

/-- A step breaks off nowhere, and the last marker stays part of what is read. This is all that has
to be kept from step to step. -/
theorem step_inBytes {machine : Machine} (wellFormed : machine.profile.WellFormed)
    (marked : machine.Marked) (input : Option Char) :
    step machine.inBytes input =
        some ((machine.step input).1.inBytes, (machine.step input).2) ∧
      (machine.step input).1.Marked := by
  cases moved : machine.transition input with
  | mk next action =>
    obtain ⟨more, read⟩ := readOn_eq machine action input
    obtain ⟨inBytes, stillMarked⟩ := usedAfter_inBytes machine.state next marked more
    rw [← read] at inBytes stillMarked
    rw [step, transition_inBytes wellFormed marked, moved, step_eq moved]
    refine ⟨?_, stillMarked⟩
    exact congrArg (fun used => some (Machine.mk machine.profile next
      (machine.readOn action input) used (machine.steps + 1), action)) inBytes

theorem feed_inBytes {machine : Machine} (wellFormed : machine.profile.WellFormed)
    (marked : machine.Marked) (text : List Char) :
    feed machine.inBytes text = some ((machine.feed text).1.inBytes, (machine.feed text).2) := by
  induction text generalizing machine with
  | nil => exact (step_inBytes wellFormed marked none).1
  | cons c text ih =>
    obtain ⟨step, stillMarked⟩ := step_inBytes wellFormed marked (some c)
    rw [feed, step, Machine.feed]
    simp only [Option.bind_eq_bind, Option.bind_some]
    split
    · rfl
    · exact ih (machine.step_profile (some c) ▸ wellFormed) stillMarked

/-- Replaying a text breaks off nowhere, whatever a machine has read before, since it starts
over. -/
theorem replay_inBytes {machine : Machine} (wellFormed : machine.profile.WellFormed)
    (text : List Char) : replay machine.inBytes text =
      some ((machine.classify text).1, (machine.classify text).2.inBytes) := by
  have start : machine.inBytes.reset = machine.reset.inBytes := rfl
  have unread : machine.reset.Marked := Nat.zero_le _
  rw [replay, run, start, @feed_inBytes machine.reset wellFormed unread text]
  rfl

end Guarded

end ProfileLexer
