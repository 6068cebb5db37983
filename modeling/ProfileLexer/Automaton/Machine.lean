import ProfileLexer.Automaton.State
import ProfileLexer.Scan.Rule

/-!
The automaton: it reads one lexeme a character at a time, with a sentinel at the end, and decides
its kind. It remembers what it has read, so that a step can look at operators and comment markers.
-/

namespace ProfileLexer

/-- An automaton part way through a text. Nothing ties the state to what has been read: a machine
may be given any state and any text, and what is reachable is left to invariants. -/
structure Machine where
  profile : Profile
  state : State
  /-- The characters read so far. -/
  buffer : Array Char
  /-- Where in the buffer the text begins that no comment marker has used yet. -/
  markerFrom : Nat
  /-- The number of steps since the machine was made. -/
  steps : Nat
  deriving Inhabited

namespace Profile

/-- The state for a run of symbols that a comment marker or an operator starts with. A whole marker
decides at once, even where a longer operator begins in the same way. -/
def symbolState? (profile : Profile) (symbols : List Char) : Option State :=
  let opener := profile.blockComment.map (·.opener)
  let starts (marker : Option (List Char)) : Bool := (marker.map symbols.isPrefixOf).getD false
  if profile.lineComment = some symbols then some .lineComment
  else if opener = some symbols then some (.blockComment 1)
  else if profile.startsOperator symbols || starts profile.lineComment || starts opener then
    some .symbols
  else none

/-- The kind of a text that is one closed literal from end to end. When several forms of a profile
fit, the first of them in the order of the profile gives the kind. -/
def literalKind? (profile : Profile) (text : List Char) : Option TokenKind :=
  (profile.literals.find? fun form =>
    profile.literalExtent? form text == some ⟨text.length, true⟩).map (·.kind)

end Profile

namespace Machine

def ofProfile (profile : Profile) : Machine :=
  ⟨profile, .initial, #[], 0, 0⟩

/-- The machine before its first character. It forgets the state and the text of an earlier run, but
the steps are counted on. -/
def reset (machine : Machine) : Machine :=
  { machine with state := .initial, buffer := #[], markerFrom := 0 }

def text (machine : Machine) : List Char :=
  machine.buffer.toList

def onInitial (profile : Profile) (c : Char) : State × Action :=
  if isLayout c then (.layout, .read)
  else if profile.isQuote c then (.string c, .read)
  else
    match profile.symbolState? [c] with
    | some state => (state, .read)
    | none =>
      if profile.isLiteralLead c || (profile.numbers.signed && isSign c) then (.symbols, .read)
      else if profile.isDelimiter c then (.delimiter, .read)
      else if c.isDigit then (.number, .read)
      else if profile.startsIdentifier c then (.word, .read)
      else (.rejected, .reject)

def onSymbols (profile : Profile) (text : List Char) (c : Char) : State × Action :=
  match profile.symbolState? (text ++ [c]) with
  | some state => (state, .read)
  | none =>
    if (text.head?.map profile.isLiteralLead).getD false then (.literal, .read)
    else if profile.numbers.signed && (text == ['+'] || text == ['-']) && c.isDigit then
      (.number, .read)
    else if profile.isOperator text then
      if profile.definition.operatorBoundary && profile.continuesIdentifier c &&
          profile.isIdentifier text then
        (.word, .read)
      else (.operatorDone, .acceptBefore)
    else if profile.isIdentifier text && profile.continuesIdentifier c then (.word, .read)
    else (.rejected, .reject)

/-- The end of a number before a character. A letter, a digit or an underscore there rejects the
number as a whole, rather than leaving an identifier behind it. -/
def numberEnd (c : Char) : State × Action :=
  if c.isAlphanum || c == '_' then (.rejected, .reject) else (.numberDone, .acceptBefore)

def onNumber (machine : Machine) (c : Char) : State × Action :=
  let forms := machine.profile.numbers
  let radix? :=
    match Radix.ofLetter? forms c with
    | some radix => if machine.text.dropWhile isSign == ['0'] then some radix else none
    | none => none
  if c.isDigit then (.number, .read)
  else
    match radix? with
    | some radix => (.numberRadix radix false, .read)
    | none =>
      if c == '.' then (.numberPoint, .read)
      else if forms.fractions && c == '/' then (.numberFraction false, .read)
      else if forms.exponent && isExponentMark c then (.numberExponent false false, .read)
      else if forms.complex && c == 'i' then (.numberUnit, .read)
      else numberEnd c

/-- Whether the unused text in front of a character ends with all of a marker but its last
character, which the character is. -/
def completes (machine : Machine) (marker : List Char) (c : Char) : Bool :=
  let start := machine.buffer.size - (marker.length - 1)
  marker.getLast? == some c && machine.markerFrom + (marker.length - 1) ≤ machine.buffer.size &&
    (machine.buffer.extract start machine.buffer.size).toList == marker.dropLast

def onComment (machine : Machine) (depth : Nat) (c : Char) : State × Action :=
  match machine.profile.blockComment with
  | none => (.rejected, .reject)
  | some markers =>
    if machine.completes markers.closer c then
      if depth ≤ 1 then (.commentDone, .read) else (.blockComment (depth - 1), .read)
    else if markers.nesting && machine.completes markers.opener c then
      (.blockComment (depth + 1), .read)
    else (.blockComment depth, .read)

/-- What a character leads to in each state. Final states are included: they stay as they are,
whatever comes. -/
def onChar (machine : Machine) (c : Char) : State × Action :=
  let profile := machine.profile
  let forms := profile.numbers
  match machine.state with
  | .initial => onInitial profile c
  | .layout => if isLayout c then (.layout, .read) else (.layoutDone, .acceptBefore)
  | .word =>
    if profile.continuesIdentifier c then (.word, .read)
    else if profile.isQuote c && profile.stringLeads.contains machine.text then (.string c, .read)
    else (.identifierDone, .acceptBefore)
  | .string quote =>
    if c == '\\' then (.stringEscape quote, .read)
    else if c == quote then (.stringDone, .read)
    else (.string quote, .read)
  | .stringEscape quote => (.string quote, .read)
  | .number => machine.onNumber c
  | .numberRadix radix digits =>
    if radix.isDigit c then (.numberRadix radix true, .read)
    else if c.isAlphanum then (.rejected, .reject)
    else if digits then (.numberDone, .acceptBefore)
    else (.rejected, .reject)
  | .numberPoint =>
    if c.isDigit then (.numberPoint, .read)
    else if forms.exponent && isExponentMark c then (.numberExponent false false, .read)
    else if forms.complex && c == 'i' then (.numberUnit, .read)
    else numberEnd c
  | .numberFraction digits =>
    if c.isDigit then (.numberFraction true, .read)
    else if !digits then (.rejected, .reject)
    else if forms.exponent && isExponentMark c then (.numberExponent false false, .read)
    else if forms.complex && c == 'i' then (.numberUnit, .read)
    else numberEnd c
  | .numberExponent signed digits =>
    if c.isDigit then (.numberExponent signed true, .read)
    else if isSign c && !signed && !digits then (.numberExponent true digits, .read)
    else if !digits then (.rejected, .reject)
    else if forms.complex && c == 'i' then (.numberUnit, .read)
    else numberEnd c
  | .numberUnit => numberEnd c
  | .lineComment => if isLineBreak c then (.commentDone, .acceptBefore) else (.lineComment, .read)
  | .blockComment depth => machine.onComment depth c
  | .symbols => onSymbols profile machine.text c
  | .literal => (.literal, .read)
  | .rejected => (.rejected, .reject)
  | state => (state, .acceptBefore)

/-- What the end of the text leads to in each state. Strings and block comments that are still open
are rejected, while a line comment may end here. -/
def onEnd (machine : Machine) : State × Action :=
  let profile := machine.profile
  match machine.state with
  | .initial | .string _ | .stringEscape _ | .blockComment _ | .rejected => (.rejected, .reject)
  | .layout => (.layoutDone, .accept)
  | .word => (.identifierDone, .accept)
  | .number | .numberPoint | .numberUnit => (.numberDone, .accept)
  | .numberRadix _ digits | .numberFraction digits | .numberExponent _ digits =>
    if digits then (.numberDone, .accept) else (.rejected, .reject)
  | .lineComment => (.commentDone, .accept)
  | .symbols =>
    match profile.literalKind? machine.text with
    | some kind => (.literalDone kind, .accept)
    | none =>
      if profile.isOperator machine.text then (.operatorDone, .accept)
      else if profile.isIdentifier machine.text then (.identifierDone, .accept)
      else (.rejected, .reject)
  | .literal =>
    match profile.literalKind? machine.text with
    | some kind => (.literalDone kind, .accept)
    | none =>
      if profile.isIdentifier machine.text then (.identifierDone, .accept)
      else (.rejected, .reject)
  | state => (state, .accept)

def transition (machine : Machine) : Option Char → State × Action
  | some c => machine.onChar c
  | none => machine.onEnd

/-- One step: the machine moves, and remembers the character if it reads it. When the depth of a
comment changes, all characters up to here are used, so that no character belongs to two markers. -/
def step (machine : Machine) (input : Option Char) : Machine × Action :=
  let (next, action) := machine.transition input
  match machine with
  | ⟨profile, state, buffer, markerFrom, steps⟩ =>
    let buffer :=
      match action, input with
      | .read, some c => buffer.push c
      | _, _ => buffer
    let markerFrom :=
      match next with
      | .blockComment _ => if state = next then markerFrom else buffer.size
      | _ => markerFrom
    (⟨profile, next, buffer, markerFrom, steps + 1⟩, action)

def kind? (machine : Machine) : Option TokenKind :=
  match machine.state with
  | .layoutDone => some .whitespace
  | .stringDone => some .string
  | .numberDone => some .number
  | .commentDone => some .comment
  | .operatorDone => some .operator
  | .delimiter => some .delimiter
  | .literalDone kind => some kind
  | .identifierDone => some ((machine.profile.wordKind? machine.text).getD .identifier)
  | _ => none

end Machine

/-- How a run of the automaton ended. Only an accepting run consumes anything or has a kind, and
what it accepts may be no more than the front of the text. -/
structure Verdict where
  state : State
  action : Action
  /-- The number of bytes that the accepted token covers. -/
  consumed : Nat
  kind : Option TokenKind
  deriving DecidableEq, Repr, Inhabited

namespace Verdict

def accepted (verdict : Verdict) : Bool :=
  verdict.action.isAccept

/-- Whether a text of a length in bytes is accepted as a whole. -/
def covers (verdict : Verdict) (length : Nat) : Bool :=
  verdict.accepted && verdict.consumed == length

end Verdict

namespace Machine

/-- The verdict after a final action. It is read off the machine as it stands, so that it is right
only right after the action. -/
def verdict (machine : Machine) (action : Action) : Verdict where
  state := machine.state
  action := action
  consumed := if action.isAccept then Text.byteLength machine.text else 0
  kind := if action.isAccept then machine.kind? else none

/-- Reads a text up to the first final action, or up to its end. The machine is not reset, so that a
text may also be read from the middle of another. -/
def feed (machine : Machine) : List Char → Machine × Action
  | [] => machine.step none
  | c :: text =>
    let (machine, action) := machine.step (some c)
    if action.isFinal then (machine, action) else machine.feed text

def run (machine : Machine) (text : List Char) : Verdict × Machine :=
  let (machine, action) := machine.reset.feed text
  (machine.verdict action, machine)

/-- The kind of a text that is accepted as a whole. A text of which only the front is accepted has
none, like one that is rejected. -/
def classify (machine : Machine) (text : List Char) : Option TokenKind × Machine :=
  let (verdict, machine) := machine.run text
  (if verdict.covers (Text.byteLength text) then verdict.kind else none, machine)

end Machine

end ProfileLexer
