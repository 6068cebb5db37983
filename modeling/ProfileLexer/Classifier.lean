import ProfileLexer.Automaton.Machine
import ProfileLexer.Settings.Basic
import ProfileLexer.Token.Basic

/-!
Classification: a lexeme becomes a token. The direct way looks at the shape of the lexeme; a lexeme
of no known shape is given to the automaton. On request the automaton also checks every valid answer
of the direct way, whose answer stands all the same.
-/

namespace ProfileLexer

/-- How many lexemes went which way. The first three are disjoint and together count every lexeme;
checks are counted apart and change none of them. -/
structure Tally where
  /-- Lexemes of a known shape. -/
  direct : Nat
  /-- Lexemes that the automaton accepted. -/
  replayed : Nat
  /-- Lexemes that the automaton rejected. -/
  rejected : Nat
  /-- Direct answers that the automaton checked. -/
  crossChecked : Nat
  disagreements : Nat
  deriving DecidableEq, Repr, Inhabited

namespace Tally

def zero : Tally := ⟨0, 0, 0, 0, 0⟩

def total (tally : Tally) : Nat :=
  tally.direct + tally.replayed + tally.rejected

def add (first second : Tally) : Tally where
  direct := first.direct + second.direct
  replayed := first.replayed + second.replayed
  rejected := first.rejected + second.rejected
  crossChecked := first.crossChecked + second.crossChecked
  disagreements := first.disagreements + second.disagreements

instance : Add Tally := ⟨add⟩

def toValue (tally : Tally) : Value :=
  .record [
    ("fast_path", .nat tally.direct),
    ("slow_path", .nat tally.replayed),
    ("rejected", .nat tally.rejected),
    ("cross_checked", .nat tally.crossChecked),
    ("disagreements", .nat tally.disagreements)]

end Tally

/-- A lexeme on which the direct way and the automaton disagree, with both answers. It is a sample
for the reader of the metrics and decides nothing. -/
structure Disagreement where
  offset : Nat
  text : String
  direct : TokenKind
  /-- None when the automaton rejects the lexeme. -/
  automaton : Option TokenKind
  deriving DecidableEq, Repr, Inhabited

def Disagreement.toValue (disagreement : Disagreement) : Value :=
  .record [
    ("offset", .nat disagreement.offset),
    ("text", .text disagreement.text),
    ("fast", .text disagreement.direct.name),
    ("dfa", .text? (disagreement.automaton.map (·.name)))]

/-- The kind of a lexeme, and what is wrong with it, if anything. An unterminated form keeps the
kind that it would have had. -/
structure Judgement where
  kind : TokenKind
  issue : Option Issue
  deriving DecidableEq, Repr, Inhabited

namespace Judgement

def valid (kind : TokenKind) : Judgement := ⟨kind, none⟩

def ofClosed (kind : TokenKind) (closed : Bool) : Judgement :=
  ⟨kind, if closed then none else some .unterminatedLiteral⟩

end Judgement

namespace Profile

/-- The judgement on a text that a form covers from end to end. A form that ends before the text
says nothing about it, closed or not. -/
def whole? (text : List Char) (kind : TokenKind) (extent : Option Extent) : Option Judgement :=
  match extent with
  | some extent =>
    if extent.length = text.length then some (.ofClosed kind extent.closed) else none
  | none => none

def kindIf (test : Bool) (kind : TokenKind) : Option Judgement :=
  if test then some (.valid kind) else none

/-- The shapes of lexemes, in the order in which they are tried. A text may have several shapes; the
first one decides. -/
inductive Shape where
  | string
  | lineComment
  | blockComment
  | literal
  | number
  | operator
  | delimiter
  | word
  | layout
  | identifier
  deriving DecidableEq, Repr, Inhabited

def Shape.all : List Shape :=
  [string, lineComment, blockComment, literal, number, operator, delimiter, word, layout,
    identifier]

/-- The judgement on a text that has a shape from end to end. -/
def judgeAs? (profile : Profile) (text : List Char) : Shape → Option Judgement
  | .string => whole? text .string (profile.stringExtent? text)
  | .lineComment =>
    match profile.lineComment with
    | some marker => kindIf (marker.isPrefixOf text && !text.any isLineBreak) .comment
    | none => none
  | .blockComment => whole? text .comment (profile.commentExtent? text)
  | .literal =>
    if (text.head?.map profile.isLiteralLead).getD false then
      profile.literals.findSome? fun form =>
        whole? text form.kind (profile.literalExtent? form text)
    else none
  | .number => kindIf (NumberForm.ofText? profile.numbers text).isSome .number
  | .operator => kindIf (profile.isOperator text) .operator
  | .delimiter =>
    match text with
    | [c] => kindIf (profile.isDelimiter c) .delimiter
    | _ => none
  | .word => (profile.wordKind? text).map .valid
  | .layout => kindIf (text.all isLayout) .whitespace
  | .identifier => kindIf (profile.isIdentifier text) .identifier

/-- The judgement on a text by the first shape that it has. The empty text has none. -/
def judge? (profile : Profile) (text : List Char) : Option Judgement :=
  if text.isEmpty then none else Shape.all.findSome? (profile.judgeAs? text)

/-- What is wrong with a text that is of no known shape and that the automaton rejects. Only a
single character is ever called foreign to the alphabet; a longer text is unclassifiable whatever is
in it. -/
def rejection (profile : Profile) : List Char → Issue
  | [c] => if profile.inAlphabet c then .unclassifiableLexeme else .invalidCharacter
  | _ => .unclassifiableLexeme

end Profile

/-- A classifier with its own automaton and its own counts. The machine is used again and again, and
its state between two lexemes is left open. -/
structure Classifier where
  profile : Profile
  machine : Machine
  preferences : ClassifyPreferences
  tally : Tally
  /-- The first disagreements, up to the limit of the build. -/
  samples : Array Disagreement
  deriving Inhabited

namespace Classifier

def ofProfile (profile : Profile) (preferences : ClassifyPreferences) : Classifier :=
  ⟨profile, .ofProfile profile, preferences, .zero, #[]⟩

/-- The classifier without its counts and samples. The machine goes on as it is, steps included. -/
def drain (classifier : Classifier) : Classifier :=
  { classifier with tally := .zero, samples := #[] }

def escapedText (lexeme : Lexeme) : String :=
  String.ofList (Text.escaped lexeme.text.toList)

/-- Lets the automaton check a direct answer. The answer stands whatever the automaton says; a
disagreement is counted, logged and kept as a sample while there is room. -/
def crossCheck (classifier : Classifier) (lexeme : Lexeme) (direct : TokenKind) :
    Classifier × List Entry :=
  let (automaton, machine) := classifier.machine.classify lexeme.text.toList
  let tally := { classifier.tally with crossChecked := classifier.tally.crossChecked + 1 }
  if automaton = some direct then
    ({ classifier with machine := machine, tally := tally }, [])
  else
    let samples :=
      if classifier.samples.size < Limits.maxDisagreementSamples then
        classifier.samples.push ⟨lexeme.offset, lexeme.text, direct, automaton⟩
      else classifier.samples
    ({ classifier with
        machine := machine
        tally := { tally with disagreements := tally.disagreements + 1 }
        samples := samples },
      [.plain <| (Event.codedWarning .pathDisagreement
        "Fast path and automaton disagree").withDetails
          [("offset", toString lexeme.offset), ("text", escapedText lexeme),
            ("fast", direct.name), ("dfa", (automaton.map (·.name)).getD "REJECT")]])

/-- Lets the automaton judge a lexeme of no known shape. Either its kind is taken as it is, or the
lexeme is unknown. -/
def replay (classifier : Classifier) (lexeme : Lexeme) : Judgement × Classifier :=
  let text := lexeme.text.toList
  let (automaton, machine) := classifier.machine.classify text
  match automaton with
  | some kind =>
    (.valid kind,
      { classifier with
        machine := machine
        tally := { classifier.tally with replayed := classifier.tally.replayed + 1 } })
  | none =>
    (⟨.unknown, some (classifier.profile.rejection text)⟩,
      { classifier with
        machine := machine
        tally := { classifier.tally with rejected := classifier.tally.rejected + 1 } })

def judge (classifier : Classifier) (lexeme : Lexeme) : Judgement × Classifier × List Entry :=
  match classifier.profile.judge? lexeme.text.toList with
  | some judgement =>
    let classifier :=
      { classifier with
        tally := { classifier.tally with direct := classifier.tally.direct + 1 } }
    if judgement.issue.isNone && classifier.preferences.crossCheck then
      let (classifier, entries) := classifier.crossCheck lexeme judgement.kind
      (judgement, classifier, entries)
    else (judgement, classifier, [])
  | none =>
    let (judgement, classifier) := classifier.replay lexeme
    (judgement, classifier, [])

def classify (classifier : Classifier) (lexeme : Lexeme) : Token × Classifier × List Entry :=
  let (judgement, classifier, entries) := classifier.judge lexeme
  match judgement.issue with
  | none => (.ofLexeme judgement.kind lexeme, classifier, entries)
  | some issue =>
    let report :=
      if classifier.preferences.logInvalid then
        [Entry.plain <| (Event.codedWarning issue.code issue.description).withDetails
          [("offset", toString lexeme.offset), ("text", escapedText lexeme),
            ("kind", judgement.kind.name)]]
      else []
    (.invalid judgement.kind lexeme issue, classifier, entries ++ report)

/-- The tokens of lexemes in order, behind those that are there already. The classifier is handed
from one lexeme to the next. -/
def classifyOnto (classifier : Classifier) (tokens : Array Token) (entries : Array Entry) :
    List Lexeme → Array Token × Classifier × Array Entry
  | [] => (tokens, classifier, entries)
  | lexeme :: lexemes =>
    let (token, classifier, more) := classifier.classify lexeme
    classifyOnto classifier (tokens.push token) (entries ++ more.toArray) lexemes

def classifyAll (classifier : Classifier) (lexemes : List Lexeme) :
    List Token × Classifier × List Entry :=
  let (tokens, classifier, entries) := classifier.classifyOnto #[] #[] lexemes
  (tokens.toList, classifier, entries.toList)

end Classifier

end ProfileLexer
