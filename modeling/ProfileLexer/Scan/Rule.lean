import ProfileLexer.Number.Basic
import ProfileLexer.Scan.Extent

/-!
The rules that bound lexemes. A rule claims a number of characters at the start of a text or
declines; the first rule in the order of `Rule.all` that claims something bounds the next lexeme.
-/

namespace ProfileLexer

inductive Rule where
  | whitespace
  | newline
  | quotedString
  | leadString
  | lineComment
  | blockComment
  | literal
  | delimiter
  | operator
  | number
  | identifier
  /-- One character that nothing else claims. -/
  | fallback
  deriving DecidableEq, Repr, Inhabited

/-- Whether a character is a blank of every language. White space beyond these four is a character
like any other. -/
def isLayout (c : Char) : Bool :=
  c == ' ' || c == '\t' || c == '\n' || c == '\r'

def isLineBreak (c : Char) : Bool :=
  c == '\n' || c == '\r'

namespace Rule

/-- All rules, in the order in which they are tried. The last one claims a character of any text
that is not empty, so that a scan never stops short. -/
def all : List Rule :=
  [whitespace, newline, quotedString, leadString, lineComment, blockComment, literal, delimiter,
    operator, number, identifier, fallback]

def name : Rule → String
  | whitespace => "whitespace"
  | newline => "newline"
  | quotedString => "quoted_string"
  | leadString => "prefixed_string"
  | lineComment => "line_comment"
  | blockComment => "block_comment"
  | literal => "prefixed_literal"
  | delimiter => "delimiter"
  | operator => "operator"
  | number => "number"
  | identifier => "identifier"
  | fallback => "fallback"

def positive? (n : Nat) : Option Nat :=
  if n = 0 then none else some n

/-- The longest operator of at most `length` characters at the start of a text, found from long to
short. The text should have that many characters. -/
def longestOperator? (profile : Profile) (text : List Char) : Nat → Option Nat
  | 0 => none
  | length + 1 =>
    if profile.isOperator (text.take (length + 1)) then some (length + 1)
    else longestOperator? profile text length

/-- The longest operator at the start of a text. Where a profile asks for a boundary and the longest
operator runs into an identifier, no shorter one takes its place. -/
def operator? (profile : Profile) (text : List Char) : Option Nat :=
  match longestOperator? profile text (text.take profile.operatorLength).length with
  | none => none
  | some length =>
    if profile.definition.operatorBoundary && !profile.atBoundary (text.drop length) then none
    else some length

/-- The first of the literal forms of a profile that starts a text. Forms are tried only where the
first character can start one. -/
def literal? (profile : Profile) (text : List Char) : Option Nat :=
  match text with
  | [] => none
  | c :: _ =>
    if profile.isLiteralLead c then
      (profile.literals.findSome? (profile.literalExtent? · text)).map (·.length)
    else none

/-- The number of characters that a rule claims at the start of a text. A rule looks at this text
alone: what came before it has no bearing. -/
def claim? (profile : Profile) (text : List Char) : Rule → Option Nat
  | whitespace => positive? (text.takeWhile fun c => c == ' ' || c == '\t').length
  | newline => if (text.head?.map isLineBreak).getD false then some 1 else none
  | quotedString =>
    if (text.head?.map profile.isQuote).getD false then
      (profile.stringExtent? text).map (·.length)
    else none
  | leadString =>
    if (profile.stringLead? text).isSome then (profile.stringExtent? text).map (·.length)
    else none
  | lineComment =>
    match profile.lineComment with
    | none => none
    | some marker =>
      if marker.isPrefixOf text then
        positive? (marker.length + ((text.drop marker.length).takeWhile (!isLineBreak ·)).length)
      else none
  | blockComment => (profile.commentExtent? text).map (·.length)
  | literal => literal? profile text
  | delimiter => if (text.head?.map profile.isDelimiter).getD false then some 1 else none
  | operator => operator? profile text
  | number => Number.length? profile.numbers text
  | identifier =>
    match text with
    | [] => none
    | c :: rest =>
      if profile.startsIdentifier c then
        some (1 + (rest.takeWhile profile.continuesIdentifier).length)
      else none
  | fallback => if text.isEmpty then none else some 1

end Rule

end ProfileLexer
