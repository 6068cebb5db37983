import ProfileLexer.Number.Basic
import ProfileLexer.Value.Basic

/-!
States and actions of the automaton that decides the kind of one lexeme.
-/

namespace ProfileLexer

inductive State where
  | initial
  /-- In a word that may be reserved, or a string lead. -/
  | word
  | string (quote : Char)
  /-- Behind a backslash in a string. -/
  | stringEscape (quote : Char)
  | stringDone
  | number
  | numberRadix (radix : Radix) (digits : Bool)
  /-- Behind a decimal point. -/
  | numberPoint
  | numberFraction (digits : Bool)
  | numberExponent (signed digits : Bool)
  /-- Behind an imaginary unit. -/
  | numberUnit
  | numberDone
  | lineComment
  | blockComment (depth : Nat)
  | commentDone
  /-- In characters that may still become an operator, a comment marker or a literal. -/
  | symbols
  | operatorDone
  /-- In a literal, which is looked at when all of it has been read. -/
  | literal
  | literalDone (kind : TokenKind)
  | identifierDone
  | delimiter
  | layout
  | layoutDone
  | rejected
  deriving DecidableEq, Repr, Inhabited

/-- What a step of the automaton does with the character that it is given. All actions but `read`
are final: a run stops with the first of them. -/
inductive Action where
  | read
  | accept
  /-- The token ends before the character. -/
  | acceptBefore
  | reject
  deriving DecidableEq, Repr, Inhabited

namespace Action

def name : Action → String
  | read => "Read"
  | accept => "Accept"
  | acceptBefore => "AcceptAndPushback"
  | reject => "Reject"

def isFinal : Action → Bool
  | read => false
  | accept | acceptBefore | reject => true

def isAccept : Action → Bool
  | accept | acceptBefore => true
  | read | reject => false

end Action

namespace State

def isAccepting : State → Bool
  | stringDone | numberDone | commentDone | operatorDone | literalDone _ | identifierDone
  | delimiter | layoutDone => true
  | _ => false

def name : State → String
  | initial => "INITIAL"
  | word => "KEYWORD_CANDIDATE"
  | string _ => "STRING_STARTED"
  | stringEscape _ => "STRING_ESCAPED"
  | stringDone => "STRING_COMPLETE"
  | number => "NUMBER_STARTED"
  | numberRadix _ _ => "NUMBER_RADIX"
  | numberPoint => "NUMBER_DECIMAL"
  | numberFraction _ => "NUMBER_FRACTION"
  | numberExponent _ _ => "NUMBER_EXPONENT"
  | numberUnit => "NUMBER_COMPLEX"
  | numberDone => "NUMBER_COMPLETE"
  | lineComment => "LINE_COMMENT"
  | blockComment _ => "BLOCK_COMMENT"
  | commentDone => "COMMENT_COMPLETE"
  | symbols => "OPERATOR_STARTED"
  | operatorDone => "OPERATOR_COMPLETE"
  | literal => "LITERAL_STARTED"
  | literalDone _ => "LITERAL_COMPLETE"
  | identifierDone => "IDENTIFIER_COMPLETE"
  | delimiter => "DELIMITER"
  | layout => "WHITESPACE"
  | layoutDone => "WHITESPACE_COMPLETE"
  | rejected => "REJECT"

/-- A state as a value: its name, or a record of one field when it carries something. -/
def toValue : State → Value
  | initial => .text "Initial"
  | word => .text "KeywordCandidate"
  | string quote => .record [("StringStarted", .record [("quote", .text (.singleton quote))])]
  | stringEscape quote =>
    .record [("StringEscaped", .record [("quote", .text (.singleton quote))])]
  | stringDone => .text "StringComplete"
  | number => .text "NumberStarted"
  | numberRadix radix digits =>
    .record [("NumberRadix", .record [("radix", .nat radix.base), ("digits", .flag digits)])]
  | numberPoint => .text "NumberDecimal"
  | numberFraction digits => .record [("NumberFraction", .record [("digits", .flag digits)])]
  | numberExponent signed digits =>
    .record [("NumberExponent", .record [("signed", .flag signed), ("digits", .flag digits)])]
  | numberUnit => .text "NumberComplex"
  | numberDone => .text "NumberComplete"
  | lineComment => .text "LineComment"
  | blockComment depth => .record [("BlockComment", .record [("depth", .nat depth)])]
  | commentDone => .text "CommentComplete"
  | symbols => .text "OperatorStarted"
  | operatorDone => .text "OperatorComplete"
  | literal => .text "LiteralStarted"
  | literalDone kind => .record [("LiteralComplete", .text kind.name)]
  | identifierDone => .text "IdentifierComplete"
  | delimiter => .text "Delimiter"
  | layout => .text "Whitespace"
  | layoutDone => .text "WhitespaceComplete"
  | rejected => .text "Reject"

end State

end ProfileLexer
