import ProfileLexer.Log.Code

/-!
Kinds of tokens, the classes they fall into, and what can be wrong with a token.
-/

namespace ProfileLexer

inductive TokenKind where
  | keyword
  | identifier
  | operator
  | delimiter
  | number
  | string
  | comment
  | whitespace
  | builtin
  | function
  | datatype
  /-- A name behind a sigil. -/
  | sigilName
  | boolean
  | character
  | symbol
  | unknown
  deriving DecidableEq, Repr, Inhabited

inductive TokenClass where
  /-- Reserved and well-known words. -/
  | word
  | identifier
  | operation
  | literal
  | punctuation
  /-- Blanks and comments. -/
  | trivia
  | invalid
  deriving DecidableEq, Repr, Inhabited

namespace TokenKind

def all : List TokenKind :=
  [keyword, identifier, operator, delimiter, number, string, comment, whitespace, builtin,
    function, datatype, sigilName, boolean, character, symbol, unknown]

def name : TokenKind → String
  | keyword => "KEYWORD"
  | identifier => "IDENTIFIER"
  | operator => "OPERATOR"
  | delimiter => "DELIMITER"
  | number => "NUMBER"
  | string => "STRING"
  | comment => "COMMENT"
  | whitespace => "WHITESPACE"
  | builtin => "BUILTIN"
  | function => "FUNCTION"
  | datatype => "DATATYPE"
  | sigilName => "VARIABLE"
  | boolean => "BOOLEAN"
  | character => "CHARACTER"
  | symbol => "SYMBOL"
  | unknown => "UNKNOWN"

def ofName? (name : String) : Option TokenKind :=
  all.find? (·.name == name)

def tokenClass : TokenKind → TokenClass
  | keyword | builtin | function | datatype => .word
  | identifier | sigilName => .identifier
  | operator => .operation
  | number | string | boolean | character | symbol => .literal
  | delimiter => .punctuation
  | whitespace | comment => .trivia
  | unknown => .invalid

/-- Whether tokens of a kind only separate others. An invalid comment is trivia as well, since the
kind alone decides. -/
def isTrivia (kind : TokenKind) : Bool :=
  kind.tokenClass == .trivia

end TokenKind

def TokenClass.name : TokenClass → String
  | word => "Word"
  | identifier => "Identifier"
  | operation => "Operation"
  | literal => "Literal"
  | punctuation => "Punctuation"
  | trivia => "Trivia"
  | invalid => "Invalid"

inductive Issue where
  /-- One character outside the alphabet of the profile. -/
  | invalidCharacter
  /-- A string, comment or quoted list that the source does not close. -/
  | unterminatedLiteral
  /-- No form that the automaton accepts. -/
  | unclassifiableLexeme
  /-- The place of a chunk whose worker failed. -/
  | degradedChunk
  deriving DecidableEq, Repr, Inhabited

namespace Issue

def name : Issue → String
  | invalidCharacter => "invalid_character"
  | unterminatedLiteral => "unterminated_literal"
  | unclassifiableLexeme => "unclassifiable_lexeme"
  | degradedChunk => "degraded_chunk"

def ofName? (name : String) : Option Issue :=
  [invalidCharacter, unterminatedLiteral, unclassifiableLexeme, degradedChunk].find?
    (·.name == name)

def code : Issue → Code
  | invalidCharacter => .invalidCharacter
  | unterminatedLiteral => .unterminatedLiteral
  | unclassifiableLexeme => .unclassifiableLexeme
  | degradedChunk => .chunkDegraded

def description (issue : Issue) : String :=
  issue.code.description

end Issue

end ProfileLexer
