import ProfileLexer.Text.Escape
import ProfileLexer.Token.Kind
import ProfileLexer.Value.Basic

/-!
Lexemes, which are bounded pieces of a source, and tokens, which are classified lexemes.
-/

namespace ProfileLexer

/-- A piece of a source with the byte offset at which it starts. The text is kept beside the offset,
and that the source has it there is for the scan to provide. -/
structure Lexeme where
  text : String
  offset : Nat
  deriving DecidableEq, Repr, Inhabited

def Lexeme.stop (lexeme : Lexeme) : Nat :=
  lexeme.offset + lexeme.text.utf8ByteSize

/-- A classified piece of a source. That a token has an issue just when it is invalid holds of
`Token.ofLexeme` and `Token.invalid`; a token that is read from data may be otherwise. -/
structure Token where
  kind : TokenKind
  text : String
  offset : Nat
  valid : Bool
  issue : Option Issue
  deriving DecidableEq, Repr, Inhabited

namespace Token

def ofLexeme (kind : TokenKind) (lexeme : Lexeme) : Token :=
  ⟨kind, lexeme.text, lexeme.offset, true, none⟩

/-- The token of a lexeme with which something is wrong. It keeps the kind that fits it best, and
all of its text. -/
def invalid (kind : TokenKind) (lexeme : Lexeme) (issue : Issue) : Token :=
  ⟨kind, lexeme.text, lexeme.offset, false, some issue⟩

def stop (token : Token) : Nat :=
  token.offset + token.text.utf8ByteSize

def isSignificant (token : Token) : Bool :=
  !token.kind.isTrivia

def line (token : Token) : String :=
  token.kind.name ++ "(" ++ String.ofList (Text.quoted token.text.toList) ++ ")@" ++
    toString token.offset ++ (if token.valid then "" else " invalid")

/-- A token as a record; a token without an issue has no such field. -/
def toValue (token : Token) : Value :=
  .record <|
    [("kind", .text token.kind.name), ("text", .text token.text), ("offset", .nat token.offset),
      ("valid", .flag token.valid)] ++
    (match token.issue with
      | some issue => [("issue", .text issue.name)]
      | none => [])

end Token

end ProfileLexer
