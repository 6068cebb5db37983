import ProfileLexer.Sorted
import ProfileLexer.Text.Bytes
import ProfileLexer.Token.TokenValue

/-!
Token streams: the tokens of a source in order, with an index of those that carry meaning.
-/

namespace ProfileLexer

/-- The first thing that is wrong with a stream. Tokens are checked in order, and for each one
whether it is empty, then its offset, then its text. -/
inductive StreamViolation where
  /-- A token does not start where the one before it ends. -/
  | gap (index offset expected : Nat)
  /-- The text of a token is not what the source has there. -/
  | textMismatch (index offset : Nat)
  | emptyToken (index : Nat)
  /-- The tokens end before the source does. -/
  | truncated (covered size : Nat)
  deriving DecidableEq, Repr, Inhabited

namespace StreamViolation

def name : StreamViolation → String
  | gap _ _ _ => "Gap"
  | textMismatch _ _ => "TextMismatch"
  | emptyToken _ => "EmptyToken"
  | truncated _ _ => "Truncated"

def message : StreamViolation → String
  | gap index offset expected =>
    "token " ++ toString index ++ " starts at " ++ toString offset ++ ", expected " ++
      toString expected
  | textMismatch index offset =>
    "token " ++ toString index ++ " at " ++ toString offset ++ " does not match the source text"
  | emptyToken index => "empty token at index " ++ toString index
  | truncated covered size =>
    "stream covers " ++ toString covered ++ " bytes of a " ++ toString size ++ "-byte source"

end StreamViolation

/-- How many tokens there are of every kind that occurs, in the order of the kinds. Invalid tokens
count under the kind that they have. -/
def kindCounts (tokens : List Token) : List (TokenKind × Nat) :=
  (TokenKind.all.map fun kind => (kind, tokens.countP (·.kind == kind))).filter (0 < ·.2)

def kindCountsValue (counts : List (TokenKind × Nat)) : Value :=
  .record (counts.map fun (kind, count) => (kind.name, .nat count))

/-- Tokens in source order, with an index of those that carry meaning. The index belongs to the
tokens when the stream is made by `TokenStream.ofTokens`, and not otherwise. -/
structure TokenStream where
  tokens : List Token
  /-- Where the tokens are that are neither blanks nor comments. -/
  index : List Nat
  deriving DecidableEq, Repr, Inhabited

namespace TokenStream

/-- The stream of some tokens, with its index. Nothing is asked of the tokens; whether they cover a
source is for `TokenStream.verify` to tell. -/
def ofTokens (tokens : List Token) : TokenStream where
  tokens := tokens
  index := (tokens.zipIdx.filter (·.1.isSignificant)).map (·.2)

def length (stream : TokenStream) : Nat :=
  stream.tokens.length

def isEmpty (stream : TokenStream) : Bool :=
  stream.tokens.isEmpty

def significant (stream : TokenStream) : List Token :=
  let tokens := stream.tokens.toArray
  stream.index.filterMap (tokens[·]?)

def significantCount (stream : TokenStream) : Nat :=
  stream.index.length

/-- The texts of all tokens, one behind the other. Offsets are not looked at. -/
def reconstruct (stream : TokenStream) : String :=
  String.join (stream.tokens.map (·.text))

/-- Checks tokens, numbered from `index`, against the rest of a source that starts at byte
`expected`. -/
def verifyFrom (index expected : Nat) (rest : List Char) :
    List Token → Except StreamViolation Unit
  | [] =>
    if rest.isEmpty then .ok ()
    else .error (.truncated expected (expected + Text.byteLength rest))
  | token :: tokens =>
    let text := token.text.toList
    if text.isEmpty then .error (.emptyToken index)
    else if token.offset ≠ expected then .error (.gap index token.offset expected)
    else if text.isPrefixOf rest then
      verifyFrom (index + 1) token.stop (rest.drop text.length) tokens
    else .error (.textMismatch index token.offset)

/-- Checks that the tokens are not empty and lie end to end over the whole source, each with the
text that the source has there. Kinds and validity are not looked at. -/
def verify (stream : TokenStream) (source : String) : Except StreamViolation Unit :=
  verifyFrom 0 0 source.toList stream.tokens

def invalid (stream : TokenStream) : List Token :=
  stream.tokens.filter (!·.valid)

def invalidCount (stream : TokenStream) : Nat :=
  stream.invalid.length

def ofKind (stream : TokenStream) (kind : TokenKind) : List Token :=
  stream.tokens.filter (·.kind == kind)

/-- The token over a byte offset. The search expects ascending offsets; on a stream that has not
been verified it may miss a token, but never returns one that does not cover the offset. -/
def tokenAt? (stream : TokenStream) (offset : Nat) : Option Token :=
  let tokens := stream.tokens.toArray
  let starts := tokens.map (·.offset)
  tokens[Sorted.lastAtMost starts offset]?.filter fun token =>
    token.offset ≤ offset && offset < token.stop

def toValue (stream : TokenStream) : Value :=
  .record [("tokens", .list (stream.tokens.map Token.toValue))]

/-- The stream that a value holds. Data has no index, and none is made: the stream lists no
significant tokens until it is built anew from its tokens. -/
def ofValue? (value : Value) : Option TokenStream := do
  let fields ← value.asFields? ["tokens"]
  let tokens ← Value.required? fields "tokens" (Value.asListOf? Token.ofValue?)
  return ⟨tokens, []⟩

end TokenStream

end ProfileLexer
