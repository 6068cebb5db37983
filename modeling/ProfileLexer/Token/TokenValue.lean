import ProfileLexer.Token.Basic
import ProfileLexer.Value.Decode

/-!
Tokens read from values.
-/

namespace ProfileLexer.Token

/-- The token that a value holds. The issue may be absent or null. -/
def ofValue? (value : Value) : Option Token := do
  let fields ← value.asFields? ["kind", "text", "offset", "valid", "issue"]
  return {
    kind := ← Value.required? fields "kind" (Value.asNamed? TokenKind.ofName?)
    text := ← Value.required? fields "text" Value.asText?
    offset := ← Value.required? fields "offset" Value.asNat?
    valid := ← Value.required? fields "valid" Value.asFlag?
    issue :=
      ← Value.optional? fields "issue" (Value.orNull? (Value.asNamed? Issue.ofName?)) none }

end ProfileLexer.Token
