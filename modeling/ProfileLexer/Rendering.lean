import ProfileLexer.Position.Lines
import ProfileLexer.Run.MetricsValue

/-!
Token streams as they are shown to a user: a table of tokens, messages about invalid tokens with
the lines they are on, and a JSON report.
-/

namespace ProfileLexer.Rendering

/-- One token of a table: where it is, its kind, its text, and what is wrong with it. -/
def row (index : LineIndex) (token : Token) : String :=
  let problem :=
    match token.issue with
    | some issue => "  [" ++ issue.code.name ++ "] " ++ issue.description
    | none => ""
  Text.alignRight 9 (index.positionAt token.offset).text ++ "  " ++
    Text.alignLeft 11 token.kind.name ++ " " ++
    String.ofList (Text.quoted token.text.toList) ++ problem

/-- The tokens of a source, one on a line. Valid blanks and comments are left out unless they are
asked for. -/
def table (source : String) (stream : TokenStream) (withTrivia : Bool) : String :=
  let index := LineIndex.ofSource source
  let shown := stream.tokens.filter fun token => withTrivia || !token.valid || token.isSignificant
  Text.lines (shown.map (row index))

def complaint (token : Token) : String :=
  match token.issue with
  | some issue =>
    token.kind.name ++ " [" ++ issue.code.name ++ "]: " ++ issue.description
  | none => token.kind.name ++ ": invalid token"

/-- The message about an invalid token with the line that it is on; none when the carets under it
can not be counted. -/
def diagnostic? (index : LineIndex) (token : Token) : Option String :=
  index.snippet? (index.spanOf token.offset token.text.utf8ByteSize) (complaint token)

/-- The messages about all invalid tokens of a source, in source order. One that can not be shown
takes all the others with it. -/
def diagnostics? (source : String) (stream : TokenStream) : Option (List String) :=
  stream.invalid.mapM (diagnostic? (.ofSource source))

/-- A report on the tokens of a source, with metrics if there are some. -/
def report (source profile : String) (stream : TokenStream) (metrics : Option RunMetrics) : Value :=
  .record <|
    [("source", .text source), ("profile", .text profile), ("token_count", .nat stream.length),
      ("invalid_count", .nat stream.invalidCount),
      ("tokens", .list (stream.tokens.map Token.toValue))] ++
    (match metrics with
      | some metrics => [("metrics", metrics.toValue)]
      | none => [])

end ProfileLexer.Rendering
