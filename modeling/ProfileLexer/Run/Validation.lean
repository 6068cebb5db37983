import ProfileLexer.Profile.Builtin
import ProfileLexer.Run.Tokenize

/-!
A check that the tokenizer is in working order.
-/

namespace ProfileLexer.Validation

/-- A short source for each built-in profile, in which every token is valid. -/
def samples : List (String × String) := [
  ("imperative", "def f(x):\n    return x ** 2  # sq\n"),
  ("symbolic", "(define (f x) (* x 3/4)) ; q\n"),
  ("query", "SELECT a FROM t WHERE b >= @min -- c\n")]

/-- Runs one sample and refuses invalid tokens. Which tokens there are is not compared with
anything. -/
def checkSample (config : RunConfig) (name source : String) : Logged String Unit := do
  let profile ← (Builtin.load name).mapError (·.message)
  let result ← (tokenize profile config default source).mapError fun error =>
    "Smoke run for '" ++ name ++ "' failed: " ++ error.message
  if result.metrics.invalid > 0 then
    Logged.fail ("Smoke run for '" ++ name ++ "' produced " ++ toString result.metrics.invalid ++
      " invalid tokens")

/-- Codes that are logged: all that have a name here, and those that issues lead to. Whether they
are registered is what the check asks. -/
def loggedCodes : List Code :=
  Code.all ++ [Issue.invalidCharacter.code, Issue.unterminatedLiteral.code,
    Issue.unclassifiableLexeme.code, Issue.degradedChunk.code, .pathDisagreement, .workerFailure,
    .pipelineComplete]

/-- Checks that every code is registered and that the built-in profiles turn their samples into
valid tokens. -/
def validate (config : RunConfig) : Logged String Unit := do
  Logged.log (Event.debug "Validating tokenization pipeline configuration")
  match loggedCodes.find? (!·.isRegistered) with
  | some code => Logged.fail ("Code " ++ code.name ++ " has no registered metadata")
  | none => pure ()
  let profiles ← Builtin.profiles.mapError fun error =>
    "Built-in profile invalid: " ++ error.message
  let config := (config.withWorkers 1).withPolicy .abortRun
  for (name, source) in samples do
    checkSample config name source
  Logged.log <| (Event.success .systemReady "Pipeline validation succeeded").withDetails
    [("profiles_validated", toString profiles.length),
      ("codes_registered", toString Code.all.length)]

end ProfileLexer.Validation
