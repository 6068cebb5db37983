import ProfileLexer.Run.Error
import ProfileLexer.Run.Metrics

/-!
A run: a source is scanned, its lexemes are classified by workers, and the tokens are checked
against the source.
-/

namespace ProfileLexer

structure RunConfig where
  scan : ScanPreferences
  classify : ClassifyPreferences
  schedule : SchedulePreferences
  /-- The name of the run in the log; the name of the profile if there is none. -/
  label : Option String
  /-- Check the tokens against the source. -/
  verify : Bool
  host : Host
  deriving DecidableEq, Inhabited

namespace RunConfig

def ofSettings (settings : Settings) (host : Host) : RunConfig where
  scan := settings.scan
  classify := settings.classify
  schedule := settings.schedule
  label := none
  verify := true
  host := host

def withWorkers (config : RunConfig) (workers : Nat) : RunConfig :=
  { config with schedule := { config.schedule with workers := some workers } }

def withPolicy (config : RunConfig) (policy : FailurePolicy) : RunConfig :=
  { config with schedule := { config.schedule with policy := policy } }

def withCrossCheck (config : RunConfig) (enabled : Bool) : RunConfig :=
  { config with classify := { config.classify with crossCheck := enabled } }

/-- The configuration with which short sources are cut into chunks, too. With one worker there is
still one chunk. -/
def alwaysParallel (config : RunConfig) : RunConfig :=
  { config with schedule := { config.schedule with threshold := 0 } }

def withLabel (config : RunConfig) (label : String) : RunConfig :=
  { config with label := some label }

end RunConfig

structure RunResult where
  stream : TokenStream
  metrics : RunMetrics
  deriving DecidableEq, Repr, Inhabited

/-- What is logged at the end of a run that succeeds. It counts the tokens and says nothing of their
kinds. -/
def RunResult.completion (result : RunResult) (label : String) : Event :=
  (Event.success .pipelineComplete "Tokenization pipeline succeeded").withDetails
    [("run", label), ("tokens", toString result.metrics.tokens),
      ("invalid", toString result.metrics.invalid),
      ("workers", toString result.metrics.plan.workers),
      ("degraded_chunks", toString result.metrics.degraded.length)]

/-- Turns a source into tokens with a crew of workers whose turns a schedule sets. Neither the crew
nor the schedule has to be a sensible one; the tokens of a crew that makes them up are refused only
if they are checked. -/
def tokenizeWith {σ : Type} (profile : Profile) (config : RunConfig) (crew : Crew σ)
    (schedule : Schedule) (readings : Readings) (source : String) : Logged RunError RunResult :=
  let label := config.label.getD profile.id
  Logged.inside (.ofLabel label) <| do
    Logged.log <| (Event.info "Starting tokenization pipeline").withDetails
      [("profile", profile.id), ("bytes", toString source.utf8ByteSize)]
    let scan ← (profile.scan config.scan source).mapError .scan
    let run ← (dispatch config.schedule config.host label crew schedule source
      scan.lexemes).mapError .scheduler
    let stream := TokenStream.ofTokens run.reassembly.tokens
    if config.verify then
      (Logged.ofExcept (stream.verify source)).mapError .stream
    Logged.log <| (Event.success .classificationComplete "Classification complete").withDetails
      [("tokens", toString stream.length), ("invalid", toString stream.invalidCount),
        ("fast_path", toString (total (·.tally.direct) run.reassembly.chunks)),
        ("slow_path", toString (total (·.tally.replayed) run.reassembly.chunks))]
    let result : RunResult := ⟨stream, .collect profile.id scan run stream readings⟩
    Logged.log (result.completion label)
    return result

/-- Turns a source into tokens with workers that classify, one chunk after the other. The order of
the turns makes no difference to the stream, which is proved for `tokenizeWith`. -/
def tokenize (profile : Profile) (config : RunConfig) (readings : Readings) (source : String) :
    Logged RunError RunResult :=
  tokenizeWith profile config (.classifying profile config.classify) .inOrder readings source

end ProfileLexer
