import ProfileLexer.Log.Entry
import ProfileLexer.Settings.Policy
import ProfileLexer.Text.Columns
import ProfileLexer.Word

/-!
Preferences of a run, as the environment sets them. A variable that is absent or can not be read
leaves the default.
-/

namespace ProfileLexer

abbrev Environment := List (String × String)

namespace Environment

def flag (environment : Environment) (name : String) (default : Bool) : Bool :=
  match environment.lookup name with
  | some "true" => true
  | some "false" => false
  | _ => default

/-- A natural number that fits into a word, with an optional plus sign. Zeros in front are allowed,
blanks are not. -/
def parseNat? (text : String) : Option Nat :=
  let digits :=
    match text.toList with
    | '+' :: rest => rest
    | all => all
  if digits.isEmpty || !digits.all Char.isDigit then none
  else
    let value := digits.foldl (fun value c => 10 * value + (c.toNat - '0'.toNat)) 0
    if value < wordLimit then some value else none

def nat? (environment : Environment) (name : String) : Option Nat :=
  (environment.lookup name).bind parseNat?

end Environment

/-- The level that a user names by word or number, in any case. -/
def LogLevel.parse? (text : String) : Option LogLevel :=
  match String.ofList (Text.lower text.toList) with
  | "error" | "0" => some .error
  | "warning" | "warn" | "1" => some .warning
  | "info" | "2" => some .info
  | "debug" | "3" => some .debug
  | _ => none

structure ScanPreferences where
  /-- Count the lines of the source. -/
  trackLines : Bool
  /-- Log an event at the end of a scan. -/
  logSummary : Bool
  deriving DecidableEq, Inhabited

structure ClassifyPreferences where
  /-- Replay every valid verdict through the automaton. -/
  crossCheck : Bool
  /-- Log every invalid token. -/
  logInvalid : Bool
  deriving DecidableEq, Inhabited

structure SchedulePreferences where
  /-- The requested number of workers; without one the machine decides. -/
  workers : Option Nat
  policy : FailurePolicy
  /-- The fewest lexemes in a chunk. -/
  minChunk : Nat
  /-- The number of lexemes below which one worker does everything. -/
  threshold : Nat
  deriving DecidableEq, Inhabited

/-- All preferences of a run. They are read once; a run does not look at the environment. -/
structure Settings where
  scan : ScanPreferences
  classify : ClassifyPreferences
  schedule : SchedulePreferences
  log : LogPreferences
  deriving DecidableEq, Inhabited

/-- The requested number of workers inside the limits of the build; none when none is requested. -/
def SchedulePreferences.clampedWorkers (preferences : SchedulePreferences) : Option Nat :=
  preferences.workers.map fun workers => min (max workers 1) Limits.maxWorkers

namespace LogPreferences

def ofEnvironment (environment : Environment) : LogPreferences where
  structured := environment.flag "TURING_LOGGING_USE_STRUCTURED" false
  console := environment.flag "TURING_LOGGING_ENABLE_CONSOLE" false
  minLevel := ((environment.lookup "TURING_LOGGING_MIN_LEVEL").bind LogLevel.parse?).getD .info
  performance := environment.flag "TURING_LOGGING_LOG_PERFORMANCE" true
  runContext := environment.flag "TURING_LOGGING_INCLUDE_RUN_CONTEXT" true

def development : LogPreferences :=
  ⟨false, true, .debug, true, true⟩

def production : LogPreferences :=
  ⟨true, true, .info, false, false⟩

def problem? (preferences : LogPreferences) : Option String :=
  if !preferences.console && preferences.structured then
    some "Structured logging requires console logging to be enabled"
  else none

/-- The level that is asked for, no less urgent than the build allows. A more urgent one is kept as
it is. -/
def effectiveLevel (preferences : LogPreferences) : LogLevel :=
  preferences.minLevel.min Limits.levelCeiling

def report (preferences : LogPreferences) : String :=
  Text.lines [
    "Logging Configuration:",
    "=== Build Limits ===",
    "- Log buffer size: " ++ toString Limits.logBufferSize,
    "- Max message length: " ++ toString Limits.maxMessageBytes,
    "- Level ceiling: " ++ Limits.levelCeiling.word,
    "=== User Preferences ===",
    "- Min log level: " ++ preferences.minLevel.name ++ " (effective " ++
      preferences.effectiveLevel.word ++ ")",
    "- Structured logging: " ++ toString preferences.structured,
    "- Console logging: " ++ toString preferences.console,
    "- Performance events: " ++ toString preferences.performance,
    "- Run context: " ++ toString preferences.runContext]

def toValue (preferences : LogPreferences) : Value :=
  .record [
    ("use_structured_logging", .flag preferences.structured),
    ("enable_console_logging", .flag preferences.console),
    ("min_log_level", .text preferences.minLevel.name),
    ("log_performance_events", .flag preferences.performance),
    ("include_run_context", .flag preferences.runContext)]

end LogPreferences

namespace Settings

def ofEnvironment (environment : Environment) : Settings where
  scan := {
    trackLines := environment.flag "TURING_SCANNER_TRACK_LINE_COLUMNS" true
    logSummary := environment.flag "TURING_SCANNER_LOG_SUMMARY" true }
  classify := {
    crossCheck := environment.flag "TURING_CLASSIFIER_CROSS_CHECK" false
    logInvalid := environment.flag "TURING_CLASSIFIER_LOG_INVALID" false }
  schedule := {
    workers := (environment.nat? "TURING_SCHEDULER_WORKERS").filter (0 < ·)
    policy :=
      match (environment.lookup "TURING_SCHEDULER_FAILURE_POLICY").map FailurePolicy.parse with
      | some (.ok policy) => policy
      | _ => .abortRun
    minChunk :=
      ((environment.nat? "TURING_SCHEDULER_MIN_CHUNK").filter (0 < ·)).getD Limits.minChunkSize
    threshold :=
      (environment.nat? "TURING_SCHEDULER_PARALLEL_THRESHOLD").getD Limits.parallelThreshold }
  log := LogPreferences.ofEnvironment environment

def toValue (settings : Settings) : Value :=
  .record [
    ("scanner", .record [
      ("track_line_columns", .flag settings.scan.trackLines),
      ("log_scan_summary", .flag settings.scan.logSummary)]),
    ("classifier", .record [
      ("cross_check_fast_path", .flag settings.classify.crossCheck),
      ("log_invalid_tokens", .flag settings.classify.logInvalid)]),
    ("scheduler", .record [
      ("worker_count", .nat? settings.schedule.workers),
      ("failure_policy", .text settings.schedule.policy.name),
      ("min_chunk_size", .nat settings.schedule.minChunk),
      ("parallel_threshold", .nat settings.schedule.threshold)]),
    ("logging", settings.log.toValue)]

end Settings

end ProfileLexer
