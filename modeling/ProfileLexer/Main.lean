import ProfileLexer.CommandLine.Session
import ProfileLexer.CommandLine.Usage
import ProfileLexer.Run.Validation
import Std.Time.DateTime.Timestamp

/-!
The program itself: it looks at the machine, runs one command, and prints what the command prints.
-/

namespace ProfileLexer.CommandLine

def variableNames : List String := [
  "TURING_SCANNER_TRACK_LINE_COLUMNS", "TURING_SCANNER_LOG_SUMMARY",
  "TURING_CLASSIFIER_CROSS_CHECK", "TURING_CLASSIFIER_LOG_INVALID", "TURING_SCHEDULER_WORKERS",
  "TURING_SCHEDULER_FAILURE_POLICY", "TURING_SCHEDULER_MIN_CHUNK",
  "TURING_SCHEDULER_PARALLEL_THRESHOLD", "TURING_LOGGING_USE_STRUCTURED",
  "TURING_LOGGING_ENABLE_CONSOLE", "TURING_LOGGING_MIN_LEVEL", "TURING_LOGGING_LOG_PERFORMANCE",
  "TURING_LOGGING_INCLUDE_RUN_CONTEXT"]

def readEnvironment : IO Environment :=
  variableNames.filterMapM fun name => return (← IO.getEnv name).map (name, ·)

def coresIn (description : String) : Nat :=
  (description.splitOn "\n").countP (·.startsWith "processor")

def readHost : IO Host := do
  let description ← try IO.FS.readFile "/proc/cpuinfo" catch _ => pure ""
  let cores := max (coresIn description) 1
  return ⟨cores, cores⟩

def reasonOf : IO.Error → String
  | .noFileOrDirectory .. => "No such file or directory (os error 2)"
  | .permissionDenied .. => "Permission denied (os error 13)"
  | .inappropriateType .. => "Is a directory (os error 21)"
  | error => toString error

def readText (read : IO ByteArray) : IO (Except String String) := do
  try
    match String.fromUTF8? (← read) with
    | some text => return .ok text
    | none => return .error "stream did not contain valid UTF-8"
  catch error => return .error (reasonOf error)

def Command.paths : Command → List String
  | .tokenize arguments => arguments.input :: arguments.profile.file.toList
  | .benchmark arguments => arguments.input :: arguments.profile.file.toList
  | .profiles _ | .info _ => []

def Command.readFiles (command : Command) : IO Files := do
  let (marks, paths) := command.paths.partition isStandardInput
  let texts : List (String × Except String String) ← paths.mapM fun (path : String) => do
    return (path, ← readText (IO.FS.readBinFile path))
  let input ←
    if marks.isEmpty then pure (.ok "") else readText (do (← IO.getStdin).readBinToEnd)
  return ⟨fun path => (texts.lookup path).getD (.error "not read"), input⟩

def now : IO Int :=
  return (← Std.Time.Timestamp.now).toMillisecondsSinceUnixEpoch.val

/-- Evaluates a computation and tells how many nanoseconds it took. -/
def timed {α : Type} (computation : Unit → α) : IO (α × Nat) := do
  let before ← IO.monoNanosNow
  let value ← IO.lazyPure computation
  return (value, (← IO.monoNanosNow) - before)

/-- Times a run on a source: its scan, and what comes after it. -/
def readClock (profile : Profile) (config : RunConfig) (source : String) : IO Readings := do
  let started ← now
  let (_, scan) ← timed fun _ => profile.scan config.scan source
  let (_, total) ← timed fun _ => tokenize profile config default source
  return ⟨started, scan, total - scan, 0, total⟩

def Command.runs (surroundings : Surroundings) :
    Command → List (ProfileChoice × String × RunConfig)
  | .tokenize arguments =>
    [(arguments.profile, arguments.input,
      arguments.apply (surroundings.configFor arguments.input))]
  | .benchmark arguments =>
    let counts :=
      if arguments.workers.isEmpty then surroundings.host.benchmarkCounts else arguments.workers
    (dropRepeats (counts.map clampWorkers)).map fun workers =>
      (arguments.profile, arguments.input,
        ((surroundings.configFor arguments.input).withWorkers workers).alwaysParallel)
  | .profiles _ | .info _ => []

/-- What a command finds around it. Its runs are timed beforehand, since the command itself is a
function and sees no clock. -/
def Command.readSurroundings (command : Command) : IO Surroundings := do
  let surroundings : Surroundings :=
    ⟨← command.readFiles, ← readEnvironment, ← readHost, fun _ => default⟩
  let clock ← (command.runs surroundings).mapM fun (choice, input, config) =>
    match (surroundings.load choice input).result with
    | .ok (profile, source) => readClock profile config source
    | .error _ => pure default
  return { surroundings with readings := fun run => clock.getD run default }

def write (printed : Printed) : IO Unit := do
  (← IO.getStdout).putStr printed.out
  (← IO.getStderr).putStr printed.err

def writeEntry (preferences : LogPreferences) (entry : Entry) : IO Unit := do
  if let some event := preferences.deliver entry then
    write ((Printer.ofPreferences preferences).print event (← now).toNat)

def perform (preferences : LogPreferences) : Effect → IO Unit
  | .log entry => writeEntry preferences entry
  | .print printed => write printed

def refuse (message : String) : IO UInt32 := do
  write ⟨"", "Error: " ++ String.ofList (Text.quoted message.toList) ++ "\n"⟩
  return 1

/-- Runs the command of some arguments; the result is the exit code. -/
def Arguments.perform (arguments : Arguments) : IO UInt32 := do
  let surroundings ← arguments.command.readSurroundings
  let asked := LogPreferences.ofEnvironment surroundings.environment
  let preferences :=
    if arguments.quiet || arguments.wantsCleanOutput then { asked with minLevel := .warning }
    else asked
  if let some problem := preferences.problem? then return ← refuse problem
  writeEntry preferences <| .plain <|
    .success .systemReady "Global logging system initialized"
  let config := RunConfig.ofSettings (.ofEnvironment surroundings.environment) surroundings.host
  let validation := Validation.validate config
  validation.entries.forM (writeEntry preferences)
  if let .error message := validation.result then return ← refuse message
  writeEntry preferences <| .plain <|
    (Event.info "turing-lex starting").withDetails [("version", Limits.version)]
  let session := arguments.command.run surroundings
  session.effects.forM (CommandLine.perform preferences)
  match session.failure with
  | none => return 0
  | some failure =>
    write ⟨"", "Error: " ++ failure.message ++ "\n"⟩
    return 1

/-- Answers arguments that name no command; the result is the exit code. -/
def UsageError.perform (error : UsageError) : IO UInt32 := do
  let answer := error.answer ++ "\n"
  write (if error.isRequest then ⟨answer, ""⟩ else ⟨"", answer⟩)
  return if error.isRequest then 0 else 2

end ProfileLexer.CommandLine

open ProfileLexer.CommandLine in
def main (words : List String) : IO UInt32 :=
  match Arguments.parse words with
  | .ok arguments => arguments.perform
  | .error error => error.perform
