import ProfileLexer.CommandLine.Input
import ProfileLexer.Log.Sink
import ProfileLexer.Rendering
import ProfileLexer.Run.Info

/-!
The commands: what each of them logs and prints, in order.
-/

namespace ProfileLexer.CommandLine

/-- One thing that a command does. Entries and printed texts are kept in one list, so that their
order is that of the command. -/
inductive Effect where
  | log (entry : Entry)
  | print (printed : Printed)
  deriving DecidableEq, Inhabited

/-- All that a command does, and why it fails, if it does. What it did before it failed stays. -/
structure Session where
  effects : List Effect
  failure : Option CommandError
  deriving DecidableEq, Inhabited

namespace Session

def printing (text : String) : Session :=
  ⟨[.print ⟨text ++ "\n", ""⟩], none⟩

def complaining (text : String) : Session :=
  ⟨[.print ⟨"", text ++ "\n"⟩], none⟩

def logging (event : Event) : Session :=
  ⟨[.log (.plain event)], none⟩

def nothing : Session := ⟨[], none⟩

/-- One session after another; the second one does not take place if the first one fails. -/
def append (first second : Session) : Session :=
  match first.failure with
  | some _ => first
  | none => ⟨first.effects ++ second.effects, second.failure⟩

instance : Append Session := ⟨append⟩

/-- The session of a computation that another session follows. If the computation fails, what it has
logged is all that there is. -/
def after {α : Type} (computation : Logged CommandError α) (next : α → Session) : Session :=
  let logged := computation.entries.map Effect.log
  match computation.result with
  | .ok value => ⟨logged ++ (next value).effects, (next value).failure⟩
  | .error error => ⟨logged, some error⟩

def printed (session : Session) : Printed :=
  session.effects.foldl
    (fun printed effect =>
      match effect with
      | .log _ => printed
      | .print more => printed ++ more) .nothing

def entries (session : Session) : List Entry :=
  session.effects.filterMap fun effect =>
    match effect with
    | .log entry => some entry
    | .print _ => none

end Session

/-- What a command finds around it. A command takes everything from here, so that its session is a
function of its surroundings. -/
structure Surroundings where
  files : Files
  environment : Environment
  host : Host
  /-- What the clock shows during each run of the tokenizer. -/
  readings : Nat → Readings

namespace Surroundings

def configFor (surroundings : Surroundings) (input : String) : RunConfig :=
  (RunConfig.ofSettings (.ofEnvironment surroundings.environment) surroundings.host).withLabel input

/-- The profile and the text of an input. The profile comes first: without one the input is not
read. -/
def load (surroundings : Surroundings) (choice : ProfileChoice) (input : String) :
    Logged CommandError (Profile × String) := do
  let profile ← resolveProfile surroundings.files choice input
  let source ← Logged.ofExcept (readSource surroundings.files input)
  return (profile, source)

end Surroundings

def reporting {α : Type} (message : String) (details : List (String × String))
    (computation : Logged RunError α) : Logged CommandError α :=
  let report :=
    match computation.result with
    | .ok _ => []
    | .error error =>
      [Entry.plain <| (Event.error error.code message).withDetails
        (details ++ [("error", error.message)])]
  { (computation.mapError .run) with entries := computation.entries ++ report }

/-- The configuration with what the arguments ask for. What they do not mention stays as the
environment has set it. -/
def TokenizeArguments.apply (arguments : TokenizeArguments) (config : RunConfig) : RunConfig :=
  let config :=
    match arguments.workers with
    | some workers => config.withWorkers workers
    | none => config
  let config :=
    match arguments.policy with
    | some policy => config.withPolicy policy
    | none => config
  if arguments.crossCheck then config.withCrossCheck true else config

/-- Prints the tokens, messages about the invalid ones, and how the run went. If a message can not
be laid out, the tokens have been printed and nothing else is. -/
def printText (source : String) (result : RunResult) (withMetrics : Bool) : Session :=
  let table := Rendering.table source result.stream false
  let head := if table.isEmpty then Session.nothing else .printing table
  let tail :=
    if withMetrics then
      Session.printing "\n=== Run Metrics ===" ++ .printing result.metrics.report
    else .printing ("\n" ++ result.metrics.summary)
  match Rendering.diagnostics? source result.stream with
  | none => head ++ ⟨[], some .noLayout⟩
  | some messages => head ++ (messages.map Session.complaining).foldl .append .nothing ++ tail

def printJson (arguments : TokenizeArguments) (result : RunResult) : Session :=
  .printing (Rendering.report arguments.input result.metrics.profile result.stream
    (if arguments.metrics then some result.metrics else none)).pretty

def runTokenize (surroundings : Surroundings) (arguments : TokenizeArguments) : Session :=
  .after (surroundings.load arguments.profile arguments.input) fun (profile, source) =>
    .logging ((Event.info "Tokenizing input").withDetails
      [("input", arguments.input), ("profile", profile.id),
        ("bytes", toString source.utf8ByteSize)]) ++
    .after (reporting "Tokenization failed" [("input", arguments.input)]
      (tokenize profile (arguments.apply (surroundings.configFor arguments.input))
        (surroundings.readings 0) source)) fun result =>
      (match arguments.format with
        | .text => printText source result arguments.metrics
        | .json => printJson arguments result) ++
      .logging (Event.info "Tokenize command finished")

def runBenchmark (surroundings : Surroundings) (arguments : BenchmarkArguments) : Session :=
  .after (surroundings.load arguments.profile arguments.input) fun (profile, source) =>
    let counts :=
      if arguments.workers.isEmpty then surroundings.host.benchmarkCounts else arguments.workers
    .logging ((Event.info "Benchmarking").withDetails
      [("input", arguments.input), ("profile", profile.id), ("runs", toString counts.length)]) ++
    .after (reporting "Benchmark failed" []
      (benchmark profile (surroundings.configFor arguments.input) surroundings.readings counts
        source)) fun report =>
      if arguments.json then .printing report.toValue.pretty
      else
        .printing "=== Benchmark ===" ++ .printing report.text ++
        .printing ("Cores: " ++ toString surroundings.host.cores ++ " logical, " ++
          toString surroundings.host.physicalCores ++ " physical")

def runProfiles : Option String → Session
  | some name =>
    .after ((Builtin.load name).mapError .profile) fun profile =>
      ⟨[.print ⟨profile.definition.toToml, ""⟩], none⟩
  | none =>
    .printing "=== Built-in Profiles ===" ++
    .after (Builtin.profiles.mapError .profile) fun profiles =>
      .printing (Builtin.listing profiles) ++
      .printing ("\nDump one with \x60turing-lex profiles <name>\x60; load edited copies with " ++
        "--profile-file.")

def runInfo (surroundings : Surroundings) (json : Bool) : Session :=
  .after (Builtin.profiles.mapError .profile) fun profiles =>
    let info := SystemInfo.onHost surroundings.host profiles
    if json then .printing info.toValue.pretty
    else
      .printing ("turing-lex v" ++ Limits.version) ++ .printing info.summary ++ .printing "" ++
      .printing info.report ++
      .printing ("Physical Cores: " ++ toString surroundings.host.physicalCores)

def Command.run (surroundings : Surroundings) : Command → Session
  | .tokenize arguments => runTokenize surroundings arguments
  | .benchmark arguments => runBenchmark surroundings arguments
  | .profiles name => runProfiles name
  | .info json => runInfo surroundings json

end ProfileLexer.CommandLine
