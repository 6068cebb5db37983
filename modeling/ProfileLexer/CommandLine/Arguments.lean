import ProfileLexer.CommandLine.Options

/-!
The command line of the tokenizer: its commands and what they are given.
-/

namespace ProfileLexer.CommandLine

/-- How a profile is chosen. Both may be absent, and the command line refuses to have both. -/
structure ProfileChoice where
  /-- The name of a built-in profile. -/
  name : Option String
  /-- The path of a TOML file. -/
  file : Option String
  deriving DecidableEq, Repr, Inhabited

inductive OutputFormat where
  | text
  | json
  deriving DecidableEq, Repr, Inhabited

def OutputFormat.name : OutputFormat → String
  | text => "Text"
  | json => "Json"

structure TokenizeArguments where
  /-- The path of a source, or a minus sign for the standard input. -/
  input : String
  profile : ProfileChoice
  workers : Option Nat
  policy : Option FailurePolicy
  crossCheck : Bool
  format : OutputFormat
  /-- Show the metrics of the run. -/
  metrics : Bool
  deriving DecidableEq, Repr, Inhabited

structure BenchmarkArguments where
  input : String
  profile : ProfileChoice
  /-- The numbers of workers; the machine decides when there are none. -/
  workers : List Nat
  json : Bool
  deriving DecidableEq, Repr, Inhabited

inductive Command where
  | tokenize (arguments : TokenizeArguments)
  | benchmark (arguments : BenchmarkArguments)
  /-- Lists the built-in profiles, or writes one of them as TOML. -/
  | profiles (name : Option String)
  /-- Tells about the tokenizer itself. -/
  | info (json : Bool)
  deriving DecidableEq, Repr, Inhabited

structure Arguments where
  /-- Log warnings and errors only. -/
  quiet : Bool
  command : Command
  deriving DecidableEq, Repr, Inhabited

/-- Whether the standard output is for other programs, so that no log lines may come between. That
is decided by the arguments alone. -/
def Arguments.wantsCleanOutput (arguments : Arguments) : Bool :=
  match arguments.command with
  | .tokenize tokenize => tokenize.format == .json
  | .benchmark benchmark => benchmark.json
  | .profiles name => name.isSome
  | .info json => json

namespace Grammar

def everywhere : List OptionForm := [⟨.quiet, "quiet", some 'q'⟩, ⟨.help, "help", some 'h'⟩]

def profileOptions : List OptionForm :=
  [⟨.profile, "profile", some 'p'⟩, ⟨.profileFile, "profile-file", none⟩]

/-- What comes before the command. The options of the command are not understood there, and those
that are understood everywhere count in both places. -/
def program : Grammar where
  options := everywhere ++ [⟨.version, "version", some 'V'⟩]
  positional := none
  required := []
  exclusive := []

def tokenize : Grammar where
  options := everywhere ++ profileOptions ++
    [⟨.workers, "workers", some 'w'⟩, ⟨.policy, "policy", none⟩,
      ⟨.crossCheck, "cross-check", none⟩, ⟨.format, "format", some 'f'⟩,
      ⟨.metrics, "metrics", some 'm'⟩]
  positional := some .input
  required := [.input]
  exclusive := [(.profile, .profileFile)]

def benchmark : Grammar where
  options := everywhere ++ profileOptions ++
    [⟨.workerList, "workers", some 'w'⟩, ⟨.json, "json", none⟩]
  positional := some .input
  required := [.input]
  exclusive := [(.profile, .profileFile)]

def profiles : Grammar where
  options := everywhere
  positional := some .profileName
  required := []
  exclusive := []

def info : Grammar where
  options := everywhere ++ [⟨.json, "json", none⟩]
  positional := none
  required := []
  exclusive := []

def read (grammar : Grammar) (arguments : List String) : Except UsageError Reading := do
  (← arguments.foldlM (Reading.take grammar) .start).finish grammar

end Grammar

namespace Reading

def profileChoice (reading : Reading) : ProfileChoice :=
  ⟨reading.value? .profile, reading.value? .profileFile⟩

def tokenizeArguments (reading : Reading) : TokenizeArguments where
  input := (reading.value? .input).getD ""
  profile := reading.profileChoice
  workers := (reading.value? .workers).bind Environment.parseNat?
  policy := (reading.value? .policy).bind fun word => (FailurePolicy.parse word).toOption
  crossCheck := reading.isSet .crossCheck
  format := if reading.value? .format = some "json" then .json else .text
  metrics := reading.isSet .metrics

def benchmarkArguments (reading : Reading) : BenchmarkArguments where
  input := (reading.value? .input).getD ""
  profile := reading.profileChoice
  workers := (reading.valuesOf .workerList).filterMap Environment.parseNat?
  json := reading.isSet .json

end Reading

namespace Arguments

def commandNames : List String := ["tokenize", "benchmark", "profiles", "info", "help"]

def helpOn : List String → UsageError
  | [] => .help
  | [name] => if commandNames.contains name then .help else .unknownCommand
  | _ => .unknownCommand

/-- The command of a name with its arguments, and whether they ask for quiet. Any other name is
taken for a request for help. -/
def ofCommand (name : String) (arguments : List String) : Except UsageError (Command × Bool) := do
  match name with
  | "tokenize" =>
    let reading ← Grammar.tokenize.read arguments
    return (.tokenize reading.tokenizeArguments, reading.isSet .quiet)
  | "benchmark" =>
    let reading ← Grammar.benchmark.read arguments
    return (.benchmark reading.benchmarkArguments, reading.isSet .quiet)
  | "profiles" =>
    let reading ← Grammar.profiles.read arguments
    return (.profiles (reading.value? .profileName), reading.isSet .quiet)
  | "info" =>
    let reading ← Grammar.info.read arguments
    return (.info (reading.isSet .json), reading.isSet .quiet)
  | _ => throw (helpOn arguments)

/-- Reads what comes before the command, and then the command. What stands behind the name of the
command belongs to the command. -/
def ofWords (reading : Reading) : List String → Except UsageError Arguments
  | [] => throw (if reading.given.isEmpty then .noArguments else .noCommand)
  | word :: words =>
    if commandNames.contains word then
      if reading.literal then throw .unknownArgument
      else do
        let (command, quiet) ← ofCommand word words
        return ⟨reading.isSet .quiet || quiet, command⟩
    else if reading.literal || word.toList.head? ≠ some '-' || word = "-" then
      throw .unknownCommand
    else do ofWords (← reading.take Grammar.program word) words

def parse (words : List String) : Except UsageError Arguments :=
  ofWords .start words

end Arguments

end ProfileLexer.CommandLine
