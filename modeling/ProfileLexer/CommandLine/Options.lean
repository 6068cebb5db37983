import ProfileLexer.Settings.Basic

/-!
Options on a command line, read from left to right. An option is recorded, and its values are
checked, when the argument behind them has been recognized; so an unknown argument is reported
before a bad value in front of it.
-/

namespace ProfileLexer.CommandLine

/-- Why a command line is refused, or what it asks for instead of a command. Only the kind is kept;
which argument it is about is not. -/
inductive UsageError where
  /-- There are no arguments at all. -/
  | noArguments
  /-- There are arguments, but no command. -/
  | noCommand
  | unknownCommand
  | unknownArgument
  /-- An argument that has to be there is not. -/
  | missingArgument
  /-- Two arguments exclude each other, or one comes twice. -/
  | conflict
  /-- A value is missing or not one of those that are listed. -/
  | invalidValue
  /-- A value can not be read. -/
  | unreadableValue
  /-- A value for an option that takes none. -/
  | unneededValue
  | help
  | version
  deriving DecidableEq, Repr, Inhabited

def UsageError.name : UsageError → String
  | noArguments => "DisplayHelpOnMissingArgumentOrSubcommand"
  | noCommand => "MissingSubcommand"
  | unknownCommand => "InvalidSubcommand"
  | unknownArgument => "UnknownArgument"
  | missingArgument => "MissingRequiredArgument"
  | conflict => "ArgumentConflict"
  | invalidValue => "InvalidValue"
  | unreadableValue => "ValueValidation"
  | unneededValue => "TooManyValues"
  | help => "DisplayHelp"
  | version => "DisplayVersion"

inductive ArgumentId where
  | input
  | profileName
  | profile
  | profileFile
  | workers
  /-- Several numbers of workers between commas. -/
  | workerList
  | policy
  | crossCheck
  | format
  | metrics
  | json
  | quiet
  | help
  | version
  deriving DecidableEq, Repr, Inhabited

namespace ArgumentId

def isFlag : ArgumentId → Bool
  | crossCheck | metrics | json | quiet | help | version => true
  | _ => false

def repeats : ArgumentId → Bool
  | workerList => true
  | _ => false

def values (id : ArgumentId) (text : String) : List String :=
  match id with
  | workerList => (text.splitOn ",")
  | _ => [text]

def problem? (id : ArgumentId) (value : String) : Option UsageError :=
  match id with
  | workers | workerList =>
    if (Environment.parseNat? value).isSome then none else some .unreadableValue
  | policy =>
    match FailurePolicy.parse value with
    | .ok _ => none
    | .error _ => some .unreadableValue
  | format => if value == "text" || value == "json" then none else some .invalidValue
  | profileFile => if value.isEmpty then some .invalidValue else none
  | _ => none

end ArgumentId

/-- An option by its long name and, if it has one, its letter. -/
structure OptionForm where
  id : ArgumentId
  long : String
  short : Option Char
  deriving DecidableEq, Repr, Inhabited

/-- What one command, or the program before its command, understands. Everything that differs
between commands is here; reading is the same for all. -/
structure Grammar where
  options : List OptionForm
  /-- The argument without a name. -/
  positional : Option ArgumentId
  /-- Arguments that have to be there. -/
  required : List ArgumentId
  /-- Options of which only one may be there. -/
  exclusive : List (ArgumentId × ArgumentId)
  deriving DecidableEq, Repr, Inhabited

/-- How far arguments have been read. The latest one is pending until it is known whether a value
follows it. -/
structure Reading where
  /-- What has been recorded, latest first. -/
  given : List (ArgumentId × List String)
  /-- The latest argument, before it is recorded. -/
  pending : Option (ArgumentId × List String)
  /-- The next argument may be the value of an option. -/
  awaiting : Bool
  /-- Nothing more is an option. -/
  literal : Bool
  /-- The argument without a name has come. -/
  positionalSeen : Bool
  deriving DecidableEq, Repr, Inhabited

namespace Reading

def start : Reading := ⟨[], none, false, false, false⟩

/-- Records an argument with the texts behind it, unless something is wrong with them. A request for
help or for the version ends the reading here. -/
def record (reading : Reading) (id : ArgumentId) (texts : List String) :
    Except UsageError Reading :=
  if id = .help then .error .help
  else if id = .version then .error .version
  else if texts.isEmpty && !id.isFlag then .error .invalidValue
  else if !id.repeats && reading.given.any (·.1 == id) then .error .conflict
  else
    let values := texts.flatMap id.values
    match values.findSome? id.problem? with
    | some problem => .error problem
    | none => .ok { reading with given := (id, values) :: reading.given }

def settle (reading : Reading) : Except UsageError Reading :=
  match reading.pending with
  | none => .ok reading
  | some (id, texts) =>
    { reading with pending := none, awaiting := false }.record id texts

/-- Takes an option with the value that is attached to it, if there is one. Otherwise an option with
a value waits for the next argument. -/
def takeOption (reading : Reading) (id : ArgumentId) (attached : Option String) :
    Except UsageError Reading := do
  let settled ← reading.settle
  match attached with
  | some value => settled.record id [value]
  | none =>
    if id.isFlag then settled.record id []
    else return { settled with pending := some (id, []), awaiting := true }

def takePositional (grammar : Grammar) (reading : Reading) (text : String) :
    Except UsageError Reading :=
  match grammar.positional with
  | some id =>
    if reading.positionalSeen then .error .unknownArgument
    else do
      let settled ← reading.settle
      return { settled with pending := some (id, [text]), positionalSeen := true }
  | none => .error .unknownArgument

/-- Takes an option by its long name, with or without a value behind an equals sign. Names are not
abbreviated. -/
def takeLong (grammar : Grammar) (reading : Reading) (text : List Char) :
    Except UsageError Reading :=
  let name := String.ofList (text.takeWhile (· != '='))
  let attached :=
    match text.dropWhile (· != '=') with
    | [] => none
    | _ :: value => some (String.ofList value)
  match grammar.options.find? (·.long == name) with
  | none => .error .unknownArgument
  | some option =>
    if option.id.isFlag && attached.isSome then .error .unneededValue
    else reading.takeOption option.id attached

/-- Takes options by their letters. What stands behind the letter of an option with a value is the
value, and an equals sign before it is left out. -/
def takeShort (grammar : Grammar) (reading : Reading) : List Char → Except UsageError Reading
  | [] => .ok reading
  | c :: rest =>
    match grammar.options.find? (·.short == some c) with
    | none => .error .unknownArgument
    | some option =>
      if option.id.isFlag then do takeShort grammar (← reading.takeOption option.id none) rest
      else
        match rest with
        | [] => reading.takeOption option.id none
        | '=' :: value => reading.takeOption option.id (some (String.ofList value))
        | value => reading.takeOption option.id (some (String.ofList value))

def take (grammar : Grammar) (reading : Reading) (argument : String) :
    Except UsageError Reading :=
  if reading.literal then reading.takePositional grammar argument
  else
    match argument.toList with
    | ['-', '-'] => .ok { reading with literal := true }
    | '-' :: '-' :: text => reading.takeLong grammar text
    | '-' :: c :: letters => reading.takeShort grammar (c :: letters)
    | _ =>
      match reading.awaiting, reading.pending with
      | true, some (id, _) =>
        .ok { reading with pending := some (id, [argument]), awaiting := false }
      | _, _ => reading.takePositional grammar argument

/-- Checks at the end that no two arguments exclude each other and that nothing is missing. A
conflict is reported first. -/
def finish (grammar : Grammar) (reading : Reading) : Except UsageError Reading := do
  let settled ← reading.settle
  let isGiven (id : ArgumentId) : Bool := settled.given.any (·.1 == id)
  if grammar.exclusive.any fun (first, second) => isGiven first && isGiven second then
    throw .conflict
  else if grammar.required.any (!isGiven ·) then throw .missingArgument
  else return settled

/-- The values of an argument in the order in which they were given. -/
def valuesOf (reading : Reading) (id : ArgumentId) : List String :=
  (reading.given.reverse.filter (·.1 == id)).flatMap (·.2)

def value? (reading : Reading) (id : ArgumentId) : Option String :=
  (reading.valuesOf id).head?

def isSet (reading : Reading) (id : ArgumentId) : Bool :=
  reading.given.any (·.1 == id)

end Reading

end ProfileLexer.CommandLine
