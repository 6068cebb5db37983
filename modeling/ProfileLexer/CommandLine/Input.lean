import ProfileLexer.CommandLine.Arguments
import ProfileLexer.Profile.Builtin
import ProfileLexer.Profile.Toml
import ProfileLexer.Run.Error

/-!
Where the commands get their sources and profiles from.
-/

namespace ProfileLexer.CommandLine

/-- The files of a machine: the text of each, or why it can not be read. They do not change while a
command runs. -/
structure Files where
  read : String → Except String String
  /-- The text of the standard input. -/
  standardInput : Except String String

/-- Why a command fails. What went wrong in a run is kept as it is, so that its code and its message
are those of the run. -/
inductive CommandError where
  | unreadable (path reason : String)
  /-- Nothing tells which profile to take. -/
  | noProfile (input : String)
  | profile (error : ProfileError)
  | run (error : RunError)
  /-- The message about an invalid token can not be laid out. -/
  | noLayout
  deriving DecidableEq, Repr, Inhabited

def CommandError.message : CommandError → String
  | unreadable path reason => "Failed to read '" ++ path ++ "': " ++ reason
  | noProfile input =>
    "Cannot infer a profile for '" ++ input ++ "'; pass --profile or --profile-file"
  | profile error => error.message
  | run error => error.message
  | noLayout => "Cannot lay out a message about an invalid token"

def standardInputMark : String := "-"

def isStandardInput (path : String) : Bool :=
  path == standardInputMark

/-- The last component of a path. The directory itself and the one above it are no names, and
slashes at the end are passed over. -/
def fileName? (path : String) : Option (List Char) :=
  let rec last : List (List Char) → Option (List Char)
    | [] => none
    | component :: rest =>
      if component.isEmpty || (component == ['.'] && !rest.isEmpty) then last rest
      else if component == ['.'] || component == ['.', '.'] then none
      else some component
  last (splitSlashes path.toList).reverse
where
  /-- The parts of a text between slashes. -/
  splitSlashes (text : List Char) : List (List Char) :=
    text.foldr (fun c parts =>
      match parts with
      | [] => [[c]]
      | part :: others => if c == '/' then [] :: part :: others else (c :: part) :: others) [[]]

/-- What stands behind the last dot of a file name. A name that begins with its only dot has no
extension, and neither has one without a dot. -/
def extension? (path : String) : Option (List Char) := do
  let name ← fileName? path
  let extension := (name.reverse.takeWhile (· != '.')).reverse
  if extension.length + 1 < name.length then some extension else none

/-- The name of the built-in profile for the files of an extension, in any case. The file itself is
not looked at. -/
def profileForPath? (path : String) : Option String := do
  match String.ofList (Text.lower (← extension? path)) with
  | "py" | "pyw" => some "imperative"
  | "rkt" | "scm" | "ss" | "lisp" | "el" => some "symbolic"
  | "sql" => some "query"
  | _ => none

def profileFromFile (files : Files) (path : String) : Logged ProfileError Profile :=
  match files.read path with
  | .error reason => Logged.fail (.file path reason)
  | .ok text => Profile.ofToml text

/-- The profile that is asked for by file or else by name; without either the extension of the input
decides. The standard input has no extension, so that a profile has to be asked for. -/
def resolveProfile (files : Files) (choice : ProfileChoice) (input : String) :
    Logged CommandError Profile :=
  match choice.file, choice.name with
  | some path, _ => (profileFromFile files path).mapError .profile
  | none, some name => (Builtin.load name).mapError .profile
  | none, none =>
    match if isStandardInput input then none else profileForPath? input with
    | some name => (Builtin.load name).mapError .profile
    | none => Logged.fail (.noProfile input)

def readSource (files : Files) (input : String) : Except CommandError String :=
  if isStandardInput input then files.standardInput.mapError (.unreadable "<stdin>")
  else (files.read input).mapError (.unreadable input)

end ProfileLexer.CommandLine
