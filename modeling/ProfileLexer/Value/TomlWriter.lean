import ProfileLexer.Value.Basic
import ProfileLexer.Text.Escape

/-!
Values written as TOML. Plain fields come first, then tables, then lists of tables. A string is
written in the first of several forms that holds it.
-/

namespace ProfileLexer.Toml

def longestRun (c : Char) (text : List Char) : Nat :=
  (text.foldl (fun (longest, run) d =>
    if d == c then (max longest (run + 1), run + 1) else (longest, 0)) (0, 0)).1

/-- Whether a string can only be written with escape sequences. -/
def isControl (c : Char) : Bool :=
  (c.toNat < 32 && c != '\t' && c != '\n') || c.toNat == 127

def controlEscape (c : Char) : List Char :=
  let digits := (Text.hexDigits c.toNat).map Char.toUpper
  '\\' :: 'u' :: (List.replicate (4 - digits.length) '0' ++ digits)

def basicChar (c : Char) : List Char :=
  if c == '\\' then ['\\', '\\']
  else if c == '\x08' then ['\\', 'b']
  else if c == '\t' then ['\\', 't']
  else if c == '\x0c' then ['\\', 'f']
  else if c == '\r' then ['\\', 'r']
  else if c.toNat < 32 || c.toNat == 127 then controlEscape c
  else [c]

def basicLine (text : List Char) : List Char :=
  text.flatMap fun c =>
    if c == '"' then ['\\', '"'] else if c == '\n' then ['\\', 'n'] else basicChar c

/-- The characters of a string over several lines, with `quotes` quotes right before them: from the
third quote in a row on, quotes are escaped. -/
def basicLines (quotes : Nat) : List Char → List Char
  | [] => []
  | c :: rest =>
    if c == '"' then
      if quotes < 2 then '"' :: basicLines (quotes + 1) rest
      else '\\' :: '"' :: basicLines quotes rest
    else if c == '\n' then '\n' :: basicLines 0 rest
    else basicChar c ++ basicLines 0 rest

inductive StringForm where
  /-- Between double quotes, on one line or several. -/
  | basic (multiline : Bool)
  /-- Between single quotes, without escape sequences. -/
  | literal (multiline : Bool)
  deriving DecidableEq, Repr, Inhabited

def StringForm.ofText (text : List Char) : StringForm :=
  let control := text.any isControl
  let multiline := text.contains '\n'
  let backslash := text.contains '\\'
  let doubles := longestRun '"' text
  let singles := longestRun '\'' text
  if !control && !backslash && doubles == 0 && !multiline then .basic false
  else if !control && singles == 0 && !multiline then .literal false
  else if !control && !backslash && doubles ≤ 2 then .basic true
  else if !control && singles ≤ 2 then .literal true
  else .basic multiline

/-- A string in a form, whether the form holds it or not. A form over several lines starts with a
line break if the string has one. -/
def writeStringAs (form : StringForm) (text : List Char) : List Char :=
  let start := if text.contains '\n' then ['\n'] else []
  match form with
  | .basic false => '"' :: (basicLine text ++ ['"'])
  | .literal false => '\'' :: (text ++ ['\''])
  | .basic true => ['"', '"', '"'] ++ start ++ basicLines 0 text ++ ['"', '"', '"']
  | .literal true => ['\'', '\'', '\''] ++ start ++ text ++ ['\'', '\'', '\'']

def writeString (text : String) : String :=
  String.ofList (writeStringAs (.ofText text.toList) text.toList)

mutual

/-- A value that stands behind an equals sign. There is no way to write `null`; no definition has
it. -/
def writeValue : Value → String
  | .null => ""
  | .flag value => if value then "true" else "false"
  | .number literal => literal
  | .text value => writeString value
  | .list items => "[" ++ writeItems items ++ "]"
  | .record fields => "\x7b " ++ writePairs fields ++ " \x7d"

def writeItems : List Value → String
  | [] => ""
  | [item] => writeValue item
  | item :: items => writeValue item ++ ", " ++ writeItems items

def writePairs : List (String × Value) → String
  | [] => ""
  | [(name, value)] => name ++ " = " ++ writeValue value
  | (name, value) :: fields => name ++ " = " ++ writeValue value ++ ", " ++ writePairs fields

end

/-- Whether a value is written under a header of its own. A list is judged by its first item
alone. -/
def isTable : Value → Bool
  | .record _ => true
  | .list (.record _ :: _) => true
  | _ => false

def writeFields (fields : List (String × Value)) : String :=
  String.join (fields.map fun (name, value) => name ++ " = " ++ writeValue value ++ "\n")

/-- A field under a header of its own, or under one for each item. Values that are no tables have
none and are not written here. -/
def writeTable (name : String) : Value → String
  | .record fields => "\n[" ++ name ++ "]\n" ++ writeFields fields
  | .list items => String.join <| items.map fun
    | .record fields => "\n[[" ++ name ++ "]]\n" ++ writeFields fields
    | _ => ""
  | _ => ""

/-- A record as a whole text. Plain fields come first, since behind a header they would belong to
its table; tables inside its tables are written in braces. -/
def write (fields : List (String × Value)) : String :=
  writeFields (fields.filter (!isTable ·.2)) ++
    String.join ((fields.filter (isTable ·.2)).map fun (name, value) => writeTable name value)

end ProfileLexer.Toml
