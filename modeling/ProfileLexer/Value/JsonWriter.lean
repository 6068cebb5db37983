import ProfileLexer.Text.Escape
import ProfileLexer.Value.Basic

/-!
Values written as JSON: on one line without blanks, or over several lines indented by two spaces.
-/

namespace ProfileLexer.Value

def unicodeEscape (c : Char) : List Char :=
  let digits := Text.hexDigits c.toNat
  '\\' :: 'u' :: (List.replicate (4 - digits.length) '0' ++ digits)

def jsonChar (c : Char) : List Char :=
  if c == '"' then ['\\', '"']
  else if c == '\\' then ['\\', '\\']
  else if c == '\n' then ['\\', 'n']
  else if c == '\r' then ['\\', 'r']
  else if c == '\t' then ['\\', 't']
  else if c == '\x08' then ['\\', 'b']
  else if c == '\x0c' then ['\\', 'f']
  else if c.toNat < 32 then unicodeEscape c
  else [c]

def jsonString (text : String) : String :=
  String.ofList ('"' :: (text.toList.flatMap jsonChar ++ ['"']))

mutual

def compact : Value → String
  | .null => "null"
  | .flag value => if value then "true" else "false"
  | .number literal => literal
  | .text value => jsonString value
  | .list items => "[" ++ compactItems items ++ "]"
  | .record fields => "\x7b" ++ compactFields fields ++ "\x7d"

def compactItems : List Value → String
  | [] => ""
  | [item] => compact item
  | item :: items => compact item ++ "," ++ compactItems items

def compactFields : List (String × Value) → String
  | [] => ""
  | [(name, value)] => jsonString name ++ ":" ++ compact value
  | (name, value) :: fields =>
    jsonString name ++ ":" ++ compact value ++ "," ++ compactFields fields

end

def lineAt (depth : Nat) : String :=
  "\n" ++ String.ofList (List.replicate (2 * depth) ' ')

mutual

/-- A value over several lines, inside `depth` others. Empty lists and records stay on one line. -/
def prettyAt (depth : Nat) : Value → String
  | .list (item :: items) =>
    "[" ++ prettyItems (depth + 1) (item :: items) ++ lineAt depth ++ "]"
  | .record (field :: fields) =>
    "\x7b" ++ prettyFields (depth + 1) (field :: fields) ++ lineAt depth ++ "\x7d"
  | value => compact value

def prettyItems (depth : Nat) : List Value → String
  | [] => ""
  | [item] => lineAt depth ++ prettyAt depth item
  | item :: items => lineAt depth ++ prettyAt depth item ++ "," ++ prettyItems depth items

def prettyFields (depth : Nat) : List (String × Value) → String
  | [] => ""
  | [(name, value)] => lineAt depth ++ jsonString name ++ ": " ++ prettyAt depth value
  | (name, value) :: fields =>
    lineAt depth ++ jsonString name ++ ": " ++ prettyAt depth value ++ "," ++
      prettyFields depth fields

end

def pretty (value : Value) : String :=
  prettyAt 0 value

end ProfileLexer.Value
