import ProfileLexer.Text.Bytes
import ProfileLexer.Value.Basic

/-!
JSON texts read as values. Every reader takes what is left of the text and returns what is left
after the part it read.
-/

namespace ProfileLexer.Value

def isJsonBlank (c : Char) : Bool :=
  c == ' ' || c == '\t' || c == '\n' || c == '\r'

def hexValue? (c : Char) : Option Nat :=
  if c.isDigit then some (c.toNat - '0'.toNat)
  else if 'a' ≤ c && c ≤ 'f' then some (c.toNat - 'a'.toNat + 10)
  else if 'A' ≤ c && c ≤ 'F' then some (c.toNat - 'A'.toNat + 10)
  else none

def readHex (digits : Nat) (value : Nat) (text : List Char) : Option (Nat × List Char) :=
  match digits, text with
  | 0, rest => some (value, rest)
  | _ + 1, [] => none
  | digits + 1, c :: rest => do readHex digits (16 * value + (← hexValue? c)) rest

def charOf? (code : Nat) : Option Char :=
  if code.isValidChar then some (Char.ofNat code) else none

/-- A code point after `\u`: two halves of a surrogate pair make one character. -/
def readUnicode (text : List Char) : Option (Char × List Char) := do
  let (high, rest) ← readHex 4 0 text
  if 0xd800 ≤ high ∧ high < 0xdc00 then
    match rest with
    | '\\' :: 'u' :: rest =>
      let (low, rest) ← readHex 4 0 rest
      if 0xdc00 ≤ low ∧ low < 0xe000 then
        return (← charOf? (0x10000 + (high - 0xd800) * 0x400 + (low - 0xdc00)), rest)
      else none
    | _ => none
  else return (← charOf? high, rest)

/-- The rest of a string after its opening quote; `read` holds the characters so far, last one
first. -/
def readString (fuel : Nat) (read : List Char) (text : List Char) : Option (String × List Char) :=
  match fuel, text with
  | 0, _ => none
  | _ + 1, [] => none
  | _ + 1, '"' :: rest => some (String.ofList read.reverse, rest)
  | fuel + 1, '\\' :: 'u' :: rest => do
    let (c, rest) ← readUnicode rest
    readString fuel (c :: read) rest
  | fuel + 1, '\\' :: c :: rest =>
    match c with
    | '"' => readString fuel ('"' :: read) rest
    | '\\' => readString fuel ('\\' :: read) rest
    | '/' => readString fuel ('/' :: read) rest
    | 'b' => readString fuel ('\x08' :: read) rest
    | 'f' => readString fuel ('\x0c' :: read) rest
    | 'n' => readString fuel ('\n' :: read) rest
    | 'r' => readString fuel ('\r' :: read) rest
    | 't' => readString fuel ('\t' :: read) rest
    | _ => none
  | fuel + 1, c :: rest => if c.toNat < 32 then none else readString fuel (c :: read) rest

def readDigits (text : List Char) : Option (List Char × List Char) :=
  match text.takeWhile Char.isDigit with
  | [] => none
  | digits => some (digits, text.dropWhile Char.isDigit)

def readUnsigned (text : List Char) : Option (List Char × List Char) := do
  let (whole, rest) ← readDigits text
  if whole.length > 1 && whole.head? == some '0' then none
  let (fraction, rest) ←
    match rest with
    | '.' :: rest => (readDigits rest).map fun (digits, rest) => ('.' :: digits, rest)
    | rest => some ([], rest)
  match rest with
  | e :: rest =>
    if e == 'e' || e == 'E' then
      let (sign, rest) :=
        match rest with
        | '+' :: rest => (['+'], rest)
        | '-' :: rest => (['-'], rest)
        | rest => ([], rest)
      let (digits, rest) ← readDigits rest
      return (whole ++ fraction ++ e :: sign ++ digits, rest)
    else return (whole ++ fraction, e :: rest)
  | [] => return (whole ++ fraction, [])

def readNumber (text : List Char) : Option (Value × List Char) :=
  match text with
  | '-' :: rest => (readUnsigned rest).map fun (digits, rest) =>
      (.number (String.ofList ('-' :: digits)), rest)
  | rest => (readUnsigned rest).map fun (digits, rest) => (.number (String.ofList digits), rest)

def afterWord? (word text : List Char) : Option (List Char) :=
  if word.isPrefixOf text then some (text.drop word.length) else none

mutual

/-- A value at the start of a text, after blanks. Every call uses one of `fuel`, and what is left of
the text is not looked at. -/
def readJson (fuel : Nat) (text : List Char) : Option (Value × List Char) :=
  match fuel with
  | 0 => none
  | fuel + 1 =>
    match text.dropWhile isJsonBlank with
    | [] => none
    | '"' :: rest => (readString (rest.length + 1) [] rest).map fun (s, rest) => (.text s, rest)
    | '[' :: rest =>
      match rest.dropWhile isJsonBlank with
      | ']' :: rest => some (.list [], rest)
      | _ => readItems fuel [] rest
    | '\x7b' :: rest =>
      match rest.dropWhile isJsonBlank with
      | '\x7d' :: rest => some (.record [], rest)
      | _ => readFields fuel [] rest
    | 't' :: rest => (afterWord? ['r', 'u', 'e'] rest).map fun rest => (.flag true, rest)
    | 'f' :: rest => (afterWord? ['a', 'l', 's', 'e'] rest).map fun rest => (.flag false, rest)
    | 'n' :: rest => (afterWord? ['u', 'l', 'l'] rest).map fun rest => (.null, rest)
    | rest => readNumber rest

/-- The items of a list up to its bracket; `read` holds those so far, last one first. -/
def readItems (fuel : Nat) (read : List Value) (text : List Char) : Option (Value × List Char) :=
  match fuel with
  | 0 => none
  | fuel + 1 => do
    let (item, rest) ← readJson fuel text
    match rest.dropWhile isJsonBlank with
    | ',' :: rest => readItems fuel (item :: read) rest
    | ']' :: rest => return (.list (item :: read).reverse, rest)
    | _ => none

/-- The fields of a record up to its brace; a name that comes again takes its last value. -/
def readFields (fuel : Nat) (read : List (String × Value)) (text : List Char) :
    Option (Value × List Char) :=
  match fuel with
  | 0 => none
  | fuel + 1 =>
    match text.dropWhile isJsonBlank with
    | '"' :: rest => do
      let (name, rest) ← readString (rest.length + 1) [] rest
      match rest.dropWhile isJsonBlank with
      | ':' :: rest =>
        let (value, rest) ← readJson fuel rest
        let read := setField name value read
        match rest.dropWhile isJsonBlank with
        | ',' :: rest => readFields fuel read rest
        | '\x7d' :: rest => return (.record read, rest)
        | _ => none
      | _ => none
    | _ => none

end

def ofJson? (text : String) : Option Value :=
  let chars := text.toList
  match readJson (2 * chars.length + 2) chars with
  | some (value, rest) => if (rest.dropWhile isJsonBlank).isEmpty then some value else none
  | none => none

end ProfileLexer.Value
