import ProfileLexer.Value.JsonReader

/-!
The smallest parts of TOML texts: blanks, comments, strings and keys. Every reader takes what is
left of the text and returns what is left after the part it read.
-/

namespace ProfileLexer.Toml

def isBlank (c : Char) : Bool := c == ' ' || c == '\t'

/-- Whether a character may stand in comments and strings. -/
def isPlain (c : Char) : Bool :=
  c == '\t' || (32 ≤ c.toNat && c.toNat ≤ 126) || 128 ≤ c.toNat

def skipBlanks (text : List Char) : List Char := text.dropWhile isBlank

def afterBreak? : List Char → Option (List Char)
  | '\n' :: rest => some rest
  | '\r' :: '\n' :: rest => some rest
  | _ => none

def skipComment : List Char → List Char
  | '#' :: rest => rest.dropWhile isPlain
  | text => text

/-- The text after the end of a line, where only blanks and a comment may be left. -/
def afterLine? (text : List Char) : Option (List Char) :=
  match skipComment (skipBlanks text) with
  | [] => some []
  | rest => afterBreak? rest

def skipLines (fuel : Nat) (text : List Char) : List Char :=
  match fuel with
  | 0 => text
  | fuel + 1 =>
    let rest := skipComment (skipBlanks text)
    match afterBreak? rest with
    | some rest => skipLines fuel rest
    | none => rest

/-- The character of an escape sequence, from the character after the backslash on. -/
def readEscape : List Char → Option (Char × List Char)
  | 'b' :: rest => some ('\x08', rest)
  | 't' :: rest => some ('\t', rest)
  | 'n' :: rest => some ('\n', rest)
  | 'f' :: rest => some ('\x0c', rest)
  | 'r' :: rest => some ('\r', rest)
  | '"' :: rest => some ('"', rest)
  | '\\' :: rest => some ('\\', rest)
  | 'u' :: rest => do
    let (code, rest) ← Value.readHex 4 0 rest
    return (← Value.charOf? code, rest)
  | 'U' :: rest => do
    let (code, rest) ← Value.readHex 8 0 rest
    return (← Value.charOf? code, rest)
  | _ => none

/-- The rest of a string on one line, up to its quote; `read` holds the characters so far, last one
first. Between double quotes a backslash starts an escape sequence. -/
def readLine (quote : Char) (fuel : Nat) (read text : List Char) : Option (String × List Char) :=
  match fuel, text with
  | 0, _ => none
  | _ + 1, [] => none
  | fuel + 1, c :: rest =>
    if c == quote then some (String.ofList read.reverse, rest)
    else if c == '\\' && quote == '"' then do
      let (c, rest) ← readEscape rest
      readLine quote fuel (c :: read) rest
    else if isPlain c then readLine quote fuel (c :: read) rest
    else none

/-- The text after a backslash that ends its line, with all blanks and line breaks that follow. -/
def afterContinuation? (text : List Char) : Option (List Char) := do
  let rest ← afterBreak? (skipBlanks text)
  let rec skip (fuel : Nat) (text : List Char) : List Char :=
    match fuel with
    | 0 => text
    | fuel + 1 =>
      let rest := skipBlanks text
      match afterBreak? rest with
      | some rest => skip fuel rest
      | none => rest
  return skip (rest.length + 1) rest

/-- The rest of a string over several lines, up to its three quotes. One or two more quotes before
them belong to the string. -/
def readLines (quote : Char) (fuel : Nat) (read text : List Char) : Option (String × List Char) :=
  match fuel, text with
  | 0, _ => none
  | _ + 1, [] => none
  | fuel + 1, c :: rest =>
    if c == quote then
      let quotes := ((c :: rest).takeWhile (· == quote)).length
      if quotes < 3 then readLines quote fuel (c :: read) rest
      else if quotes ≤ 5 then
        some (String.ofList (List.replicate (quotes - 3) quote ++ read).reverse, text.drop quotes)
      else none
    else if c == '\\' && quote == '"' then
      match afterContinuation? rest with
      | some rest => readLines quote fuel read rest
      | none => do
        let (c, rest) ← readEscape rest
        readLines quote fuel (c :: read) rest
    else
      match afterBreak? text with
      | some rest => readLines quote fuel ('\n' :: read) rest
      | none => if isPlain c then readLines quote fuel (c :: read) rest else none

/-- A string behind its first quote. A line break right behind three quotes is no part of it. -/
def readString (quote : Char) (text : List Char) : Option (String × List Char) :=
  match text with
  | first :: second :: rest =>
    if first == quote && second == quote then
      readLines quote (rest.length + 1) [] ((afterBreak? rest).getD rest)
    else readLine quote (text.length + 1) [] text
  | _ => readLine quote (text.length + 1) [] text

def isBare (c : Char) : Bool := c.isAlphanum || c == '_' || c == '-'

def readKeyPart (text : List Char) : Option (String × List Char) :=
  match text with
  | '"' :: rest => readLine '"' (rest.length + 1) [] rest
  | '\'' :: rest => readLine '\'' (rest.length + 1) [] rest
  | _ =>
    match text.takeWhile isBare with
    | [] => none
    | part => some (String.ofList part, text.dropWhile isBare)

/-- The most parts a key may have, and the deepest nesting of values. -/
def maxDepth : Nat := 79

/-- A key of several parts with points between them, and blanks after it. -/
def readKey (fuel : Nat) (text : List Char) : Option (List String × List Char) :=
  match fuel with
  | 0 => none
  | fuel + 1 => do
    let (part, rest) ← readKeyPart (skipBlanks text)
    match skipBlanks rest with
    | '.' :: rest =>
      let (parts, rest) ← readKey fuel rest
      return (part :: parts, rest)
    | rest => return ([part], rest)

end ProfileLexer.Toml
