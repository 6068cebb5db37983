import ProfileLexer.Text.Case
import ProfileLexer.Text.HiddenTable

/-!
Texts written so that every character shows: with the usual backslash forms, and by code point
where a character does not show by itself.
-/

namespace ProfileLexer.Text

def hexDigits (n : Nat) : List Char :=
  Nat.toDigits 16 n

/-- Whether a character never shows by itself, such as a control. The tables are those of version 14
of the Unicode standard. -/
def isHidden (c : Char) : Bool :=
  c.toNat < 32 || c.toNat == 127 || (128 ≤ c.toNat && inRanges hiddenRanges c.toNat)

/-- Whether a character shows only on the one before it. -/
def isJoining (c : Char) : Bool :=
  128 ≤ c.toNat && inRanges joiningRanges c.toNat

def byCodePoint (c : Char) : List Char :=
  ['\\', 'u', '\x7b'] ++ hexDigits c.toNat ++ ['\x7d']

def escapeChar (c : Char) : List Char :=
  if c == '\x00' then ['\\', '0']
  else if c == '\t' then ['\\', 't']
  else if c == '\r' then ['\\', 'r']
  else if c == '\n' then ['\\', 'n']
  else if c == '\\' then ['\\', '\\']
  else if c == '"' then ['\\', '"']
  else if isHidden c then byCodePoint c
  else [c]

def escapeAlone (c : Char) : List Char :=
  if isJoining c then byCodePoint c else escapeChar c

/-- A text between double quotes, every character escaped as if it stood alone. -/
def quoted (text : List Char) : List Char :=
  '"' :: (text.flatMap escapeAlone ++ ['"'])

/-- A text escaped for either kind of quote; a joining mark is escaped only at the start. -/
def escaped : List Char → List Char
  | [] => []
  | first :: rest =>
    forQuote escapeAlone first ++ rest.flatMap (forQuote escapeChar)
where
  forQuote (escape : Char → List Char) (c : Char) : List Char :=
    if c == '\'' then ['\\', '\''] else escape c

end ProfileLexer.Text
