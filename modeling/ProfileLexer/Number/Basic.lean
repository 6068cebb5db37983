import ProfileLexer.Profile.Definition
import ProfileLexer.Value.Basic

/-!
Numbers: how far a number reaches from the start of a text, and which form a text has that is one
number from end to end.
-/

namespace ProfileLexer

inductive Radix where
  | hex
  | octal
  | binary
  deriving DecidableEq, Repr, Inhabited

namespace Radix

def base : Radix → Nat
  | hex => 16
  | octal => 8
  | binary => 2

def isDigit : Radix → Char → Bool
  | hex, c => c.isDigit || ('a' ≤ c && c ≤ 'f') || ('A' ≤ c && c ≤ 'F')
  | octal, c => '0' ≤ c && c ≤ '7'
  | binary, c => c == '0' || c == '1'

/-- The base that a letter after a zero selects, if the language has it. -/
def ofLetter? (forms : NumberForms) (c : Char) : Option Radix :=
  if c == 'x' || c == 'X' then if forms.hex then some hex else none
  else if c == 'o' || c == 'O' then if forms.octal then some octal else none
  else if c == 'b' || c == 'B' then if forms.binary then some binary else none
  else none

end Radix

def isSign (c : Char) : Bool := c == '+' || c == '-'

def isExponentMark (c : Char) : Bool := c == 'e' || c == 'E'

namespace Number

def digitCount (text : List Char) : Nat :=
  (text.takeWhile Char.isDigit).length

def startsWithDigit : List Char → Bool
  | [] => false
  | c :: _ => c.isDigit

/-- The base that a text starts with: a zero and a letter. -/
def radix? (forms : NumberForms) : List Char → Option Radix
  | '0' :: letter :: _ => Radix.ofLetter? forms letter
  | _ => none

/-- A decimal point and the digits behind it, which may be missing. -/
def pointLength : List Char → Nat
  | '.' :: rest => 1 + digitCount rest
  | _ => 0

/-- A slash and the digits behind it, of which there has to be one. -/
def fractionLength (forms : NumberForms) : List Char → Nat
  | '/' :: rest => if forms.fractions && startsWithDigit rest then 1 + digitCount rest else 0
  | _ => 0

/-- A power of ten: a mark, perhaps a sign, and digits, of which there has to be one. -/
def exponentLength (forms : NumberForms) : List Char → Nat
  | mark :: rest =>
    if forms.exponent && isExponentMark mark then
      match rest with
      | sign :: digits =>
        if isSign sign then
          if startsWithDigit digits then 2 + digitCount digits else 0
        else if sign.isDigit then 1 + digitCount rest
        else 0
      | [] => 0
    else 0
  | [] => 0

/-- An imaginary unit that no letter, digit or underscore follows. Where one does, the number ends
before the unit. -/
def unitLength (forms : NumberForms) : List Char → Nat
  | 'i' :: rest =>
    let goesOn :=
      match rest with
      | c :: _ => c.isAlphanum || c == '_'
      | [] => false
    if forms.complex && !goesOn then 1 else 0
  | _ => 0

/-- The length of a number in base ten, from its first digit on. A number has a decimal point or a
denominator, not both; each part that is malformed is left out, and the number ends before it. -/
def decimalLength (forms : NumberForms) (text : List Char) : Nat :=
  let whole := digitCount text
  let rest := text.drop whole
  let point := pointLength rest
  let rest := rest.drop point
  let fraction := if point = 0 then fractionLength forms rest else 0
  let rest := rest.drop fraction
  let exponent := exponentLength forms rest
  let rest := rest.drop exponent
  whole + point + fraction + exponent + unitLength forms rest

/-- The length of a number from its first digit on. After the letter of a base all letters and
digits are taken, whether the base has them or not. -/
def unsignedLength (forms : NumberForms) (text : List Char) : Nat :=
  match radix? forms text with
  | some _ => 2 + ((text.drop 2).takeWhile Char.isAlphanum).length
  | none => decimalLength forms text

/-- The length of the number at the start of a text. A sign belongs to the number only where the
language has signs and a digit follows. -/
def length? (forms : NumberForms) (text : List Char) : Option Nat :=
  match text with
  | [] => none
  | c :: rest =>
    if forms.signed && isSign c then
      if startsWithDigit rest then some (1 + unsignedLength forms rest) else none
    else if c.isDigit then some (unsignedLength forms text)
    else none

end Number

inductive NumberForm where
  | integer
  | radix (radix : Radix)
  | decimal
  | fraction
  | exponent
  | complex
  deriving DecidableEq, Repr, Inhabited

namespace NumberForm

/-- A form by its name; other bases than ten by their number. -/
def toValue : NumberForm → Value
  | .integer => .text "Integer"
  | .radix chosen => .record [("Radix", .nat chosen.base)]
  | .decimal => .text "Decimal"
  | .fraction => .text "Fraction"
  | .exponent => .text "Exponent"
  | .complex => .text "Complex"

def body (forms : NumberForms) : List Char → List Char
  | [] => []
  | c :: rest => if forms.signed && isSign c then rest else c :: rest

/-- The form of a text that is one number from end to end. A claim of the scanner may be no number
all the same: behind the letter of a base there have to be digits of that base and nothing else. -/
def ofText? (forms : NumberForms) (text : List Char) : Option NumberForm :=
  if Number.length? forms text = some text.length then
    let body := body forms text
    match Number.radix? forms body with
    | some base =>
      let digits := body.drop 2
      if !digits.isEmpty && digits.all base.isDigit then some (.radix base) else none
    | none =>
      if forms.complex && body.getLast? == some 'i' then some .complex
      else if forms.exponent && body.any isExponentMark then some .exponent
      else if body.contains '/' then some .fraction
      else if body.contains '.' then some .decimal
      else some .integer
  else none

end NumberForm

end ProfileLexer
