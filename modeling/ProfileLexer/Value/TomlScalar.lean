import ProfileLexer.Value.Basic
import ProfileLexer.Word

/-!
TOML values without quotes or brackets: truth values, numbers, dates and times.
-/

namespace ProfileLexer.Toml

/-- Whether a text is digits of a kind with single underscores between them. -/
def isDigitRun (isDigit : Char → Bool) : List Char → Bool
  | [] => false
  | [c] => isDigit c
  | '_' :: _ => false
  | c :: '_' :: rest => isDigit c && isDigitRun isDigit rest
  | c :: rest => isDigit c && isDigitRun isDigit rest

def unsigned : List Char → List Char
  | '+' :: rest => rest
  | '-' :: rest => rest
  | text => text

/-- Whether a text is a whole number in base ten, without a zero in front of other digits. -/
def isWhole (text : List Char) : Bool :=
  match unsigned text with
  | ['0'] => true
  | '0' :: _ => false
  | digits => isDigitRun Char.isDigit digits

/-- The value of digits in a base; underscores count for nothing. -/
def digitsValue (base : Nat) (digits : List Char) : Nat :=
  digits.foldl (fun value c =>
    if c == '_' then value
    else if c.isDigit then base * value + (c.toNat - '0'.toNat)
    else base * value + (c.toLower.toNat - 'a'.toNat + 10)) 0

def isHexDigit (c : Char) : Bool :=
  c.isDigit || ('a' ≤ c && c ≤ 'f') || ('A' ≤ c && c ≤ 'F')

/-- Whether a text is an integer of at most 64 bits, in one of four bases. Only one in base ten may
have a sign. -/
def isInteger (text : List Char) : Bool :=
  match text with
  | '0' :: 'x' :: digits => isDigitRun isHexDigit digits && digitsValue 16 digits < signedLimit
  | '0' :: 'o' :: digits =>
    isDigitRun (fun c => '0' ≤ c && c ≤ '7') digits && digitsValue 8 digits < signedLimit
  | '0' :: 'b' :: digits =>
    isDigitRun (fun c => c == '0' || c == '1') digits && digitsValue 2 digits < signedLimit
  | _ =>
    let limit := if text.head? == some '-' then signedLimit + 1 else signedLimit
    isWhole text && digitsValue 10 (unsigned text) < limit

/-- Whether a number with a fraction or an exponent is too large to be finite. -/
def overflows (whole fraction exponent : List Char) : Bool :=
  let shift : Int := digitsValue 10 (unsigned exponent)
  let shift := if exponent.head? == some '-' then -shift else shift
  let places := (fraction.filter (· != '_')).length
  let mantissa := digitsValue 10 (whole ++ fraction)
  let shift := shift - places
  if mantissa == 0 then false
  else if shift > 400 then true
  else if shift < 0 then
    (Float.ofScientific mantissa true (min shift.natAbs 400)).isInf
  else (Float.ofScientific mantissa false shift.toNat).isInf

def isFloat (text : List Char) : Bool :=
  let body := unsigned text
  if body == ['i', 'n', 'f'] || body == ['n', 'a', 'n'] then true
  else
    let isMark (c : Char) : Bool := c == 'e' || c == 'E'
    let mantissa := text.takeWhile (!isMark ·)
    let exponent := text.dropWhile (!isMark ·)
    let whole := mantissa.takeWhile (· != '.')
    let fraction := mantissa.dropWhile (· != '.')
    (!exponent.isEmpty || !fraction.isEmpty) && isWhole whole &&
      (fraction.isEmpty || isDigitRun Char.isDigit (fraction.drop 1)) &&
      (exponent.isEmpty || isDigitRun Char.isDigit (unsigned (exponent.drop 1))) &&
      (text.head? == some '-' || !overflows (unsigned whole) (fraction.drop 1) (exponent.drop 1))

/-- A number of exactly `count` digits at the start of a text. -/
def takeDigits? (count : Nat) (text : List Char) : Option (Nat × List Char) :=
  let digits := text.take count
  if digits.length = count ∧ digits.all Char.isDigit then
    some (digitsValue 10 digits, text.drop count)
  else none

def monthDays (year month : Nat) : Nat :=
  if month = 2 then
    if year % 4 = 0 ∧ (year % 100 ≠ 0 ∨ year % 400 = 0) then 29 else 28
  else if month = 4 ∨ month = 6 ∨ month = 9 ∨ month = 11 then 30
  else 31

def afterDate? (text : List Char) : Option (List Char) := do
  let (year, rest) ← takeDigits? 4 text
  let '-' :: rest := rest | none
  let (month, rest) ← takeDigits? 2 rest
  let '-' :: rest := rest | none
  let (day, rest) ← takeDigits? 2 rest
  if 1 ≤ month ∧ month ≤ 12 ∧ 1 ≤ day ∧ day ≤ monthDays year month then some rest
  else none

def afterTime? (text : List Char) : Option (List Char) := do
  let (hour, rest) ← takeDigits? 2 text
  let ':' :: rest := rest | none
  let (minute, rest) ← takeDigits? 2 rest
  let ':' :: rest := rest | none
  let (second, rest) ← takeDigits? 2 rest
  if hour ≤ 23 ∧ minute ≤ 59 ∧ second ≤ 60 then
    match rest with
    | '.' :: rest =>
      if (rest.takeWhile Char.isDigit).isEmpty then none else some (rest.dropWhile Char.isDigit)
    | rest => some rest
  else none

/-- Whether a text is nothing or the distance of a time zone. -/
def isZone : List Char → Bool
  | [] => true
  | ['Z'] | ['z'] => true
  | sign :: rest =>
    (sign == '+' || sign == '-') &&
      match takeDigits? 2 rest with
      | some (hour, ':' :: rest) =>
        match takeDigits? 2 rest with
        | some (minute, []) => hour ≤ 23 && minute ≤ 59
        | _ => false
      | _ => false

def isMoment (text : List Char) : Bool :=
  match afterDate? text with
  | some [] => true
  | some (mark :: rest) =>
    (mark == 'T' || mark == 't' || mark == ' ') && ((afterTime? rest).map isZone).getD false
  | none => (afterTime? text) == some []

/-- The value of a text without quotes. A date or time is a record, so that it is taken for neither
a text nor a number. -/
def scalar? (text : List Char) : Option Value :=
  if text == ['t', 'r', 'u', 'e'] then some (.flag true)
  else if text == ['f', 'a', 'l', 's', 'e'] then some (.flag false)
  else if isInteger text || isFloat text then some (.number (String.ofList text))
  else if isMoment text then some (.record [("moment", .text (String.ofList text))])
  else none

end ProfileLexer.Toml
