import ProfileLexer.Value.Basic
import ProfileLexer.Word

/-!
Reading the parts of values. A reader refuses a value of the wrong shape.
-/

namespace ProfileLexer.Value

def asText? : Value → Option String
  | .text value => some value
  | _ => none

def asFlag? : Value → Option Bool
  | .flag value => some value
  | _ => none

def asChar? : Value → Option Char
  | .text value =>
    match value.toList with
    | [c] => some c
    | _ => none
  | _ => none

/-- A natural number that fits into a word, written with digits only. A number with a point or an
exponent is refused, even if it is whole. -/
def asNat? : Value → Option Nat
  | .number literal =>
    let digits := literal.toList
    if digits.isEmpty || !digits.all Char.isDigit then none
    else
      let value := digits.foldl (fun value c => 10 * value + (c.toNat - '0'.toNat)) 0
      if value < wordLimit then some value else none
  | _ => none

/-- An integer written with digits only, behind a minus sign if it is negative. -/
def asInt? : Value → Option Int
  | .number literal =>
    match literal.toList with
    | '-' :: digits => (String.ofList digits).toNat?.map fun n => -(n : Int)
    | digits => (String.ofList digits).toNat?.map fun n => (n : Int)
  | _ => none

/-- A number with digits, and maybe a point and an exponent, as the nearest floating point number.
Texts are refused, even those that spell a number. -/
def asFloat? : Value → Option Float
  | .number literal => do
    let isExponentMark (c : Char) : Bool := c == 'e' || c == 'E'
    let negative := literal.toList.head? == some '-'
    let text := if negative then literal.toList.tail else literal.toList
    let mantissa := text.takeWhile (!isExponentMark ·)
    let exponent := ((text.dropWhile (!isExponentMark ·)).drop 1).filter (· != '+')
    let digits ← (String.ofList (mantissa.filter (· != '.'))).toNat?
    let power ←
      if exponent.isEmpty then some 0 else asInt? (.number (String.ofList exponent))
    let places := ((mantissa.dropWhile (· != '.')).drop 1).length
    let shift := power - places
    let x := Float.ofScientific digits (shift < 0) shift.natAbs
    return if negative then -x else x
  | _ => none

def asListOf? {α : Type} (read : Value → Option α) : Value → Option (List α)
  | .list items => items.mapM read
  | _ => none

def asTexts? : Value → Option (List String) :=
  asListOf? asText?

def orNull? {α : Type} (read : Value → Option α) : Value → Option (Option α)
  | .null => some none
  | value => (read value).map some

/-- A value named by a text, or by the only field of a record that holds nothing. -/
def asNamed? {α : Type} (ofName? : String → Option α) : Value → Option α
  | .text name => ofName? name
  | .record [(name, .null)] => ofName? name
  | _ => none

/-- The fields of a record, or of a list that gives them in order. Fields with other names stay;
they are passed over when fields are looked up. -/
def asFields? (names : List String) : Value → Option (List (String × Value))
  | .record fields => some fields
  | .list items => if items.length ≤ names.length then some (names.zip items) else none
  | _ => none

def required? {α : Type} (fields : List (String × Value)) (name : String)
    (read : Value → Option α) : Option α :=
  (fields.lookup name).bind read

/-- A field that takes a default when it is absent. A field that is there has to be right: a value
of the wrong shape is not taken for an absent one. -/
def optional? {α : Type} (fields : List (String × Value)) (name : String)
    (read : Value → Option α) (default : α) : Option α :=
  match fields.lookup name with
  | some value => read value
  | none => some default

end ProfileLexer.Value
