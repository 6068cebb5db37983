import ProfileLexer.Decimal.Fixed

/-!
Binary floating point numbers written with the fewest digits that read back as the same number. Of
several such decimals the nearest is taken.
-/

namespace ProfileLexer.Decimal

/-- Two to the power of 1076, over which all numbers and the middles between them are whole. -/
def gridUnit : Nat := Nat.pow 2 1076

/-- The reals that round to a number, in units of `1 / gridUnit`: the number itself between the
two ends. Below a power of two the neighbour is only half as far away. -/
structure Rounding where
  low : Nat
  value : Nat
  high : Nat
  /-- The ends belong to it. -/
  closed : Bool

def rounding (x : Float) : Rounding :=
  let (mantissa, exponent) := magnitude x
  let scale := Nat.pow 2 exponent
  let below := if mantissa = hiddenBit ∧ 0 < exponent then 1 else 2
  ⟨(4 * mantissa - below) * scale, 4 * mantissa * scale, (4 * mantissa + 2) * scale,
    mantissa % 2 == 0⟩

/-- Whether the decimal `digits * up / down` rounds to the number. -/
def Rounding.holds (reals : Rounding) (digits up down : Nat) : Bool :=
  let point := digits * up * gridUnit
  let low := reals.low * down
  let high := reals.high * down
  (low < point && point < high) || (reals.closed && (low == point || point == high))

/-- The best decimal in steps of `up / down`, if one of the two around the number reads back. -/
def Rounding.onGrid? (reals : Rounding) (up down : Nat) : Option Nat :=
  let unit := up * gridUnit
  let digits := reals.value * down / unit
  let rest := 2 * (reals.value * down % unit)
  let nearer := if rest < unit ∨ (rest = unit ∧ digits % 2 = 0) then digits else digits + 1
  let farther := if nearer = digits then digits + 1 else digits
  if reals.holds nearer up down then some nearer
  else if reals.holds farther up down then some farther
  else none

/-- The least `point` with `value < 10 ^ point`, where the value is `numerator / denominator`;
`fuel` bounds the search upwards from `point`. -/
def pointAbove (numerator denominator : Nat) (point : Int) : Nat → Int
  | 0 => point
  | fuel + 1 =>
    if numerator * Nat.pow 10 (-point).toNat < denominator * Nat.pow 10 point.toNat then point
    else pointAbove numerator denominator (point + 1) fuel

/-- The first grid of `digits` digits or more, up to seventeen, that has a decimal which reads
back, as digits and the exponent of the last one. -/
def Rounding.search (reals : Rounding) (point : Int) (digits : Nat) : Nat → Nat × Int
  | 0 => (0, 0)
  | fuel + 1 =>
    let exponent := point - digits
    match reals.onGrid? (Nat.pow 10 exponent.toNat) (Nat.pow 10 (-exponent).toNat) with
    | some found => (found, exponent)
    | none => reals.search point (digits + 1) fuel

/-- The digits of a positive finite number without zeros at the end, and the place of the decimal
point counted from in front of them. -/
def shortest (x : Float) : List Char × Int :=
  let reals := rounding x
  let point := pointAbove reals.value gridUnit (-330) 700
  let (digits, exponent) := reals.search point 1 17
  let all := (toString digits).toList
  ((all.reverse.dropWhile (· == '0')).reverse, all.length + exponent)

/-- A finite number as a JSON number: with a point up to sixteen digits before it and four zeros
behind it, else with an exponent. -/
def jsonNumber (x : Float) : String :=
  let sign := if isNegative x then "-" else ""
  if x == 0.0 then sign ++ "0.0"
  else
    let (digits, point) := shortest x
    let zeros (count : Int) : List Char := List.replicate count.toNat '0'
    let length : Int := digits.length
    sign ++ String.ofList (
      if length ≤ point ∧ point ≤ 16 then digits ++ zeros (point - length) ++ ['.', '0']
      else if 0 < point ∧ point ≤ 16 then
        digits.take point.toNat ++ ['.'] ++ digits.drop point.toNat
      else if -5 < point ∧ point ≤ 0 then ['0', '.'] ++ zeros (-point) ++ digits
      else
        digits.take 1 ++ (if digits.length = 1 then [] else '.' :: digits.drop 1) ++
          'e' :: (toString (point - 1)).toList)

end ProfileLexer.Decimal
