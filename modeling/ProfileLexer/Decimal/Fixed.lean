import ProfileLexer.Word

/-!
Binary floating point numbers written with a fixed number of decimal places. The exact binary value
is rounded, and a tie goes to the even neighbour.
-/

namespace ProfileLexer.Decimal

/-- The natural number nearest to `numerator / denominator`, ties to even. -/
def roundDiv (numerator denominator : Nat) : Nat :=
  let quotient := numerator / denominator
  let rest := 2 * (numerator % denominator)
  if rest < denominator then quotient
  else if rest > denominator then quotient + 1
  else quotient + quotient % 2

def hiddenBit : Nat := 0x10000000000000

/-- The magnitude of a finite number as `mantissa * 2 ^ (exponent - 1074)`. The sign is left out,
and numbers that are not finite have no such form. -/
def magnitude (x : Float) : Nat × Nat :=
  let bits := x.toBits.toNat % signedLimit
  let fraction := bits % hiddenBit
  match bits / hiddenBit with
  | 0 => (fraction, 0)
  | exponent + 1 => (hiddenBit + fraction, exponent)

def isNegative (x : Float) : Bool :=
  x.toBits.toNat / signedLimit == 1

def pointed (places n : Nat) : String :=
  if places == 0 then toString n
  else
    let digits := toString (n % Nat.pow 10 places)
    toString (n / Nat.pow 10 places) ++ "." ++
      String.ofList (List.replicate (places - digits.length) '0') ++ digits

def fixed (places : Nat) (x : Float) : String :=
  if x.isNaN then "NaN"
  else
    let sign := if isNegative x then "-" else ""
    if x.isInf then sign ++ "inf"
    else
      let (mantissa, exponent) := magnitude x
      sign ++ pointed places
        (roundDiv (mantissa * Nat.pow 10 places * Nat.pow 2 exponent) (Nat.pow 2 1074))

/-- The seconds of a duration given in nanoseconds: whole seconds and the rest are converted on
their own and then added. -/
def seconds (nanoseconds : Nat) : Float :=
  Float.ofNat (nanoseconds / 1000000000) + Float.ofNat (nanoseconds % 1000000000) / 1e9

end ProfileLexer.Decimal
