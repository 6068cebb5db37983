/-!
Instants as calendar dates of the Gregorian calendar, in universal time.
-/

namespace ProfileLexer.Instant

/-- Year, month and day of a number of days since the first of January 1970. Years are counted from
the first of March, so that a leap day is the last day of its year; 400 years have 146097 days. -/
def civil (days : Int) : Int × Nat × Nat :=
  let shifted := days + 719468
  let era := shifted.fdiv 146097
  let day := (shifted.fmod 146097).toNat
  let year := (day - day / 1460 + day / 36524 - day / 146096) / 365
  let inYear := day - (365 * year + year / 4 - year / 100)
  let month := (5 * inYear + 2) / 153
  let dayOfMonth := inYear - (153 * month + 2) / 5 + 1
  let civilMonth := if month < 10 then month + 3 else month - 9
  (era * 400 + year + (if civilMonth ≤ 2 then 1 else 0), civilMonth, dayOfMonth)

def padded (width n : Nat) : String :=
  let digits := toString n
  String.ofList (List.replicate (width - digits.length) '0') ++ digits

/-- A year of four digits; other years have a sign and at least four digits. -/
def yearText (year : Int) : String :=
  if 0 ≤ year ∧ year ≤ 9999 then padded 4 year.toNat
  else (if year < 0 then "-" else "+") ++ padded 4 year.natAbs

/-- An instant in milliseconds since 1970 as date and time; the fraction of a second is left out
when it is zero. -/
def text (milliseconds : Int) : String :=
  let (year, month, day) := civil (milliseconds.fdiv 86400000)
  let rest := (milliseconds.fmod 86400000).toNat
  let fraction := rest % 1000
  yearText year ++ "-" ++ padded 2 month ++ "-" ++ padded 2 day ++ "T" ++
    padded 2 (rest / 3600000) ++ ":" ++ padded 2 (rest / 60000 % 60) ++ ":" ++
    padded 2 (rest / 1000 % 60) ++ (if fraction = 0 then "" else "." ++ padded 3 fraction)

end ProfileLexer.Instant
