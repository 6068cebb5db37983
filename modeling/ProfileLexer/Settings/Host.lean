import ProfileLexer.Limits

/-!
The machine that a run is on.
-/

namespace ProfileLexer

structure Host where
  /-- The number of logical cores. -/
  cores : Nat
  physicalCores : Nat
  deriving DecidableEq, Repr, Inhabited

/-- How many workers are used when nobody asks for a number: all cores but one, and at least two. -/
def Host.defaultWorkers (host : Host) : Nat :=
  min (max (host.cores - 1) 2) Limits.maxWorkers

end ProfileLexer
