/-!
Search by halving among indices at whose start a test holds and after which it fails.
-/

namespace ProfileLexer.Sorted

/-- The last index from `base` to `base + size - 1` at which `test` holds, if `test` holds up to
some index and fails behind it; `base` when it fails everywhere. -/
def lastWhere (test : Nat → Bool) (base size : Nat) : Nat :=
  if size ≤ 1 then base
  else
    let half := size / 2
    lastWhere test (if test (base + half) then base + half else base) (size - half)
termination_by size
decreasing_by omega

/-- The index of the last key that is at most `bound`, in ascending keys; zero when there is none.
The keys are not checked to be ascending. -/
def lastAtMost (keys : Array Nat) (bound : Nat) : Nat :=
  lastWhere (fun index => (keys[index]?.map (decide <| · ≤ bound)).getD false) 0 keys.size

end ProfileLexer.Sorted
