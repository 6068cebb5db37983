/-!
Totals: natural numbers added up over a list.
-/

namespace ProfileLexer

/-- The sum of a measure over the items of a list. -/
def total {α : Type} (measure : α → Nat) : List α → Nat
  | [] => 0
  | item :: items => measure item + total measure items

end ProfileLexer
