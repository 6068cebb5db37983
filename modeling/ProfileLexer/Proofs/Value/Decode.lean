import ProfileLexer.Value.Decode

/-!
Parts of values read back as they were put in.
-/

namespace ProfileLexer.Value

theorem asNat?_nat {n : Nat} (fits : n < wordLimit) : asNat? (nat n) = some n := by
  have written : (toString n).toList = Nat.toDigits 10 n := Nat.toList_repr
  have digits : (Nat.toDigits 10 n).all Char.isDigit = true := List.all_eq_true.mpr fun c member =>
    Nat.isDigit_of_mem_toDigits (by decide) (by decide) member
  have some_digit : (Nat.toDigits 10 n).isEmpty = false := by simp [Nat.toDigits_ne_nil]
  have value : (Nat.toDigits 10 n).foldl (fun value c => 10 * value + (c.toNat - '0'.toNat)) 0 = n :=
    Nat.ofDigitChars_toDigits (by decide) (by decide)
  rw [nat, asNat?]
  simp only [written, digits, some_digit, value, if_pos fits, Bool.not_true, Bool.or_self,
    Bool.false_eq_true, if_false]

theorem asChar?_singleton (c : Char) : asChar? (.text (String.singleton c)) = some c := by
  simp [asChar?]

/-- What is put in item by item is read back item by item, if each item is. -/
theorem asListOf?_map {α : Type} {read : Value → Option α} {write : α → Value} {items : List α}
    (each : ∀ item ∈ items, read (write item) = some item) :
    asListOf? read (.list (items.map write)) = some items := by
  rw [asListOf?]
  induction items with
  | nil => rfl
  | cons item items ih =>
    rw [List.map_cons, List.mapM_cons, each item List.mem_cons_self,
      ih fun item member => each item (List.mem_cons_of_mem _ member)]
    rfl

theorem asTexts?_texts (items : List String) : asTexts? (texts items) = some items :=
  asListOf?_map fun _ _ => rfl

end ProfileLexer.Value
