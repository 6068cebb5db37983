import Mathlib.Data.List.Basic
import ProfileLexer.Text.Bytes

/-!
Character boundaries: the byte offsets at which a text may be cut. An offset is a boundary exactly
when the characters in front of it can be counted.
-/

namespace ProfileLexer.Text

/-- A byte offset at which a character of the text starts, or at which the text ends. Nothing behind
the end is one. -/
def IsBoundary (text : List Char) (offset : Nat) : Prop :=
  ∃ before after, text = before ++ after ∧ byteLength before = offset

theorem byteLength_toList (text : String) : byteLength text.toList = text.utf8ByteSize := by
  have encoded (chars : List Char) : chars.utf8Encode.size = byteLength chars := by
    induction chars with
    | nil => simp
    | cons c chars ih =>
      rw [List.utf8Encode_cons, ByteArray.size_append, ih, List.utf8Encode_singleton]
      simp
  rw [← encoded, String.utf8Encode_toList, String.size_toByteArray]

theorem byteLength_ofList (text : List Char) :
    (String.ofList text).utf8ByteSize = byteLength text := by
  rw [← byteLength_toList, String.toList_ofList]

theorem byteLength_eq_zero_iff {text : List Char} : byteLength text = 0 ↔ text = [] := by
  constructor
  · intro zero
    by_contra nonempty
    have := byteLength_pos nonempty
    omega
  · rintro rfl
    rfl

theorem byteLength_take_add_drop (text : List Char) (n : Nat) :
    byteLength (text.take n) + byteLength (text.drop n) = byteLength text := by
  rw [← byteLength_append, List.take_append_drop]

theorem length_le_byteLength (text : List Char) : text.length ≤ byteLength text := by
  induction text with
  | nil => exact Nat.le_refl 0
  | cons c text ih =>
    have positive := c.utf8Size_pos
    rw [List.length_cons, byteLength_cons]
    omega

theorem charsWithin?_append (counted : Nat) (before after : List Char) :
    charsWithin? counted (byteLength before) (before ++ after) = some (counted + before.length) := by
  induction before generalizing counted with
  | nil => simp [charsWithin?]
  | cons c before ih =>
    have positive := c.utf8Size_pos
    obtain ⟨bytes, size⟩ : ∃ bytes, byteLength (c :: before) = bytes + 1 :=
      ⟨byteLength (c :: before) - 1, by simp only [byteLength_cons]; omega⟩
    have fits : c.utf8Size ≤ bytes + 1 := by rw [← size, byteLength_cons]; omega
    have left : bytes + 1 - c.utf8Size = byteLength before := by
      rw [← size, byteLength_cons]; omega
    rw [size, List.cons_append, charsWithin?, if_pos fits, left, ih, List.length_cons]
    congr 1
    omega

/-- What is counted in front of an offset is a cut at that offset. Inside a character there is no
count. -/
theorem charsWithin?_eq_some {counted bytes found : Nat} {text : List Char}
    (atCut : charsWithin? counted bytes text = some found) :
    ∃ before after, text = before ++ after ∧ byteLength before = bytes ∧
      found = counted + before.length := by
  fun_induction charsWithin? counted bytes text with
  | case1 =>
    cases atCut
    exact ⟨[], _, rfl, rfl, rfl⟩
  | case2 => cases atCut
  | case3 counted bytes c text fits ih =>
    obtain ⟨before, after, same, size, count⟩ := ih atCut
    refine ⟨c :: before, after, by rw [same, List.cons_append], ?_, ?_⟩
    · rw [byteLength_cons, size]; omega
    · rw [count, List.length_cons]; omega
  | case4 => cases atCut

theorem charsWithin?_isSome_iff {text : List Char} {offset : Nat} :
    (charsWithin? 0 offset text).isSome ↔ IsBoundary text offset := by
  constructor
  · intro counted
    obtain ⟨found, atCut⟩ := Option.isSome_iff_exists.mp counted
    obtain ⟨before, after, same, size, _⟩ := charsWithin?_eq_some atCut
    exact ⟨before, after, same, size⟩
  · rintro ⟨before, after, rfl, rfl⟩
    rw [charsWithin?_append]
    rfl

theorem IsBoundary.zero (text : List Char) : IsBoundary text 0 := ⟨[], text, rfl, rfl⟩

theorem IsBoundary.le_byteLength {text : List Char} {place : Nat} (boundary : IsBoundary text place) :
    place ≤ byteLength text := by
  obtain ⟨before, after, rfl, rfl⟩ := boundary
  rw [byteLength_append]
  exact Nat.le_add_right _ _

/-- Two boundaries in order cut a text into three, of which any may be empty. -/
theorem IsBoundary.split {text : List Char} {start stop : Nat} (first : IsBoundary text start)
    (second : IsBoundary text stop) (ordered : start ≤ stop) :
    ∃ before middle after, text = before ++ middle ++ after ∧ byteLength before = start ∧
      byteLength (before ++ middle) = stop := by
  obtain ⟨before, rest, rfl, size⟩ := first
  obtain ⟨upto, after, same, size'⟩ := second
  rcases List.append_eq_append_iff.mp same with ⟨middle, rfl, rfl⟩ | ⟨middle, rfl, rfl⟩
  · exact ⟨before, middle, after, by simp, size, size'⟩
  · rw [byteLength_append] at size
    have empty : middle = [] := byteLength_eq_zero_iff.mp (by omega)
    subst empty
    exact ⟨upto, [], rest, by simp, by simpa using size, by simpa using size'⟩

theorem slice?_append (before middle after : List Char) :
    slice? (before ++ middle ++ after) (byteLength before) (byteLength (before ++ middle)) =
      some middle := by
  have ordered : byteLength before ≤ byteLength (before ++ middle) := by
    rw [byteLength_append]; omega
  have width : byteLength (before ++ middle) - byteLength before = byteLength middle := by
    rw [byteLength_append]; omega
  rw [slice?, if_pos ordered, List.append_assoc, charsWithin?_append, width]
  simp [charsWithin?_append]

/-- A slice between two boundaries in order exists. If one of them is no boundary there is none. -/
theorem slice?_isSome {text : List Char} {start stop : Nat} (first : IsBoundary text start)
    (second : IsBoundary text stop) (ordered : start ≤ stop) : (slice? text start stop).isSome := by
  obtain ⟨before, middle, after, rfl, rfl, rfl⟩ := first.split second ordered
  rw [slice?_append]
  rfl

end ProfileLexer.Text
