/-!
Texts as lists of characters, measured and cut by the bytes of their UTF-8 form.
-/

namespace ProfileLexer.Text

/-- The number of bytes a text takes in UTF-8. It is added up from left to right, so that long texts
are measured without deep recursion. -/
def byteLength (text : List Char) : Nat :=
  text.foldl (fun total c => total + c.utf8Size) 0

theorem foldl_utf8Size (text : List Char) (total : Nat) :
    text.foldl (fun total c => total + c.utf8Size) total = total + byteLength text := by
  induction text generalizing total with
  | nil => rfl
  | cons c text ih =>
    simp only [byteLength, List.foldl_cons, ih (total + c.utf8Size), ih (0 + c.utf8Size)]
    omega

@[simp] theorem byteLength_nil : byteLength [] = 0 := rfl

@[simp] theorem byteLength_cons (c : Char) (text : List Char) :
    byteLength (c :: text) = c.utf8Size + byteLength text := by
  rw [byteLength, List.foldl_cons, foldl_utf8Size, Nat.zero_add]

@[simp] theorem byteLength_append (first second : List Char) :
    byteLength (first ++ second) = byteLength first + byteLength second := by
  induction first with
  | nil => simp
  | cons c first ih => simp [ih, Nat.add_assoc]

theorem byteLength_pos {text : List Char} (nonempty : text ≠ []) : 0 < byteLength text := by
  cases text with
  | nil => exact absurd rfl nonempty
  | cons c text => have := c.utf8Size_pos; simp only [byteLength_cons]; omega

/-- How many characters make up exactly the first `bytes` bytes, on top of `counted`; none when
the cut would fall inside a character or past the end. -/
def charsWithin? (counted : Nat) : Nat → List Char → Option Nat
  | 0, _ => some counted
  | _ + 1, [] => none
  | bytes + 1, c :: text =>
    if c.utf8Size ≤ bytes + 1 then charsWithin? (counted + 1) (bytes + 1 - c.utf8Size) text
    else none

/-- The text between two byte offsets; none unless both are character boundaries in order and
neither is behind the end. -/
def slice? (text : List Char) (start stop : Nat) : Option (List Char) :=
  if start ≤ stop then
    match charsWithin? 0 start text with
    | none => none
    | some skipped =>
      let rest := text.drop skipped
      (charsWithin? 0 (stop - start) rest).map rest.take
  else none

/-- The largest character boundary that is not above `offset`, for a text that starts at byte
`start`. The end of the text is a boundary, and so is `start`, even if it is above `offset`. -/
def boundaryBelow (offset : Nat) (start : Nat) : List Char → Nat
  | [] => start
  | c :: text =>
    if start + c.utf8Size ≤ offset then boundaryBelow offset (start + c.utf8Size) text else start

end ProfileLexer.Text
