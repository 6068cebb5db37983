import ProfileLexer.Proofs.Guarded.Extents
import ProfileLexer.Proofs.Number.Grammar

/-!
Numbers found with a cursor, part by part: the digits, a decimal point, a fraction, a power of ten
and an imaginary unit.
-/

namespace ProfileLexer.Guarded

noncomputable section

/-- Passes a decimal point and the digits behind it, and says whether there is a point. -/
def passPoint (cursor : Cursor) : Guarded (Bool × Cursor) := do
  if (← cursor.peek) == some '.' then
    let (_, cursor) ← cursor.bump
    return (true, ← cursor.skipWhile Char.isDigit)
  else return (false, cursor)

/-- Passes a slash and the digits behind it, where there was no decimal point. -/
def passFraction (forms : NumberForms) (pointed : Bool) (cursor : Cursor) : Guarded Cursor := do
  if forms.fractions && !pointed && (← cursor.peek) == some '/' && (← cursor.digitAt 1) then
    let (_, cursor) ← cursor.bump
    cursor.skipWhile Char.isDigit
  else return cursor

def passExponent (forms : NumberForms) (cursor : Cursor) : Guarded Cursor := do
  if forms.exponent && ((← cursor.peek).map isExponentMark).getD false then
    let width := if ((← cursor.peekNth 1).map isSign).getD false then 2 else 1
    if ← cursor.digitAt width then
      let cursor ← cursor.bumps width
      cursor.skipWhile Char.isDigit
    else return cursor
  else return cursor

def passUnit (forms : NumberForms) (cursor : Cursor) : Guarded Cursor := do
  let goesOn := ((← cursor.peekNth 1).map fun c => c.isAlphanum || c == '_').getD false
  if forms.complex && (← cursor.peek) == some 'i' && !goesOn then
    let (_, cursor) ← cursor.bump
    return cursor
  else return cursor

/-- Passes a number in base ten. Each part is optional but the first digits, which the caller has
seen. -/
def passDecimal (forms : NumberForms) (cursor : Cursor) : Guarded Cursor := do
  let cursor ← cursor.skipWhile Char.isDigit
  let (pointed, cursor) ← passPoint cursor
  let cursor ← passFraction forms pointed cursor
  let cursor ← passExponent forms cursor
  passUnit forms cursor

def radix (forms : NumberForms) (cursor : Cursor) : Guarded (Option Radix) := do
  if (← cursor.peek) == some '0' then
    return (← cursor.peekNth 1).bind (Radix.ofLetter? forms)
  else return none

def passUnsigned (forms : NumberForms) (cursor : Cursor) : Guarded Cursor := do
  match ← radix forms cursor with
  | some _ =>
    let cursor ← cursor.bumps 2
    cursor.skipWhile Char.isAlphanum
  | none => passDecimal forms cursor

/-- The length of a number that comes first. A sign counts only with a digit behind it. -/
def number (forms : NumberForms) (text : List Char) : Guarded (Option Nat) := do
  let cursor := Cursor.ofText text
  match ← cursor.peek with
  | none => return none
  | some first =>
    if forms.signed && isSign first then
      if ← cursor.digitAt 1 then
        let (_, cursor) ← cursor.bump
        return (← passUnsigned forms cursor).finish
      else return none
    else if first.isDigit then
      return (← passUnsigned forms cursor).finish
    else return none

/-- The form of a text that is one number from end to end. -/
def numberForm (forms : NumberForms) (text : List Char) : Guarded (Option NumberForm) := do
  if (← number forms text) == some (Text.byteLength text) then
    let body := NumberForm.body forms text
    match Number.radix? forms body with
    | some base =>
      let digits ← Text.behind? body 2
      return if !digits.isEmpty && digits.all base.isDigit then some (.radix base) else none
    | none =>
      return some <|
        if forms.complex && body.getLast? == some 'i' then .complex
        else if forms.exponent && body.any isExponentMark then .exponent
        else if body.contains '/' then .fraction
        else if body.contains '.' then .decimal
        else .integer
  else return none

end

variable {forms : NumberForms} (before after : List Char)

/-- Some characters and a run behind them, passed one after the other and at once. The cursor comes
to stand in the same place. -/
theorem past_append_takeWhile (test : Char → Bool) (front rest : List Char) :
    Cursor.past before (front ++ rest) (front.length + (rest.takeWhile test).length) =
      .between (before ++ (front ++ rest.takeWhile test)) (rest.dropWhile test) := by
  rw [Cursor.past, List.take_length_add_append, List.drop_length_add_append,
    take_length_takeWhile, drop_length_takeWhile]

theorem past_zero : Cursor.past before after 0 = .between before after := by
  rw [Cursor.past, List.take_zero, List.append_nil, List.drop_zero]

theorem passPoint_between : passPoint (.between before after) =
    some (Number.pointLength after != 0, .past before after (Number.pointLength after)) := by
  rw [passPoint, Cursor.peek_between]
  unfold Number.pointLength
  split
  · rename_i rest
    have passed := past_append_takeWhile before Char.isDigit ['.'] rest
    simpa [Number.digitCount] using passed.symm
  · rename_i other
    rw [past_zero]
    cases after with
    | nil => rfl
    | cons c rest =>
      have apart : c ≠ '.' := by
        rintro rfl
        exact other rest rfl
      simp [apart]

theorem startsWithDigit_eq (text : List Char) :
    Number.startsWithDigit text = (text[0]?.map Char.isDigit).getD false := by
  cases text <;> rfl

theorem passFraction_between (pointed : Bool) : passFraction forms pointed (.between before after) =
    some (.past before after (if pointed then 0 else Number.fractionLength forms after)) := by
  rw [passFraction, Cursor.peek_between, Cursor.digitAt_between]
  cases pointed with
  | true =>
    rw [if_pos rfl, past_zero]
    simp
  | false =>
    rw [if_neg Bool.false_ne_true]
    unfold Number.fractionLength
    split
    · rename_i rest
      rw [startsWithDigit_eq]
      split
      · rename_i present
        have passed := past_append_takeWhile before Char.isDigit ['/'] rest
        rw [Bool.and_eq_true] at present
        simpa [present.1, present.2, Number.digitCount] using passed.symm
      · rename_i absent
        rw [past_zero]
        simp_all
    · rename_i other
      rw [past_zero]
      cases after with
      | nil => simp
      | cons c rest =>
        have apart : c ≠ '/' := by
          rintro rfl
          exact other rest rfl
        simp [apart]

theorem passExponent_between : passExponent forms (.between before after) =
    some (.past before after (Number.exponentLength forms after)) := by
  rw [passExponent, Cursor.peek_between, Cursor.peekNth_between]
  match after with
  | [] => simp [Number.exponentLength, past_zero]
  | [mark] => simp [Number.exponentLength, past_zero]
  | mark :: next :: rest =>
    rw [Number.exponentLength, startsWithDigit_eq]
    simp only [Option.bind_eq_bind, Option.bind_some, List.head?_cons, Option.map_some,
      Option.getD_some]
    split
    · cases signed : isSign next with
      | true =>
        have passed := past_append_takeWhile before Char.isDigit [mark, next] rest
        cases digit : (rest[0]?.map Char.isDigit).getD false with
        | true => simpa [signed, digit, Number.digitCount] using passed.symm
        | false => simp [signed, digit, past_zero]
      | false =>
        have passed := past_append_takeWhile before Char.isDigit [mark] (next :: rest)
        cases digit : next.isDigit with
        | true => simpa [signed, digit, Number.digitCount] using passed.symm
        | false => simp [signed, digit, past_zero]
    · rw [past_zero]
      rfl

theorem unitLength_cons (c : Char) (rest : List Char) : Number.unitLength forms (c :: rest) =
    if forms.complex && some c == some 'i' &&
      !(rest[0]?.map fun c => c.isAlphanum || c == '_').getD false then 1 else 0 := by
  by_cases unit : c = 'i'
  · subst unit
    cases rest <;> simp [Number.unitLength]
  · have apart : (some c == some 'i') = false := by simpa using unit
    rw [apart, Bool.and_false, Bool.false_and, if_neg Bool.false_ne_true]
    unfold Number.unitLength
    split
    · rename_i same
      exact absurd (List.cons.inj same).1 unit
    · rfl

theorem passUnit_between : passUnit forms (.between before after) =
    some (.past before after (Number.unitLength forms after)) := by
  rw [passUnit, Cursor.peek_between, Cursor.peekNth_between]
  cases after with
  | nil => simp [Number.unitLength, past_zero]
  | cons c rest =>
    rw [unitLength_cons]
    simp only [Option.bind_eq_bind, Option.bind_some, List.head?_cons, List.getElem?_cons_succ,
      Cursor.bump_cons]
    split
    · rfl
    · rw [past_zero]
      rfl

theorem passDecimal_between : passDecimal forms (.between before after) =
    some (.past before after (Number.decimalLength forms after)) := by
  have digits : (Cursor.between before after).skipWhile Char.isDigit =
      some (.past before after (Number.digitCount after)) := by
    rw [Cursor.skipWhile_between, Cursor.past, Number.digitCount, take_length_takeWhile,
      drop_length_takeWhile]
  have fraction : ∀ point rest, (if point != 0 then 0 else Number.fractionLength forms rest) =
      if point = 0 then Number.fractionLength forms rest else 0 := by
    intro point rest
    by_cases zero : point = 0 <;> simp [zero]
  rw [passDecimal, digits, Number.decimalLength]
  simp only [Option.bind_eq_bind, Option.bind_some, Cursor.past, passPoint_between,
    passFraction_between, passExponent_between, passUnit_between, fraction, List.drop_drop,
    List.append_assoc, ← List.take_add]

theorem radix_between : radix forms (.between before after) =
    some (Number.radix? forms after) := by
  rw [radix, Cursor.peek_between, Cursor.peekNth_between]
  unfold Number.radix?
  split
  · simp
  · rename_i other
    match after with
    | [] => simp
    | [c] => simp
    | c :: letter :: rest =>
      have apart : c ≠ '0' := by
        rintro rfl
        exact other letter rest rfl
      simp [apart]

theorem passUnsigned_between : passUnsigned forms (.between before after) =
    some (.past before after (Number.unsignedLength forms after)) := by
  rw [passUnsigned, radix_between, Number.unsignedLength]
  cases chosen : Number.radix? forms after with
  | none => exact passDecimal_between before after
  | some base =>
    obtain ⟨letter, rest, rfl, _⟩ := Number.radix?_eq_some.mp chosen
    have passed := past_append_takeWhile before Char.isAlphanum ['0', letter] rest
    simpa using passed.symm

/-- The length of a number is found, and it is the length in bytes of the characters that the number
has. -/
theorem number_eq (text : List Char) : number forms text =
    some ((Number.length? forms text).map fun n => Text.byteLength (text.take n)) := by
  cases text with
  | nil => rfl
  | cons c rest =>
    rw [number, Cursor.ofText_eq, Cursor.peek_between, Number.length?, startsWithDigit_eq]
    simp only [Option.bind_eq_bind, Option.bind_some, List.head?_cons, Cursor.digitAt_between,
      Cursor.bump_cons, passUnsigned_between, List.getElem?_cons_succ]
    split
    · split
      · have nonempty : [] ++ [c] ++ rest.take (Number.unsignedLength forms rest) ≠ [] := by simp
        rw [Cursor.past, Cursor.finish_between _ nonempty, Option.map_some, Nat.add_comm,
          List.take_succ_cons]
        rfl
      · rfl
    · split
      · rename_i digit
        have covered := (@Number.unsigned_take forms (c :: rest) digit).length.1
        obtain ⟨first, left, split, _⟩ := Number.startsWithDigit_iff.mp covered
        have nonempty : [] ++ (c :: rest).take (Number.unsignedLength forms (c :: rest)) ≠ [] := by
          rw [List.nil_append, split]
          exact List.cons_ne_nil _ _
        rw [Cursor.past, Cursor.finish_between _ nonempty]
        rfl
      · rfl

/-- The digits behind the letter of a base start at a character, since the zero and the letter take
one byte each. -/
theorem behind?_of_radix {text : List Char} {base : Radix}
    (chosen : Number.radix? forms text = some base) : Text.behind? text 2 = some (text.drop 2) := by
  obtain ⟨letter, rest, rfl, isLetter⟩ := Number.radix?_eq_some.mp chosen
  have narrow : letter.utf8Size = 1 := by
    have one : ∀ other : Char, other.utf8Size = 1 → (letter == other) = true →
        letter.utf8Size = 1 := fun other size same => by rw [eq_of_beq same, size]
    rw [Radix.ofLetter?] at isLetter
    split at isLetter
    · rename_i hex
      exact (Bool.or_eq_true_iff.mp hex).elim (one 'x' rfl) (one 'X' rfl)
    split at isLetter
    · rename_i octal
      exact (Bool.or_eq_true_iff.mp octal).elim (one 'o' rfl) (one 'O' rfl)
    split at isLetter
    · rename_i binary
      exact (Bool.or_eq_true_iff.mp binary).elim (one 'b' rfl) (one 'B' rfl)
    · cases isLetter
  have width : Text.byteLength ['0', letter] = 2 := by
    rw [Text.byteLength_cons, Text.byteLength_cons, narrow]
    rfl
  have behind := Text.behind?_append ['0', letter] rest
  rwa [width] at behind

/-- The form of a number is found, whatever the text is. -/
theorem numberForm_eq (text : List Char) :
    numberForm forms text = some (NumberForm.ofText? forms text) := by
  have whole : ((Number.length? forms text).map fun n => Text.byteLength (text.take n)) =
      some (Text.byteLength text) ↔ Number.length? forms text = some text.length := by
    cases length : Number.length? forms text with
    | none => simp
    | some n =>
      simp only [Option.map_some, Option.some.injEq]
      exact byteLength_take_eq_iff (Number.length?_le length)
  rw [numberForm, number_eq, NumberForm.ofText?]
  simp only [Option.bind_eq_bind, Option.bind_some, beq_iff_eq, whole]
  split
  · cases chosen : Number.radix? forms (NumberForm.body forms text) with
    | some base =>
      simp only [behind?_of_radix chosen]
      rfl
    | none =>
      dsimp only
      rw [← apply_ite some, ← apply_ite some, ← apply_ite some, ← apply_ite some]
      rfl
  · rfl

end ProfileLexer.Guarded
