import ProfileLexer.Proofs.Number.Grammar

/-!
The form of a number. The numbers of a language are spelled out part by part, and each has one form:
the base that its letter selects, or else what the last of its optional parts says. A text has a
form exactly when it is such a number from end to end.
-/

namespace ProfileLexer

variable {forms : NumberForms}

namespace Radix

variable {base : Radix}

/-- Whether a language has the numbers of a base. -/
def isEnabled (forms : NumberForms) : Radix → Bool
  | hex => forms.hex
  | octal => forms.octal
  | binary => forms.binary

def letters : Radix → List Char
  | hex => ['x', 'X']
  | octal => ['o', 'O']
  | binary => ['b', 'B']

/-- The digits of a base, with small letters and with capital ones. -/
def digits (base : Radix) : List Char :=
  "0123456789abcdef".toList.take base.base ++ "0123456789ABCDEF".toList.take base.base

theorem ofLetter?_eq_some {letter : Char} : ofLetter? forms letter = some base ↔
    base.isEnabled forms = true ∧ letter ∈ base.letters := by
  unfold ofLetter?
  cases base <;> simp only [isEnabled, letters, List.mem_cons, List.not_mem_nil, or_false] <;> grind

theorem toNat_lt_of_isDigit {c : Char} (digit : base.isDigit c = true) : c.toNat < 128 := by
  cases base <;>
    simp only [isDigit, Char.isDigit, Bool.or_eq_true, Bool.and_eq_true, decide_eq_true_eq,
      beq_iff_eq, Char.le_def, UInt32.le_iff_toNat_le] at digit
  · change c.val.toNat < 128
    rcases digit with (digit | small) | capital
    · exact Nat.lt_of_le_of_lt digit.2 (by decide)
    · exact Nat.lt_of_le_of_lt small.2 (by decide)
    · exact Nat.lt_of_le_of_lt capital.2 (by decide)
  · exact Nat.lt_of_le_of_lt digit.2 (by decide)
  · rcases digit with rfl | rfl <;> decide

/-- The digits of a base are the listed ones, letters in both cases among them. -/
theorem isDigit_iff {c : Char} : base.isDigit c = true ↔ c ∈ base.digits := by
  have listed : ∀ code < 128,
      (base.isDigit (Char.ofNat code) = true ↔ Char.ofNat code ∈ base.digits) := by
    cases base <;> decide +kernel
  have small : (base.digits.all fun c => c.toNat < 128) = true := by
    cases base <;> decide +kernel
  by_cases ascii : c.toNat < 128
  · rw [← Char.ofNat_toNat c]
    exact listed c.toNat ascii
  · exact iff_of_false (fun digit => ascii (toNat_lt_of_isDigit digit))
      (fun member => ascii (of_decide_eq_true (List.all_eq_true.mp small c member)))

theorem isAlphanum_of_isDigit {c : Char} (digit : base.isDigit c = true) :
    c.isAlphanum = true := by
  have listed : base.digits.all Char.isAlphanum = true := by
    cases base <;> decide +kernel
  exact List.all_eq_true.mp listed c (isDigit_iff.mp digit)

end Radix

namespace Number

/-- What may stand between the first digits and a power of ten: a point and perhaps digits, or a
slash and digits. A point and a slash do not come together. -/
inductive Middle (forms : NumberForms) : List Char → Prop
  | none : Middle forms []
  | point {digits : List Char} : digits.all Char.isDigit = true → Middle forms ('.' :: digits)
  | slash {digits : List Char} : forms.fractions = true → Digits digits →
      Middle forms ('/' :: digits)

/-- Perhaps a power of ten: its mark, perhaps a sign, and digits. The mark without digits is
none. -/
inductive Power (forms : NumberForms) : List Char → Prop
  | none : Power forms []
  | power {mark : Char} {sign digits : List Char} : forms.exponent = true →
      isExponentMark mark = true → Sign sign → Digits digits → Power forms (mark :: (sign ++ digits))

/-- The form of a number in base ten, which is that of the last of its optional parts. -/
def formOf (middle power unit : List Char) : NumberForm :=
  if unit ≠ [] then .complex
  else if power ≠ [] then .exponent
  else if middle.head? = some '/' then .fraction
  else if middle.head? = some '.' then .decimal
  else .integer

/-- The numbers of a language, by their form. Nothing in this says how a number is scanned or how
its form is found out. -/
inductive Numeral (forms : NumberForms) : NumberForm → List Char → Prop
  | based {base : Radix} {sign digits : List Char} {letter : Char} : Sign sign →
      (sign ≠ [] → forms.signed = true) → base.isEnabled forms = true → letter ∈ base.letters →
      digits ≠ [] → (∀ c ∈ digits, c ∈ base.digits) →
      Numeral forms (.radix base) (sign ++ '0' :: letter :: digits)
  | decimal {sign whole middle power unit : List Char} : Sign sign →
      (sign ≠ [] → forms.signed = true) → Digits whole → Middle forms middle →
      Power forms power → Unit forms unit →
      Numeral forms (formOf middle power unit) (sign ++ (whole ++ (middle ++ (power ++ unit))))

theorem Scale.iff_parts {text : List Char} : Scale forms text ↔
    ∃ power unit, text = power ++ unit ∧ Power forms power ∧ Unit forms unit := by
  constructor
  · rintro (unit | ⟨exponent, isMark, isSign, isDigits, unit⟩)
    · exact ⟨[], text, rfl, .none, unit⟩
    · exact ⟨_, _, by simp, .power exponent isMark isSign isDigits, unit⟩
  · rintro ⟨_, _, rfl, none | ⟨exponent, isMark, isSign, isDigits⟩, unit⟩
    · exact .unit unit
    · have power := Scale.power exponent isMark isSign isDigits unit
      simpa using power

theorem Tail.iff_parts {text : List Char} : Tail forms text ↔
    ∃ middle scale, text = middle ++ scale ∧ Middle forms middle ∧ Scale forms scale := by
  constructor
  · rintro (scale | ⟨isDigits, scale⟩ | ⟨fractions, isDigits, scale⟩)
    · exact ⟨[], text, rfl, .none, scale⟩
    · exact ⟨_, _, rfl, .point isDigits, scale⟩
    · exact ⟨_, _, rfl, .slash fractions isDigits, scale⟩
  · rintro ⟨_, _, rfl, none | isDigits | ⟨fractions, isDigits⟩, scale⟩
    · exact .scale scale
    · exact .point isDigits scale
    · exact .fraction fractions isDigits scale

/-- A number in base ten, part by part. The grammar of the scan groups the same parts in another
way. -/
theorem Decimal.iff_parts {text : List Char} : Decimal forms text ↔
    ∃ whole middle power unit, text = whole ++ (middle ++ (power ++ unit)) ∧ Digits whole ∧
      Middle forms middle ∧ Power forms power ∧ Unit forms unit := by
  constructor
  · rintro ⟨isDigits, tail⟩
    obtain ⟨middle, _, rfl, isMiddle, scale⟩ := Tail.iff_parts.mp tail
    obtain ⟨power, unit, rfl, isPower, isUnit⟩ := Scale.iff_parts.mp scale
    exact ⟨_, middle, power, unit, rfl, isDigits, isMiddle, isPower, isUnit⟩
  · rintro ⟨whole, middle, power, unit, rfl, isDigits, isMiddle, isPower, isUnit⟩
    exact .mk isDigits (Tail.iff_parts.mpr
      ⟨_, _, rfl, isMiddle, Scale.iff_parts.mpr ⟨_, _, rfl, isPower, isUnit⟩⟩)

section

variable {whole middle power unit : List Char}

theorem not_mem_of_digits {digits : List Char} {c : Char} (isDigits : digits.all Char.isDigit = true)
    (noDigit : c.isDigit = false) : c ∉ digits := by
  intro member
  rw [List.all_eq_true.mp isDigits c member] at noDigit
  cases noDigit

theorem Middle.of_mem (isMiddle : Middle forms middle) {c : Char} (member : c ∈ middle) :
    c.isDigit = true ∨ c = '.' ∨ c = '/' := by
  cases isMiddle with
  | none => cases member
  | point isDigits =>
    rcases List.mem_cons.mp member with rfl | digit
    · exact .inr (.inl rfl)
    · exact .inl (List.all_eq_true.mp isDigits c digit)
  | slash _ isDigits =>
    rcases List.mem_cons.mp member with rfl | digit
    · exact .inr (.inr rfl)
    · exact .inl (List.all_eq_true.mp isDigits.2 c digit)

theorem Power.of_mem (isPower : Power forms power) {c : Char} (member : c ∈ power) :
    c.isDigit = true ∨ isSign c = true ∨ isExponentMark c = true := by
  cases isPower with
  | none => cases member
  | power _ isMark isSign isDigits =>
    rcases List.mem_cons.mp member with rfl | member
    · exact .inr (.inr isMark)
    rcases List.mem_append.mp member with inSign | digit
    · rcases isSign with rfl | ⟨sign, isSign, rfl⟩
      · cases inSign
      · rw [List.mem_singleton.mp inSign]
        exact .inr (.inl isSign)
    · exact .inl (List.all_eq_true.mp isDigits.2 c digit)

/-- Only the unit ends a number with its letter, so the last character decides on it. -/
theorem getLast?_parts (isDigits : Digits whole) (isMiddle : Middle forms middle)
    (isPower : Power forms power) (isUnit : Unit forms unit) :
    (forms.complex && (whole ++ (middle ++ (power ++ unit))).getLast? == some 'i') = true ↔
      unit ≠ [] := by
  rcases isUnit with rfl | ⟨complex, rfl⟩
  · refine iff_of_false (fun ends => ?_) (fun nonempty => nonempty rfl)
    have last := List.mem_of_getLast? (eq_of_beq (Bool.and_eq_true_iff.mp ends).2)
    rw [List.append_nil, List.mem_append, List.mem_append] at last
    rcases last with inWhole | inMiddle | inPower
    · exact not_mem_of_digits isDigits.2 rfl inWhole
    · exact absurd (isMiddle.of_mem inMiddle) (by decide)
    · exact absurd (isPower.of_mem inPower) (by decide)
  · simp [complex, ← List.append_assoc]

/-- Only a power of ten has the mark of one. In a base its letter could be a digit, which is why
bases are looked at first. -/
theorem any_isExponentMark_parts (isDigits : Digits whole) (isMiddle : Middle forms middle)
    (isPower : Power forms power) (isUnit : Unit forms unit) :
    (forms.exponent && (whole ++ (middle ++ (power ++ unit))).any isExponentMark) = true ↔
      power ≠ [] := by
  have noMark : ∀ c, c.isDigit = true ∨ c = '.' ∨ c = '/' → ¬ isExponentMark c = true := by
    rintro c (digit | rfl | rfl) mark
    · rw [isDigit_eq_false_of_isExponentMark mark] at digit
      cases digit
    · cases mark
    · cases mark
  have inWhole : whole.any isExponentMark = false :=
    List.any_eq_false.mpr fun c member =>
      noMark c (.inl (List.all_eq_true.mp isDigits.2 c member))
  have inMiddle : middle.any isExponentMark = false :=
    List.any_eq_false.mpr fun c member => noMark c (isMiddle.of_mem member)
  have inUnit : unit.any isExponentMark = false := by
    rcases isUnit with rfl | ⟨_, rfl⟩ <;> rfl
  rw [List.any_append, List.any_append, List.any_append, inWhole, inMiddle, inUnit]
  cases isPower with
  | none => simp
  | power exponent isMark => simp [exponent, isMark]

/-- The form that is read off a text is the form of its parts, though it looks at single characters
and at no part as a whole. -/
theorem form_of_parts (isDigits : Digits whole) (isMiddle : Middle forms middle)
    (isPower : Power forms power) (isUnit : Unit forms unit) :
    let body := whole ++ (middle ++ (power ++ unit))
    (if forms.complex && body.getLast? == some 'i' then some NumberForm.complex
      else if forms.exponent && body.any isExponentMark then some .exponent
      else if body.contains '/' then some .fraction
      else if body.contains '.' then some .decimal
      else some .integer) = some (formOf middle power unit) := by
  dsimp only
  rw [formOf]
  simp only [getLast?_parts isDigits isMiddle isPower isUnit,
    any_isExponentMark_parts isDigits isMiddle isPower isUnit]
  by_cases noUnit : unit = []
  · by_cases noPower : power = []
    · have noSlash : '/' ∉ whole := not_mem_of_digits isDigits.2 rfl
      have noPoint : '.' ∉ whole := not_mem_of_digits isDigits.2 rfl
      cases isMiddle with
      | none => simp [noUnit, noPower, noSlash, noPoint]
      | @point digits isDigits =>
        have noSlash' : '/' ∉ digits := not_mem_of_digits isDigits rfl
        simp [noUnit, noPower, noSlash, noSlash']
      | slash => simp [noUnit, noPower]
    · simp only [noUnit, ne_eq, not_true_eq_false, if_false, noPower, not_false_eq_true, if_true]
  · simp only [ne_eq, noUnit, not_false_eq_true, if_true]

/-- No letter of a base occurs in a number in base ten, so no such number is taken for one of a
base. -/
theorem Decimal.radix?_eq_none {text : List Char} (decimal : Decimal forms text) :
    radix? forms text = none := by
  rw [Option.eq_none_iff_forall_ne_some]
  intro base found
  obtain ⟨letter, rest, split, chosen⟩ := radix?_eq_some.mp found
  obtain ⟨whole, middle, power, unit, rfl, isDigits, isMiddle, isPower, isUnit⟩ :=
    Decimal.iff_parts.mp decimal
  have foreign : (base.letters.all fun c => ¬(c.isDigit = true ∨ c = '.' ∨ c = '/') ∧
      ¬(c.isDigit = true ∨ isSign c = true ∨ isExponentMark c = true) ∧ c ≠ 'i') = true := by
    cases base <;> decide
  obtain ⟨noMiddle, noPower, noUnit⟩ := of_decide_eq_true
    (List.all_eq_true.mp foreign letter (Radix.ofLetter?_eq_some.mp chosen).2)
  have member : letter ∈ whole ++ (middle ++ (power ++ unit)) := by
    rw [split]
    exact List.mem_cons_of_mem _ List.mem_cons_self
  rw [List.mem_append, List.mem_append, List.mem_append] at member
  rcases member with inWhole | inMiddle | inPower | inUnit
  · exact noMiddle (.inl (List.all_eq_true.mp isDigits.2 letter inWhole))
  · exact noMiddle (isMiddle.of_mem inMiddle)
  · exact noPower (isPower.of_mem inPower)
  · rcases isUnit with rfl | ⟨_, rfl⟩
    · cases inUnit
    · exact noUnit (List.mem_singleton.mp inUnit)

end

/-- A numeral has its form: the scan covers all of it, and the form is that of its parts. -/
theorem Numeral.ofText? {form : NumberForm} {text : List Char} (numeral : Numeral forms form text) :
    NumberForm.ofText? forms text = some form := by
  cases numeral with
  | @based base sign digits letter isSign signed enabled isLetter nonempty inBase =>
    have chosen := Radix.ofLetter?_eq_some.mpr ⟨enabled, isLetter⟩
    have isDigits : ∀ c ∈ digits, base.isDigit c = true := fun c member =>
      Radix.isDigit_iff.mpr (inBase c member)
    have run : digits.all Char.isAlphanum = true :=
      List.all_eq_true.mpr fun c member => Radix.isAlphanum_of_isDigit (isDigits c member)
    have unsigned : Unsigned forms (some base) ('0' :: letter :: digits) := .based (.mk chosen run)
    obtain ⟨length, isBody⟩ := length?_of_unsigned isSign signed unsigned
    obtain ⟨_, hasBase, _⟩ := unsigned.length
    rw [NumberForm.ofText?, if_pos length, isBody]
    dsimp only
    rw [hasBase]
    have all : (!digits.isEmpty && digits.all base.isDigit) = true := by
      simpa [nonempty] using isDigits
    exact if_pos all
  | @decimal sign whole middle power unit isSign signed isDigits isMiddle isPower isUnit =>
    have decimal : Decimal forms (whole ++ (middle ++ (power ++ unit))) :=
      Decimal.iff_parts.mpr ⟨_, _, _, _, rfl, isDigits, isMiddle, isPower, isUnit⟩
    have noBase := decimal.radix?_eq_none
    obtain ⟨length, isBody⟩ := length?_of_unsigned isSign signed (.decimal noBase decimal)
    rw [NumberForm.ofText?, if_pos length, isBody]
    dsimp only
    rw [noBase]
    exact form_of_parts isDigits isMiddle isPower isUnit

/-- What has a form is a number behind its sign, as far as the scan is concerned. -/
theorem exists_unsigned {text : List Char}
    (found : (NumberForm.ofText? forms text).isSome = true) :
    ∃ sign base body, text = sign ++ body ∧ Sign sign ∧ (sign ≠ [] → forms.signed = true) ∧
      Unsigned forms base body := by
  have length : length? forms text = some text.length := by
    rw [NumberForm.ofText?] at found
    split at found
    · assumption
    · cases found
  have covered := length?_take length
  rwa [List.take_length] at covered

/-- What has a form is a numeral of some form. Which one it is follows from the other direction. -/
theorem exists_numeral {text : List Char}
    (found : (NumberForm.ofText? forms text).isSome = true) : ∃ form, Numeral forms form text := by
  obtain ⟨sign, base, body, rfl, isSign, signed, unsigned⟩ := exists_unsigned found
  cases unsigned with
  | decimal _ decimal =>
    obtain ⟨whole, middle, power, unit, rfl, isDigits, isMiddle, isPower, isUnit⟩ :=
      Decimal.iff_parts.mp decimal
    exact ⟨_, .decimal isSign signed isDigits isMiddle isPower isUnit⟩
  | @based base _ based =>
    have inBase := ofText?_isSome isSign signed (.based based)
    rw [found] at inBase
    cases based with
    | @mk letter digits chosen run =>
      obtain ⟨enabled, isLetter⟩ := Radix.ofLetter?_eq_some.mp chosen
      have digits : digits ≠ [] ∧ ∀ c ∈ digits, base.isDigit c = true := by
        simpa [Number.inBase] using inBase.symm
      exact ⟨_, .based isSign signed enabled isLetter digits.1 fun c member =>
        Radix.isDigit_iff.mp (digits.2 c member)⟩

end Number

/-- A text has a form exactly when it is a numeral of that form: perhaps a sign, in a language that
has signs, and behind it either a zero, the letter of a base that the language has and digits of the
base, or digits, perhaps a point with any digits or a slash with digits, perhaps a power of ten, and
perhaps an imaginary unit. Nothing is assumed of the text or of the language. -/
theorem NumberForm.ofText?_eq_some_iff {form : NumberForm} {text : List Char} :
    ofText? forms text = some form ↔ Number.Numeral forms form text := by
  constructor
  · intro found
    obtain ⟨other, numeral⟩ := Number.exists_numeral (Option.isSome_of_eq_some found)
    have same := numeral.ofText?
    rw [found, Option.some.injEq] at same
    rw [same]
    exact numeral
  · exact Number.Numeral.ofText?

/-- Behind the letter of a base an `e` is a digit: no power follows, and no sign. -/
example :
    let forms : NumberForms := { (default : NumberForms) with hex := true, exponent := true }
    NumberForm.ofText? forms "0x1e5".toList = some (.radix .hex) ∧
      NumberForm.ofText? forms "0x1e+5".toList = none ∧
      NumberForm.ofText? forms "01e+5".toList = some .exponent := by
  decide +kernel

end ProfileLexer
