import Mathlib.Data.List.TakeWhile
import Mathlib.Tactic.SplitIfs
import ProfileLexer.Number.Basic

/-!
The grammar of numbers. What a number scan covers is a number of the grammar, and of such a number a
scan covers all.
-/

namespace ProfileLexer

namespace Number

variable (forms : NumberForms)

def Digits (text : List Char) : Prop :=
  text ≠ [] ∧ text.all Char.isDigit = true

/-- Perhaps an imaginary unit, in a language that has complex numbers. -/
def Unit (text : List Char) : Prop :=
  text = [] ∨ forms.complex = true ∧ text = ['i']

/-- Perhaps a sign. Whether the language has signs is asked elsewhere. -/
def Sign (text : List Char) : Prop :=
  text = [] ∨ ∃ sign, isSign sign = true ∧ text = [sign]

/-- Perhaps a power of ten, and perhaps an imaginary unit behind it. -/
inductive Scale : List Char → Prop
  | unit {text : List Char} : Unit forms text → Scale text
  | power {mark : Char} {sign digits text : List Char} : forms.exponent = true →
      isExponentMark mark = true → Sign sign → Digits digits → Unit forms text →
      Scale (mark :: (sign ++ (digits ++ text)))

/-- What may stand behind the first digits of a number in base ten. The parts are nested as the scan
looks for them. -/
inductive Tail : List Char → Prop
  | scale {text : List Char} : Scale forms text → Tail text
  | point {digits text : List Char} : digits.all Char.isDigit = true → Scale forms text →
      Tail ('.' :: (digits ++ text))
  | fraction {digits text : List Char} : forms.fractions = true → Digits digits →
      Scale forms text → Tail ('/' :: (digits ++ text))

/-- A number in base ten without a sign. It begins with a digit, never with a point. -/
inductive Decimal : List Char → Prop
  | mk {digits text : List Char} : Digits digits → Tail forms text → Decimal (digits ++ text)

variable {forms}

theorem digits_takeWhile {text : List Char} (digit : startsWithDigit text = true) :
    Digits (text.takeWhile Char.isDigit) := by
  refine ⟨?_, List.all_takeWhile⟩
  cases text with
  | nil => cases digit
  | cons c text =>
    have first : c.isDigit = true := digit
    rw [List.takeWhile_cons, if_pos first]
    exact List.cons_ne_nil _ _

theorem isDigit_eq_false_of_isSign {c : Char} (sign : isSign c = true) : c.isDigit = false := by
  rcases Bool.or_eq_true_iff.mp sign with plus | minus
  · rw [eq_of_beq plus]
    rfl
  · rw [eq_of_beq minus]
    rfl

theorem isDigit_eq_false_of_isExponentMark {c : Char} (mark : isExponentMark c = true) :
    c.isDigit = false := by
  rcases Bool.or_eq_true_iff.mp mark with small | capital
  · rw [eq_of_beq small]
    rfl
  · rw [eq_of_beq capital]
    rfl

theorem isDigit_eq_false_of_ofLetter? {c : Char} {base : Radix}
    (chosen : Radix.ofLetter? forms c = some base) : c.isDigit = false := by
  have apart : ∀ letter : Char, letter.isDigit = false → (c == letter) = true → c.isDigit = false :=
    fun letter noDigit same => by rw [eq_of_beq same, noDigit]
  rw [Radix.ofLetter?] at chosen
  split at chosen
  · rename_i hex
    exact (Bool.or_eq_true_iff.mp hex).elim (apart 'x' rfl) (apart 'X' rfl)
  split at chosen
  · rename_i octal
    exact (Bool.or_eq_true_iff.mp octal).elim (apart 'o' rfl) (apart 'O' rfl)
  split at chosen
  · rename_i binary
    exact (Bool.or_eq_true_iff.mp binary).elim (apart 'b' rfl) (apart 'B' rfl)
  · cases chosen

theorem isSign_eq_false_of_isDigit {c : Char} (digit : c.isDigit = true) : isSign c = false := by
  rw [Bool.eq_false_iff]
  intro sign
  rw [isDigit_eq_false_of_isSign sign] at digit
  cases digit

theorem startsWithDigit_iff {text : List Char} :
    startsWithDigit text = true ↔ ∃ c rest, text = c :: rest ∧ c.isDigit = true := by
  cases text with
  | nil => simp [startsWithDigit]
  | cons c rest => simp [startsWithDigit]

/-- The digits at the start of a text with what is behind them, as many as there are. -/
theorem exists_digits {text : List Char} (digit : startsWithDigit text = true) :
    ∃ digits rest, text = digits ++ rest ∧ Digits digits ∧ digitCount text = digits.length :=
  ⟨_, _, List.takeWhile_append_dropWhile.symm, digits_takeWhile digit, rfl⟩

theorem unit_take (text : List Char) : Unit forms (text.take (unitLength forms text)) := by
  unfold unitLength
  split
  · dsimp only
    split_ifs with present
    · rw [Bool.and_eq_true] at present
      exact .inr ⟨present.1, rfl⟩
    · exact .inl rfl
  · exact .inl rfl

/-- A power of ten at the start of a text, if there is one. Without digits behind its mark there is
none. -/
theorem exponentLength_cases (text : List Char) : exponentLength forms text = 0 ∨
    ∃ mark sign digits rest, text = mark :: (sign ++ (digits ++ rest)) ∧
      forms.exponent = true ∧ isExponentMark mark = true ∧ Sign sign ∧ Digits digits ∧
      exponentLength forms text = 1 + sign.length + digits.length := by
  match text with
  | [] => exact .inl rfl
  | [mark] => exact .inl (by simp [exponentLength])
  | mark :: next :: text =>
    rw [exponentLength]
    split
    · rename_i marks
      rw [Bool.and_eq_true] at marks
      split
      · rename_i signs
        split
        · rename_i digit
          obtain ⟨digits, rest, rfl, isDigits, count⟩ := exists_digits digit
          refine .inr ⟨mark, [next], digits, rest, rfl, marks.1, marks.2, .inr ⟨next, signs, rfl⟩,
            isDigits, ?_⟩
          rw [count, List.length_singleton]
        · exact .inl rfl
      · split
        · rename_i digit
          obtain ⟨digits, rest, split, isDigits, count⟩ :=
            @exists_digits (next :: text) digit
          refine .inr ⟨mark, [], digits, rest, by rw [split, List.nil_append], marks.1, marks.2,
            .inl rfl, isDigits, ?_⟩
          rw [count, List.length_nil, Nat.add_zero]
        · exact .inl rfl
    · exact .inl rfl

theorem scale_take (text : List Char) :
    Scale forms (text.take (exponentLength forms text +
      unitLength forms (text.drop (exponentLength forms text)))) := by
  rcases @exponentLength_cases forms text with zero |
      ⟨mark, sign, digits, rest, rfl, exponent, isMark, isSign, isDigits, length⟩
  · rw [zero, Nat.zero_add]
    exact .unit (unit_take text)
  · have width : 1 + sign.length + digits.length = (mark :: (sign ++ digits)).length := by
      simp only [List.length_cons, List.length_append]
      omega
    have split : mark :: (sign ++ (digits ++ rest)) = mark :: (sign ++ digits) ++ rest := by simp
    rw [length, width, split, List.drop_left, List.take_length_add_append, List.cons_append,
      List.append_assoc]
    exact .power exponent isMark isSign isDigits (unit_take rest)

/-- How much a scan covers behind the first digits, added up over the parts that may follow. -/
def tailLength (forms : NumberForms) (text : List Char) : Nat :=
  let point := pointLength text
  let rest := text.drop point
  let fraction := if point = 0 then fractionLength forms rest else 0
  let rest := rest.drop fraction
  let exponent := exponentLength forms rest
  point + (fraction + (exponent + unitLength forms (rest.drop exponent)))

theorem decimalLength_eq (text : List Char) : decimalLength forms text =
    digitCount text + tailLength forms (text.drop (digitCount text)) := by
  rw [decimalLength, tailLength]
  simp only [Nat.add_assoc]

theorem pointLength_cases (text : List Char) : pointLength text = 0 ∨
    ∃ digits rest, text = '.' :: (digits ++ rest) ∧ digits.all Char.isDigit = true ∧
      pointLength text = 1 + digits.length := by
  unfold pointLength
  split
  · rename_i rest
    exact .inr ⟨_, _, congrArg _ List.takeWhile_append_dropWhile.symm, List.all_takeWhile, rfl⟩
  · exact .inl rfl

theorem fractionLength_cases (text : List Char) : fractionLength forms text = 0 ∨
    ∃ digits rest, text = '/' :: (digits ++ rest) ∧ forms.fractions = true ∧ Digits digits ∧
      fractionLength forms text = 1 + digits.length := by
  unfold fractionLength
  split
  · split_ifs with present
    · rw [Bool.and_eq_true] at present
      obtain ⟨digits, rest, split, isDigits, count⟩ := exists_digits present.2
      exact .inr ⟨digits, rest, by rw [split], present.1, isDigits, by rw [count]⟩
    · exact .inl rfl
  · exact .inl rfl

theorem take_cons_append (c : Char) (digits rest : List Char) (n : Nat) :
    (c :: (digits ++ rest)).take (1 + digits.length + n) = c :: (digits ++ rest.take n) := by
  rw [Nat.add_assoc, Nat.add_comm 1, List.take_succ_cons, List.take_length_add_append]

theorem drop_cons_append (c : Char) (digits rest : List Char) :
    (c :: (digits ++ rest)).drop (1 + digits.length) = rest := by
  rw [Nat.add_comm, List.drop_succ_cons, List.drop_left]

theorem tail_take (text : List Char) : Tail forms (text.take (tailLength forms text)) := by
  rw [tailLength]
  rcases pointLength_cases text with point | ⟨digits, rest, rfl, isDigits, point⟩
  · rw [point, if_pos rfl, List.drop_zero, Nat.zero_add]
    rcases @fractionLength_cases forms text with
      fraction | ⟨digits, rest, rfl, fractions, isDigits, fraction⟩
    · rw [fraction, List.drop_zero, Nat.zero_add]
      exact .scale (scale_take text)
    · rw [fraction, drop_cons_append, take_cons_append]
      exact .fraction fractions isDigits (scale_take rest)
  · rw [point, if_neg (by omega), drop_cons_append, List.drop_zero, Nat.zero_add, take_cons_append]
    exact .point isDigits (scale_take rest)

/-- A text from its first digit on, up to where a scan ends, is a number in base ten. What is behind
it may be anything. -/
theorem decimal_take {text : List Char} (digit : startsWithDigit text = true) :
    Decimal forms (text.take (decimalLength forms text)) := by
  obtain ⟨digits, rest, rfl, isDigits, count⟩ := exists_digits digit
  rw [decimalLength_eq, count, List.drop_left, List.take_length_add_append]
  exact .mk isDigits (tail_take rest)

theorem digitCount_append {digits rest : List Char} (isDigits : digits.all Char.isDigit = true)
    (ends : startsWithDigit rest = false) : digitCount (digits ++ rest) = digits.length := by
  have none_left : rest.takeWhile Char.isDigit = [] := by
    cases rest with
    | nil => rfl
    | cons c rest => exact List.takeWhile_cons_of_neg (Bool.eq_false_iff.mp ends)
  rw [digitCount, List.takeWhile_append_of_pos (by simpa using isDigits), none_left,
    List.append_nil]

theorem Unit.length {text : List Char} (unit : Unit forms text) :
    startsWithDigit text = false ∧ exponentLength forms text = 0 ∧
      unitLength forms text = text.length := by
  rcases unit with rfl | ⟨complex, rfl⟩
  · exact ⟨rfl, rfl, rfl⟩
  · refine ⟨rfl, ?_, ?_⟩
    · simp [exponentLength, isExponentMark]
    · simp [unitLength, complex]

theorem Digits.startsWithDigit {digits : List Char} (isDigits : Digits digits) (rest : List Char) :
    startsWithDigit (digits ++ rest) = true := by
  obtain ⟨some_digits, all⟩ := isDigits
  cases digits with
  | nil => exact absurd rfl some_digits
  | cons c digits =>
    rw [List.all_cons, Bool.and_eq_true] at all
    exact all.1

theorem exponentLength_of_power {mark : Char} {sign digits text : List Char}
    (exponent : forms.exponent = true) (isMark : isExponentMark mark = true) (isSign : Sign sign)
    (isDigits : Digits digits) (ends : startsWithDigit text = false) :
    exponentLength forms (mark :: (sign ++ (digits ++ text))) = 1 + sign.length + digits.length := by
  have count := digitCount_append isDigits.2 ends
  have starts := isDigits.startsWithDigit text
  rcases isSign with rfl | ⟨c, isSign, rfl⟩
  · obtain ⟨first, rest, split, digit⟩ := startsWithDigit_iff.mp starts
    rw [List.nil_append]
    rw [split] at count ⊢
    simp [exponentLength, exponent, isMark, isSign_eq_false_of_isDigit digit, digit, count]
  · simp [exponentLength, exponent, isMark, isSign, starts, count]

theorem Scale.length {text : List Char} (scale : Scale forms text) :
    startsWithDigit text = false ∧
      exponentLength forms text + unitLength forms (text.drop (exponentLength forms text)) =
        text.length := by
  cases scale with
  | unit unit =>
    obtain ⟨ends, zero, length⟩ := unit.length
    exact ⟨ends, by rw [zero, List.drop_zero, Nat.zero_add, length]⟩
  | @power mark sign digits text exponent isMark isSign isDigits unit =>
    obtain ⟨ends, _, length⟩ := unit.length
    refine ⟨isDigit_eq_false_of_isExponentMark isMark, ?_⟩
    have width : 1 + sign.length + digits.length = (mark :: (sign ++ digits)).length := by
      simp only [List.length_cons, List.length_append]
      omega
    have split : mark :: (sign ++ (digits ++ text)) = mark :: (sign ++ digits) ++ text := by simp
    rw [exponentLength_of_power exponent isMark isSign isDigits ends, width, split, List.drop_left,
      length, List.length_append]

/-- What follows digits in a number starts with no decimal point and no slash, unless it is the
point or the slash of the number. So a scan finds the parts that the number is made of. -/
theorem Scale.pointLength {text : List Char} (scale : Scale forms text) :
    pointLength text = 0 ∧ fractionLength forms text = 0 := by
  cases scale with
  | unit unit => rcases unit with rfl | ⟨_, rfl⟩ <;> exact ⟨rfl, rfl⟩
  | power _ isMark =>
    rcases Bool.or_eq_true_iff.mp isMark with small | capital
    · rw [eq_of_beq small]
      exact ⟨rfl, rfl⟩
    · rw [eq_of_beq capital]
      exact ⟨rfl, rfl⟩

theorem Tail.length {text : List Char} (tail : Tail forms text) :
    startsWithDigit text = false ∧ tailLength forms text = text.length := by
  cases tail with
  | scale scale =>
    obtain ⟨ends, length⟩ := scale.length
    obtain ⟨point, fraction⟩ := scale.pointLength
    refine ⟨ends, ?_⟩
    rw [tailLength, point, if_pos rfl, List.drop_zero, fraction, List.drop_zero, Nat.zero_add,
      Nat.zero_add, length]
  | @point digits text isDigits scale =>
    obtain ⟨ends, length⟩ := scale.length
    have point : Number.pointLength ('.' :: (digits ++ text)) = 1 + digits.length :=
      congrArg (1 + ·) (digitCount_append isDigits ends)
    refine ⟨rfl, ?_⟩
    rw [tailLength, point, if_neg (by omega), drop_cons_append, List.drop_zero, Nat.zero_add, length,
      List.length_cons, List.length_append]
    omega
  | @fraction digits text fractions isDigits scale =>
    obtain ⟨ends, length⟩ := scale.length
    have fraction : fractionLength forms ('/' :: (digits ++ text)) = 1 + digits.length := by
      simp [fractionLength, fractions, isDigits.startsWithDigit text,
        digitCount_append isDigits.2 ends]
    have point : Number.pointLength ('/' :: (digits ++ text)) = 0 := rfl
    refine ⟨rfl, ?_⟩
    rw [tailLength, point, if_pos rfl, List.drop_zero, fraction, drop_cons_append,
      Nat.zero_add, length, List.length_cons, List.length_append]
    omega

/-- A scan covers all of a number, when nothing is behind it. -/
theorem Decimal.length {text : List Char} (decimal : Decimal forms text) :
    startsWithDigit text = true ∧ decimalLength forms text = text.length := by
  obtain ⟨isDigits, tail⟩ := decimal
  obtain ⟨ends, length⟩ := tail.length
  refine ⟨isDigits.startsWithDigit _, ?_⟩
  rw [decimalLength_eq, digitCount_append isDigits.2 ends, List.drop_left, length,
    List.length_append]

/-- A zero, the letter of a base, and letters and digits, whether the base has them or not. This is
what a scan takes; whether it has a form is decided later. -/
inductive Based (forms : NumberForms) (base : Radix) : List Char → Prop
  | mk {letter : Char} {digits : List Char} : Radix.ofLetter? forms letter = some base →
      digits.all Char.isAlphanum = true → Based forms base ('0' :: letter :: digits)

/-- A number without a sign, of a base or of none. A text that could be read in both ways is one of
a base. -/
inductive Unsigned (forms : NumberForms) : Option Radix → List Char → Prop
  | based {base : Radix} {text : List Char} : Based forms base text → Unsigned forms (some base) text
  | decimal {text : List Char} : radix? forms text = none → Decimal forms text →
      Unsigned forms none text

theorem radix?_eq_some {text : List Char} {base : Radix} :
    radix? forms text = some base ↔
      ∃ letter rest, text = '0' :: letter :: rest ∧ Radix.ofLetter? forms letter = some base := by
  unfold radix?
  split
  · simp
  · rename_i other
    simp only [reduceCtorEq, false_iff, not_exists, not_and]
    rintro letter rest rfl
    exact absurd rfl (other letter rest)

theorem radix?_take {text : List Char} (n : Nat) (nothing : radix? forms text = none) :
    radix? forms (text.take n) = none := by
  rw [Option.eq_none_iff_forall_ne_some] at nothing ⊢
  intro base found
  obtain ⟨letter, rest, split, chosen⟩ := radix?_eq_some.mp found
  refine nothing base (radix?_eq_some.mpr ⟨letter, rest ++ text.drop n, ?_, chosen⟩)
  rw [← List.cons_append, ← List.cons_append, ← split, List.take_append_drop]

/-- A text from its first digit on is a number up to where a scan ends, of the base that the scan
has chosen. -/
theorem unsigned_take {text : List Char} (digit : startsWithDigit text = true) :
    Unsigned forms (radix? forms text) (text.take (unsignedLength forms text)) := by
  rw [unsignedLength]
  cases chosen : radix? forms text with
  | none => exact .decimal (radix?_take _ chosen) (decimal_take digit)
  | some base =>
    obtain ⟨letter, rest, rfl, isLetter⟩ := radix?_eq_some.mp chosen
    dsimp only
    rw [Nat.add_comm, List.take_succ_cons, List.take_succ_cons, List.drop_succ_cons,
      List.drop_succ_cons, List.drop_zero]
    refine .based (.mk isLetter ?_)
    rw [(List.prefix_iff_eq_take.mp (List.takeWhile_prefix Char.isAlphanum)).symm]
    exact List.all_takeWhile

theorem Unsigned.length {base : Option Radix} {text : List Char}
    (unsigned : Unsigned forms base text) :
    startsWithDigit text = true ∧ radix? forms text = base ∧
      unsignedLength forms text = text.length := by
  cases unsigned with
  | decimal noBase decimal =>
    obtain ⟨digit, length⟩ := decimal.length
    exact ⟨digit, noBase, by rw [unsignedLength, noBase, length]⟩
  | based based =>
    cases based with
    | @mk letter digits chosen all =>
      have base := radix?_eq_some.mpr ⟨letter, digits, rfl, chosen⟩
      refine ⟨rfl, base, ?_⟩
      have run : digits.takeWhile Char.isAlphanum = digits :=
        List.takeWhile_eq_self_iff.mpr (by simpa using all)
      rw [unsignedLength, base]
      simp only [List.drop_succ_cons, List.drop_zero, run, List.length_cons]
      omega

theorem digitCount_le (text : List Char) : digitCount text ≤ text.length :=
  (List.takeWhile_prefix Char.isDigit).length_le

theorem pointLength_le (text : List Char) : pointLength text ≤ text.length := by
  rcases pointLength_cases text with zero | ⟨digits, rest, rfl, _, length⟩
  · omega
  · rw [length, List.length_cons, List.length_append]
    omega

theorem fractionLength_le (text : List Char) : fractionLength forms text ≤ text.length := by
  rcases @fractionLength_cases forms text with zero | ⟨digits, rest, rfl, _, _, length⟩
  · omega
  · rw [length, List.length_cons, List.length_append]
    omega

theorem exponentLength_le (text : List Char) : exponentLength forms text ≤ text.length := by
  rcases @exponentLength_cases forms text with
    zero | ⟨mark, sign, digits, rest, rfl, _, _, _, _, length⟩
  · omega
  · rw [length, List.length_cons, List.length_append, List.length_append]
    omega

theorem unitLength_le (text : List Char) : unitLength forms text ≤ text.length := by
  unfold unitLength
  split
  · dsimp only
    split_ifs
    · exact Nat.succ_pos _
    · exact Nat.zero_le _
  · exact Nat.zero_le _

/-- The parts of a number lie behind each other in the text, so their lengths add up to no more than
its length. -/
theorem decimalLength_le (text : List Char) : decimalLength forms text ≤ text.length := by
  rw [decimalLength]
  generalize afterDigits : text.drop (digitCount text) = first
  generalize afterPoint : first.drop (pointLength first) = second
  generalize fraction : (if pointLength first = 0 then fractionLength forms second else 0) = width
  generalize afterFraction : second.drop width = third
  generalize afterExponent : third.drop (exponentLength forms third) = fourth
  have digits := digitCount_le text
  have point := pointLength_le first
  have inSecond : width ≤ second.length := by
    rw [← fraction]
    split_ifs
    · exact fractionLength_le second
    · exact Nat.zero_le _
  have exponent := @exponentLength_le forms third
  have unit := @unitLength_le forms fourth
  have lengths := And.intro (congrArg List.length afterDigits) <|
    And.intro (congrArg List.length afterPoint) <|
      And.intro (congrArg List.length afterFraction) (congrArg List.length afterExponent)
  simp only [List.length_drop] at lengths
  omega

theorem unsignedLength_le (text : List Char) : unsignedLength forms text ≤ text.length := by
  rw [unsignedLength]
  split
  · rename_i base chosen
    obtain ⟨letter, rest, rfl, _⟩ := radix?_eq_some.mp chosen
    have run := (List.takeWhile_prefix (l := rest) Char.isAlphanum).length_le
    simp only [List.drop_succ_cons, List.drop_zero, List.length_cons]
    omega
  · exact decimalLength_le text

theorem length?_le {text : List Char} {n : Nat} (found : length? forms text = some n) :
    n ≤ text.length := by
  cases text with
  | nil => cases found
  | cons c rest =>
    rw [length?] at found
    split at found
    · split at found
      · cases found
        have within := @unsignedLength_le forms rest
        rw [List.length_cons]
        omega
      · cases found
    · split at found
      · cases found
        exact unsignedLength_le (c :: rest)
      · cases found

/-- What a number scan covers: perhaps a sign, in a language that has signs, and a number. That the
number has a form is not said. -/
theorem length?_take {text : List Char} {n : Nat} (found : length? forms text = some n) :
    ∃ sign base body, text.take n = sign ++ body ∧ Sign sign ∧ (sign ≠ [] → forms.signed = true) ∧
      Unsigned forms base body := by
  cases text with
  | nil => cases found
  | cons c rest =>
    rw [length?] at found
    split at found
    · rename_i signed
      rw [Bool.and_eq_true] at signed
      split at found
      · rename_i digit
        cases found
        rw [Nat.add_comm, List.take_succ_cons]
        exact ⟨[c], _, _, rfl, .inr ⟨c, signed.2, rfl⟩, fun _ => signed.1, unsigned_take digit⟩
      · cases found
    · split at found
      · rename_i digit
        cases found
        exact ⟨[], _, _, rfl, .inl rfl, fun empty => absurd rfl empty,
          @unsigned_take forms (c :: rest) digit⟩
      · cases found

variable {sign body : List Char} {base : Option Radix}

theorem length?_of_unsigned (isSign : Sign sign) (signed : sign ≠ [] → forms.signed = true)
    (unsigned : Unsigned forms base body) :
    length? forms (sign ++ body) = some (sign ++ body).length ∧
      NumberForm.body forms (sign ++ body) = body := by
  obtain ⟨digit, _, length⟩ := unsigned.length
  obtain ⟨c, rest, rfl, first⟩ := startsWithDigit_iff.mp digit
  rcases isSign with rfl | ⟨mark, isSign, rfl⟩
  · have noSign : (forms.signed && ProfileLexer.isSign c) = false := by
      rw [isSign_eq_false_of_isDigit first, Bool.and_false]
    rw [List.nil_append, length?, NumberForm.body, noSign, if_neg Bool.false_ne_true, if_pos first, length]
    exact ⟨rfl, if_neg Bool.false_ne_true⟩
  · have hasSign : (forms.signed && ProfileLexer.isSign mark) = true := by
      rw [signed (by simp), isSign]
      rfl
    rw [List.singleton_append, length?, NumberForm.body, if_pos hasSign, if_pos hasSign, if_pos digit,
      length, List.length_cons, Nat.add_comm]
    exact ⟨rfl, rfl⟩

/-- Whether all behind the letter of a base, of which there has to be something, are digits of the
base. In base ten there is nothing to ask. -/
def inBase : Option Radix → List Char → Bool
  | none, _ => true
  | some base, body => !(body.drop 2).isEmpty && (body.drop 2).all base.isDigit

/-- Numbers in base ten have a form, and so have those whose base has their digits. No other number
that is scanned has one. -/
theorem ofText?_isSome (isSign : Sign sign) (signed : sign ≠ [] → forms.signed = true)
    (unsigned : Unsigned forms base body) :
    (NumberForm.ofText? forms (sign ++ body)).isSome = inBase base body := by
  obtain ⟨length, isBody⟩ := length?_of_unsigned isSign signed unsigned
  obtain ⟨_, hasBase, _⟩ := unsigned.length
  rw [NumberForm.ofText?, if_pos length, isBody]
  dsimp only
  rw [hasBase]
  cases base with
  | some base =>
    dsimp only [inBase]
    split_ifs with digits
    · rw [digits]
      rfl
    · rw [Bool.eq_false_iff.mpr digits]
      rfl
  | none =>
    dsimp only [inBase]
    split_ifs <;> rfl

end Number

end ProfileLexer
