import ProfileLexer.Proofs.Automaton.Verdict
import ProfileLexer.Proofs.Number.Grammar

/-!
What the automaton makes of numbers: it accepts those that have a form, and rejects those with
something behind the letter of a base that the base does not have.
-/

namespace ProfileLexer

namespace Profile

variable {profile : Profile} {state : State} {read : List Char} {used : Nat}

/-- A state in which a number may end, or go on with an imaginary unit. Both hold whatever has been
read before. -/
structure Settled (profile : Profile) (state : State) : Prop where
  ends : ∀ read used, (profile.machineIn state read used).onEnd = (.numberDone, .accept)
  unit : profile.numbers.complex = true →
    ∀ read used, (profile.machineIn state read used).onChar 'i' = (.numberUnit, .read)

/-- A state in which a number may also go on with a power of ten, where the language has them. -/
structure Scalable (profile : Profile) (state : State) : Prop extends Settled profile state where
  power : profile.numbers.exponent = true → ∀ read used mark, isExponentMark mark = true →
    (profile.machineIn state read used).onChar mark = (.numberExponent false false, .read)

theorem kindFrom?_unit (settled : profile.Settled state) {text : List Char}
    (unit : Number.Unit profile.numbers text) :
    profile.kindFrom? state read used text = some .number := by
  rcases unit with rfl | ⟨complex, rfl⟩
  · rw [kindFrom?_of_accept (settled.ends read used)]
    rfl
  · rw [kindFrom?_of_read _ _ (settled.unit complex read used), kindFrom?_of_accept rfl]
    rfl

/-- A state that digits do not change reads all digits, and none of them is used up. -/
theorem kindFrom?_digits {digits text : List Char}
    (stays : ∀ read used c, c.isDigit = true →
      (profile.machineIn state read used).onChar c = (state, .read))
    (isDigits : digits.all Char.isDigit = true) :
    profile.kindFrom? state read used (digits ++ text) =
      profile.kindFrom? state (read ++ digits) used text := by
  induction digits generalizing read with
  | nil => rw [List.nil_append, List.append_nil]
  | cons c digits ih =>
    rw [List.all_cons, Bool.and_eq_true] at isDigits
    rw [List.cons_append, kindFrom?_of_read _ _ (stays read used c isDigits.1), usedBehind_self,
      ih isDigits.2, ← List.append_cons]

theorem onChar_number {c : Char} (digit : c.isDigit = true) (read : List Char) (used : Nat) :
    (profile.machineIn .number read used).onChar c = (.number, .read) := by
  have onChar : (profile.machineIn .number read used).onChar c =
      (profile.machineIn .number read used).onNumber c := rfl
  rw [onChar, Machine.onNumber, if_pos digit]

theorem onChar_numberExponent {c : Char} (digit : c.isDigit = true) (signed digits : Bool)
    (read : List Char) (used : Nat) :
    (profile.machineIn (.numberExponent signed digits) read used).onChar c =
      (.numberExponent signed true, .read) :=
  if_pos digit

theorem settled_numberExponent (signed : Bool) :
    profile.Settled (.numberExponent signed true) where
  ends := fun _ _ => rfl
  unit := by
    intro complex read used
    simp [Machine.onChar, machineIn, complex, isSign]

theorem scalable_numberPoint : profile.Scalable .numberPoint where
  ends := fun _ _ => rfl
  unit := by
    intro complex read used
    simp [Machine.onChar, machineIn, complex, isExponentMark]
  power := by
    intro exponent read used mark isMark
    simp [Machine.onChar, machineIn, exponent, isMark,
      Number.isDigit_eq_false_of_isExponentMark isMark]

theorem scalable_numberFraction : profile.Scalable (.numberFraction true) where
  ends := fun _ _ => rfl
  unit := by
    intro complex read used
    simp [Machine.onChar, machineIn, complex, isExponentMark]
  power := by
    intro exponent read used mark isMark
    simp [Machine.onChar, machineIn, exponent, isMark,
      Number.isDigit_eq_false_of_isExponentMark isMark]

theorem scalable_number : profile.Scalable .number where
  ends := fun _ _ => rfl
  unit := by
    intro complex read used
    simp [Machine.onChar, Machine.onNumber, machineIn, complex, isExponentMark, Radix.ofLetter?]
  power := by
    intro exponent read used mark isMark
    rcases Bool.or_eq_true_iff.mp isMark with small | capital
    · rw [eq_of_beq small]
      simp [Machine.onChar, Machine.onNumber, machineIn, exponent, isExponentMark, Radix.ofLetter?]
    · rw [eq_of_beq capital]
      simp [Machine.onChar, Machine.onNumber, machineIn, exponent, isExponentMark, Radix.ofLetter?]

/-- The first of some digits changes a state as the others do. There has to be one. -/
theorem kindFrom?_first_digits {next : State} {digits text : List Char}
    (moves : ∀ read used c, c.isDigit = true →
      (profile.machineIn state read used).onChar c = (next, .read))
    (stays : ∀ read used c, c.isDigit = true →
      (profile.machineIn next read used).onChar c = (next, .read))
    (settled : ∀ read used, profile.kindFrom? next read used text = some .number)
    (isDigits : Number.Digits digits) :
    profile.kindFrom? state read used (digits ++ text) = some .number := by
  obtain ⟨some_digits, all⟩ := isDigits
  cases digits with
  | nil => exact absurd rfl some_digits
  | cons c digits =>
    rw [List.all_cons, Bool.and_eq_true] at all
    rw [List.cons_append, kindFrom?_of_read _ _ (moves read used c all.1),
      kindFrom?_digits stays all.2, settled]

theorem kindFrom?_scale (scalable : profile.Scalable state) {text : List Char}
    (scale : Number.Scale profile.numbers text) :
    profile.kindFrom? state read used text = some .number := by
  cases scale with
  | unit unit => exact kindFrom?_unit scalable.toSettled unit
  | @power mark sign digits text exponent isMark isSign isDigits unit =>
    rw [kindFrom?_of_read _ _ (scalable.power exponent read used mark isMark)]
    have exponents : ∀ signed read used,
        profile.kindFrom? (.numberExponent signed false) read used (digits ++ text) =
          some .number := fun signed _ _ =>
      kindFrom?_first_digits
        (fun read used c digit => onChar_numberExponent digit signed false read used)
        (fun read used c digit => onChar_numberExponent digit signed true read used)
        (fun _ _ => kindFrom?_unit (settled_numberExponent signed) unit) isDigits
    rcases isSign with rfl | ⟨sign, isSign, rfl⟩
    · exact exponents false _ _
    · have moves : ∀ read used, (profile.machineIn (.numberExponent false false) read used).onChar
          sign = (.numberExponent true false, .read) := by
        intro read used
        simp [Machine.onChar, machineIn, isSign, Number.isDigit_eq_false_of_isSign isSign]
      rw [List.singleton_append, kindFrom?_of_read _ _ (moves _ _), exponents]

/-- Numbers in base ten are accepted, with all that may come behind their first digits. That nothing
else is accepted is shown elsewhere. -/
theorem kindFrom?_decimal {text : List Char} (decimal : Number.Decimal profile.numbers text) :
    profile.kindFrom? .number read used text = some .number := by
  obtain ⟨isDigits, tail⟩ := decimal
  rw [kindFrom?_digits (fun read used c digit => onChar_number digit read used) isDigits.2]
  cases tail with
  | scale scale => exact kindFrom?_scale scalable_number scale
  | point isDigits scale =>
    have moves : ∀ read used, (profile.machineIn .number read used).onChar '.' =
        (.numberPoint, .read) := fun read used => by
      simp [Machine.onChar, Machine.onNumber, machineIn, Radix.ofLetter?]
    rw [kindFrom?_of_read _ _ (moves _ _), kindFrom?_digits _ isDigits]
    · exact kindFrom?_scale scalable_numberPoint scale
    · exact fun read used c digit => if_pos digit
  | fraction fractions isDigits scale =>
    have moves : ∀ read used, (profile.machineIn .number read used).onChar '/' =
        (.numberFraction false, .read) := fun read used => by
      simp [Machine.onChar, Machine.onNumber, machineIn, Radix.ofLetter?, fractions]
    rw [kindFrom?_of_read _ _ (moves _ _)]
    have stays : ∀ digits read used c, c.isDigit = true →
        (profile.machineIn (.numberFraction digits) read used).onChar c =
          (.numberFraction true, .read) := fun _ _ _ _ digit => if_pos digit
    exact kindFrom?_first_digits (stays false) (stays true)
      (fun _ _ => kindFrom?_scale scalable_numberFraction scale) isDigits

/-- Behind the letter of a base, at least one character has to come, and all have to be digits of
the base. The run of letters and digits is read by the scanner as a whole. -/
theorem kindFrom?_numberRadix {base : Radix} {digits : Bool} {text : List Char}
    (run : text.all Char.isAlphanum = true) :
    profile.kindFrom? (.numberRadix base digits) read used text =
      if (digits || !text.isEmpty) && text.all base.isDigit then some .number else none := by
  induction text generalizing read used digits with
  | nil =>
    cases digits with
    | true => rw [kindFrom?_of_accept rfl]; rfl
    | false => rw [kindFrom?_of_reject rfl]; rfl
  | cons c text ih =>
    rw [List.all_cons, Bool.and_eq_true] at run
    cases digit : base.isDigit c with
    | true =>
      have moves : (profile.machineIn (.numberRadix base digits) read used).onChar c =
          (.numberRadix base true, .read) := if_pos digit
      rw [kindFrom?_of_read _ _ moves, ih run.2, List.all_cons, digit]
      simp
    | false =>
      have stops : (profile.machineIn (.numberRadix base digits) read used).onChar c =
          (.rejected, .reject) := by
        simp [Machine.onChar, machineIn, digit, run.1]
      rw [kindFrom?_of_stop text (by rw [stops]; simp), List.all_cons, digit]
      simp

theorem kindFrom?_based {base : Radix} {sign body : List Char} (isSign : Number.Sign sign)
    (based : Number.Based profile.numbers base body) :
    profile.kindFrom? .number sign used body =
      if Number.inBase (some base) body then some .number else none := by
  obtain ⟨chosen, run⟩ := based
  rename_i letter digits
  have zero := @onChar_number profile '0' rfl sign used
  have onlyZero : (sign ++ ['0']).dropWhile ProfileLexer.isSign = ['0'] := by
    rcases isSign with rfl | ⟨mark, isSign, rfl⟩
    · rfl
    · rw [List.singleton_append, List.dropWhile_cons, if_pos isSign]
      rfl
  have noDigit := Number.isDigit_eq_false_of_ofLetter? chosen
  have moves : ∀ used, (profile.machineIn .number (sign ++ ['0']) used).onChar letter =
      (.numberRadix base false, .read) := by
    intro used
    have onChar : (profile.machineIn .number (sign ++ ['0']) used).onChar letter =
        (profile.machineIn .number (sign ++ ['0']) used).onNumber letter := rfl
    have text : (profile.machineIn .number (sign ++ ['0']) used).text = sign ++ ['0'] := rfl
    have own : (profile.machineIn .number (sign ++ ['0']) used).profile.numbers =
        profile.numbers := rfl
    rw [onChar, Machine.onNumber, text, own, chosen, onlyZero, noDigit]
    rfl
  rw [kindFrom?_of_read _ _ zero, kindFrom?_of_read _ _ (moves _), kindFrom?_numberRadix run]
  simp [Number.inBase]

/-- The automaton accepts a number exactly when it has a form. The text is one that the scanner
takes for a number, so at most a digit of its base can be wrong. -/
theorem kindFrom?_number {base : Option Radix} {sign body : List Char} (isSign : Number.Sign sign)
    (unsigned : Number.Unsigned profile.numbers base body) :
    profile.kindFrom? .number sign used body =
      if Number.inBase base body then some .number else none := by
  cases unsigned with
  | decimal _ decimal => rw [kindFrom?_decimal decimal, Number.inBase, if_pos rfl]
  | based based => exact kindFrom?_based isSign based

end Profile

end ProfileLexer
