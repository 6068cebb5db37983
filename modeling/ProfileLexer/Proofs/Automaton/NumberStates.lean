import ProfileLexer.Profile.Builtin
import ProfileLexer.Proofs.Automaton.Number
import ProfileLexer.Proofs.Number.Forms

/-!
The number states accept nothing but numbers. What each of them goes on to accept is the part of the
grammar that is left there; so, from its first digit on, a text is accepted as a number exactly when
it has a form.
-/

namespace ProfileLexer

namespace Machine

theorem numberEnd_ne_read {c : Char} {next : State} : numberEnd c ≠ (next, .read) := by
  unfold numberEnd
  split <;> simp

end Machine

namespace Number

/-- Without its sign a text starts with its first digit, whether or not it has a sign. -/
theorem Sign.dropWhile {sign body : List Char} (isSign : Sign sign)
    (digit : startsWithDigit body = true) :
    (sign ++ body).dropWhile ProfileLexer.isSign = body := by
  obtain ⟨first, rest, rfl, digit⟩ := startsWithDigit_iff.mp digit
  have stops : (first :: rest).dropWhile ProfileLexer.isSign = first :: rest :=
    List.dropWhile_cons_of_neg (by simp [isSign_eq_false_of_isDigit digit])
  rcases isSign with rfl | ⟨mark, isSign, rfl⟩
  · exact stops
  · rw [List.singleton_append, List.dropWhile_cons_of_pos isSign, stops]

end Number

namespace Profile

variable {profile : Profile} {state : State} {read text : List Char} {used : Nat} {c : Char}
  {kind : TokenKind}

/-- A text that is accepted goes on with a character that is read: no text is accepted before its
end. -/
theorem exists_next_of_kindFrom? (found : profile.kindFrom? state read used (c :: text) = some kind) :
    ∃ next, (profile.machineIn state read used).onChar c = (next, .read) ∧
      ∃ used, profile.kindFrom? next (read ++ [c]) used text = some kind := by
  by_cases reads : ((profile.machineIn state read used).onChar c).2 = .read
  · have move : (profile.machineIn state read used).onChar c =
        (((profile.machineIn state read used).onChar c).1, .read) := by
      rw [← reads]
    rw [kindFrom?_of_read _ _ move] at found
    exact ⟨_, move, _, found⟩
  · rw [kindFrom?_of_stop text reads] at found
    cases found

theorem eq_nil_of_numberUnit (found : profile.kindFrom? .numberUnit read used text = some kind) :
    text = [] := by
  cases text with
  | nil => rfl
  | cons c text =>
    obtain ⟨next, move, _⟩ := exists_next_of_kindFrom? found
    exact absurd move Machine.numberEnd_ne_read

/-- Where a power of ten may go on with a character. A sign comes before all digits and only
once. -/
theorem next_of_numberExponent {signed digits : Bool} {next : State}
    (move : (profile.machineIn (.numberExponent signed digits) read used).onChar c =
      (next, .read)) :
    c.isDigit = true ∧ next = .numberExponent signed true ∨
      (digits = false ∧ signed = false) ∧ isSign c = true ∧ next = .numberExponent true false ∨
      digits = true ∧ profile.numbers.complex = true ∧ c = 'i' ∧ next = .numberUnit := by
  unfold Machine.onChar at move
  dsimp only [machineIn] at move
  split_ifs at move with digit sign noDigits unit
  · exact .inl ⟨digit, (Prod.mk.inj move).1.symm⟩
  · simp_all
  · simp_all
  · simp_all
  · exact absurd move Machine.numberEnd_ne_read

/-- Behind the mark of a power of ten a sign may come, then digits, then a unit. What has come
before is told by the state. -/
theorem exists_parts_of_numberExponent {signed digits : Bool}
    (found : profile.kindFrom? (.numberExponent signed digits) read used text = some kind) :
    ∃ sign front unit, text = sign ++ (front ++ unit) ∧ Number.Sign sign ∧
      (signed = true ∨ digits = true → sign = []) ∧ front.all Char.isDigit = true ∧
      (digits = false → front ≠ []) ∧ Number.Unit profile.numbers unit := by
  induction text generalizing signed digits read used with
  | nil =>
    cases digits with
    | true => exact ⟨[], [], [], rfl, .inl rfl, fun _ => rfl, rfl, by simp, .inl rfl⟩
    | false =>
      rw [kindFrom?_of_reject rfl] at found
      cases found
  | cons c text ih =>
    obtain ⟨next, move, used, rest⟩ := exists_next_of_kindFrom? found
    rcases next_of_numberExponent move with
      ⟨digit, rfl⟩ | ⟨⟨rfl, rfl⟩, isSign, rfl⟩ | ⟨rfl, complex, rfl, rfl⟩
    · obtain ⟨sign, front, unit, rfl, _, noSign, all, _, isUnit⟩ := ih rest
      obtain rfl := noSign (.inr rfl)
      exact ⟨[], c :: front, unit, rfl, .inl rfl, fun _ => rfl, by rw [List.all_cons, digit, all]; rfl,
        fun _ => List.cons_ne_nil _ _, isUnit⟩
    · obtain ⟨sign, front, unit, rfl, _, noSign, all, nonempty, isUnit⟩ := ih rest
      obtain rfl := noSign (.inl rfl)
      exact ⟨[c], front, unit, rfl, .inr ⟨c, isSign, rfl⟩, by simp, all, nonempty, isUnit⟩
    · obtain rfl := eq_nil_of_numberUnit rest
      exact ⟨[], [], ['i'], rfl, .inl rfl, fun _ => rfl, rfl, by simp, .inr ⟨complex, rfl⟩⟩

/-- Where a state goes on with a character, once the digits in front of it may end a number. Digits
lead back to the state. -/
inductive Scales (profile : Profile) (state : State) : Char → State → Prop
  | digit {c : Char} : c.isDigit = true → Scales profile state c state
  | power {mark : Char} : profile.numbers.exponent = true → isExponentMark mark = true →
      Scales profile state mark (.numberExponent false false)
  | unit : profile.numbers.complex = true → Scales profile state 'i' .numberUnit

/-- A mark and what is accepted behind it are a power of ten, perhaps with a unit. -/
theorem scale_of_power (exponent : profile.numbers.exponent = true) (isMark : isExponentMark c = true)
    (found : profile.kindFrom? (.numberExponent false false) read used text = some kind) :
    Number.Scale profile.numbers (c :: text) := by
  obtain ⟨sign, front, unit, rfl, isSign, _, all, nonempty, isUnit⟩ :=
    exists_parts_of_numberExponent found
  exact .power exponent isMark isSign ⟨nonempty rfl, all⟩ isUnit

theorem scale_of_unit (complex : profile.numbers.complex = true)
    (found : profile.kindFrom? .numberUnit read used text = some kind) :
    Number.Scale profile.numbers ('i' :: text) := by
  obtain rfl := eq_nil_of_numberUnit found
  exact .unit (.inr ⟨complex, rfl⟩)

/-- A state that goes on like this accepts digits and what scales a number. The induction is on the
text, and the state is kept as long as digits come. -/
theorem exists_scale_of_scales
    (moves : ∀ read used c next,
      (profile.machineIn state read used).onChar c = (next, .read) → profile.Scales state c next)
    (found : profile.kindFrom? state read used text = some kind) :
    ∃ digits scale, text = digits ++ scale ∧ digits.all Char.isDigit = true ∧
      Number.Scale profile.numbers scale := by
  induction text generalizing read used with
  | nil => exact ⟨[], [], rfl, rfl, .unit (.inl rfl)⟩
  | cons c text ih =>
    obtain ⟨next, move, used', rest⟩ := exists_next_of_kindFrom? found
    cases moves read used c next move with
    | digit digit =>
      obtain ⟨digits, scale, rfl, all, isScale⟩ := ih rest
      exact ⟨c :: digits, scale, rfl, by rw [List.all_cons, digit, all]; rfl, isScale⟩
    | power exponent isMark => exact ⟨[], c :: text, rfl, rfl, scale_of_power exponent isMark rest⟩
    | unit complex => exact ⟨[], 'i' :: text, rfl, rfl, scale_of_unit complex rest⟩

theorem scales_numberPoint {next : State}
    (move : (profile.machineIn .numberPoint read used).onChar c = (next, .read)) :
    profile.Scales .numberPoint c next := by
  unfold Machine.onChar at move
  dsimp only [machineIn] at move
  split_ifs at move with digit power unit
  · rw [← (Prod.mk.inj move).1]
    exact .digit digit
  · rw [Bool.and_eq_true] at power
    rw [← (Prod.mk.inj move).1]
    exact .power power.1 power.2
  · rw [Bool.and_eq_true, beq_iff_eq] at unit
    rw [← (Prod.mk.inj move).1, unit.2]
    exact .unit unit.1
  · exact absurd move Machine.numberEnd_ne_read

theorem next_of_numberFraction {digits : Bool} {next : State}
    (move : (profile.machineIn (.numberFraction digits) read used).onChar c = (next, .read)) :
    c.isDigit = true ∧ next = .numberFraction true ∨
      digits = true ∧ profile.Scales (.numberFraction true) c next := by
  unfold Machine.onChar at move
  dsimp only [machineIn] at move
  split_ifs at move with digit noDigits power unit
  · exact .inl ⟨digit, (Prod.mk.inj move).1.symm⟩
  · simp at move
  · rw [Bool.and_eq_true] at power
    rw [← (Prod.mk.inj move).1]
    exact .inr ⟨by simpa using noDigits, .power power.1 power.2⟩
  · rw [Bool.and_eq_true, beq_iff_eq] at unit
    rw [← (Prod.mk.inj move).1, unit.2]
    exact .inr ⟨by simpa using noDigits, .unit unit.1⟩
  · exact absurd move Machine.numberEnd_ne_read

/-- Behind a slash a digit has to come; what scales a number may follow. -/
theorem exists_scale_of_numberFraction
    (found : profile.kindFrom? (.numberFraction false) read used text = some kind) :
    ∃ digits scale, text = digits ++ scale ∧ Number.Digits digits ∧
      Number.Scale profile.numbers scale := by
  cases text with
  | nil =>
    rw [kindFrom?_of_reject rfl] at found
    cases found
  | cons c text =>
    obtain ⟨next, move, used', rest⟩ := exists_next_of_kindFrom? found
    rcases next_of_numberFraction move with ⟨digit, rfl⟩ | ⟨impossible, _⟩
    · obtain ⟨digits, scale, rfl, all, isScale⟩ := exists_scale_of_scales (fun _ _ _ _ move =>
        (next_of_numberFraction move).elim (fun same => same.2 ▸ .digit same.1) And.right) rest
      exact ⟨c :: digits, scale, rfl,
        ⟨List.cons_ne_nil _ _, by rw [List.all_cons, digit, all]; rfl⟩, isScale⟩
    · cases impossible

/-- Behind the letter of a base nothing but digits of the base is accepted, and at least one of
them. -/
theorem digits_of_numberRadix {base : Radix} {digits : Bool}
    (found : profile.kindFrom? (.numberRadix base digits) read used text = some kind) :
    text.all base.isDigit = true ∧ (digits = false → text ≠ []) := by
  induction text generalizing digits read used with
  | nil =>
    cases digits with
    | true => exact ⟨rfl, by simp⟩
    | false =>
      rw [kindFrom?_of_reject rfl] at found
      cases found
  | cons c text ih =>
    obtain ⟨next, move, used', rest⟩ := exists_next_of_kindFrom? found
    unfold Machine.onChar at move
    dsimp only [machineIn] at move
    split_ifs at move with digit letter some_digits
    · rw [← (Prod.mk.inj move).1] at rest
      rw [List.all_cons, digit, (ih rest).1]
      exact ⟨rfl, fun _ => List.cons_ne_nil _ _⟩
    all_goals simp at move

/-- Where a number goes on from its first digits. Which letters choose a base is up to the
language. -/
theorem next_of_number {next : State}
    (move : (profile.machineIn .number read used).onChar c = (next, .read)) :
    profile.Scales .number c next ∨
      (∃ base, Radix.ofLetter? profile.numbers c = some base ∧
        read.dropWhile isSign = ['0'] ∧ next = .numberRadix base false) ∨
      c = '.' ∧ next = .numberPoint ∨
      profile.numbers.fractions = true ∧ c = '/' ∧ next = .numberFraction false := by
  change (profile.machineIn .number read used).onNumber c = (next, .read) at move
  unfold Machine.onNumber at move
  dsimp only [machineIn, Machine.text] at move
  split at move
  · rename_i digit
    rw [← (Prod.mk.inj move).1]
    exact .inl (.digit digit)
  split at move
  · rename_i base chosen
    split at chosen
    · rename_i letter
      obtain ⟨zero, same⟩ := Option.ite_none_right_eq_some.mp chosen
      rw [Option.some.inj same] at letter
      exact .inr (.inl ⟨base, letter, eq_of_beq zero, (Prod.mk.inj move).1.symm⟩)
    · cases chosen
  split_ifs at move with point slash power unit
  · exact .inr (.inr (.inl ⟨eq_of_beq point, (Prod.mk.inj move).1.symm⟩))
  · rw [Bool.and_eq_true, beq_iff_eq] at slash
    exact .inr (.inr (.inr ⟨slash.1, slash.2, (Prod.mk.inj move).1.symm⟩))
  · rw [Bool.and_eq_true] at power
    rw [← (Prod.mk.inj move).1]
    exact .inl (.power power.1 power.2)
  · rw [Bool.and_eq_true, beq_iff_eq] at unit
    rw [← (Prod.mk.inj move).1, unit.2]
    exact .inl (.unit unit.1)
  · exact absurd move Machine.numberEnd_ne_read

theorem exists_unsigned_of_tail {digits : List Char} (isDigits : Number.Digits digits)
    (tail : Number.Tail profile.numbers text) :
    ∃ base, Number.Unsigned profile.numbers base (digits ++ text) ∧
      Number.inBase base (digits ++ text) = true :=
  have decimal := Number.Decimal.mk isDigits tail
  ⟨none, .decimal decimal.radix?_eq_none decimal, rfl⟩

/-- Behind digits in base ten, a number is accepted up to its end; a single zero may turn out to be
in front of the letter of a base. The kind that is accepted need not be that of numbers. -/
theorem exists_unsigned_of_number {sign digits : List Char} (isSign : Number.Sign sign)
    (isDigits : Number.Digits digits)
    (found : profile.kindFrom? .number (sign ++ digits) used text = some kind) :
    ∃ base, Number.Unsigned profile.numbers base (digits ++ text) ∧
      Number.inBase base (digits ++ text) = true := by
  induction text generalizing digits used with
  | nil => exact exists_unsigned_of_tail isDigits (.scale (.unit (.inl rfl)))
  | cons c text ih =>
    obtain ⟨next, move, used', rest⟩ := exists_next_of_kindFrom? found
    rcases next_of_number move with
      scales | ⟨base, chosen, zero, rfl⟩ | ⟨rfl, rfl⟩ | ⟨fractions, rfl, rfl⟩
    · cases scales with
      | digit digit =>
        have longer : Number.Digits (digits ++ [c]) :=
          ⟨by simp, by rw [List.all_append, isDigits.2, List.all_cons, digit]; rfl⟩
        rw [List.append_assoc] at rest
        have unsigned := ih longer rest
        rwa [List.append_assoc, List.singleton_append] at unsigned
      | power exponent isMark =>
        exact exists_unsigned_of_tail isDigits (.scale (scale_of_power exponent isMark rest))
      | unit complex =>
        exact exists_unsigned_of_tail isDigits (.scale (scale_of_unit complex rest))
    · rw [isSign.dropWhile (by simpa using isDigits.startsWithDigit [])] at zero
      subst zero
      obtain ⟨all, nonempty⟩ := digits_of_numberRadix rest
      have run : text.all Char.isAlphanum = true :=
        List.all_eq_true.mpr fun c member =>
          Radix.isAlphanum_of_isDigit (List.all_eq_true.mp all c member)
      refine ⟨some base, .based (.mk chosen run), ?_⟩
      simp [Number.inBase, nonempty rfl, all]
    · obtain ⟨front, scale, rfl, all, isScale⟩ :=
        exists_scale_of_scales (fun _ _ _ _ => scales_numberPoint) rest
      exact exists_unsigned_of_tail isDigits (.point all isScale)
    · obtain ⟨front, scale, rfl, all, isScale⟩ := exists_scale_of_numberFraction rest
      exact exists_unsigned_of_tail isDigits (.fraction fractions all isScale)

/-- From the first digit on, the number states accept exactly the texts that have a form. A sign is
only possible in a language that has signs. -/
theorem kindFrom?_number_iff {sign : List Char} {digit : Char} (isSign : Number.Sign sign)
    (signed : sign ≠ [] → profile.numbers.signed = true) (isDigit : digit.isDigit = true) :
    profile.kindFrom? .number (sign ++ [digit]) used text = some .number ↔
      (NumberForm.ofText? profile.numbers (sign ++ digit :: text)).isSome = true := by
  constructor
  · intro found
    have single : Number.Digits [digit] :=
      ⟨by simp, by rw [List.all_cons, isDigit]; rfl⟩
    obtain ⟨base, unsigned, inBase⟩ := exists_unsigned_of_number isSign single found
    rw [← List.singleton_append, Number.ofText?_isSome isSign signed unsigned, inBase]
  · intro hasForm
    obtain ⟨other, base, body, split, isSign', _, unsigned⟩ := Number.exists_unsigned hasForm
    obtain rfl : digit :: text = body := by
      have starts : Number.startsWithDigit (digit :: text) = true := isDigit
      rw [← isSign.dropWhile starts, split, isSign'.dropWhile unsigned.length.1]
    rw [Number.ofText?_isSome isSign signed unsigned] at hasForm
    have accepts := @kindFrom?_number profile used base _ _ isSign unsigned
    rwa [kindFrom?_of_read _ _ (onChar_number isDigit sign used), usedBehind_self, hasForm,
      if_pos rfl] at accepts

end Profile

namespace Machine

/-- Given what is left of a text, a machine accepts all of the text as a token of a kind. What it
has read before is part of the text. -/
def AcceptsAs (machine : Machine) (kind : TokenKind) (rest : List Char) : Prop :=
  let verdict := (machine.feed rest).1.verdict (machine.feed rest).2
  verdict.covers (Text.byteLength (machine.text ++ rest)) = true ∧ verdict.kind = some kind

theorem acceptsAs_iff {machine : Machine} {kind : TokenKind} {rest : List Char} :
    machine.AcceptsAs kind rest ↔
      machine.profile.kindFrom? machine.state machine.text machine.markerFrom rest = some kind := by
  have alike : machine.Alike
      (machine.profile.machineIn machine.state machine.text machine.markerFrom) :=
    ⟨rfl, rfl, rfl, rfl⟩
  rw [AcceptsAs, Profile.kindFrom?, ← alike.kindAfter?, ← machine.feed_verdict]
  split_ifs with covers
  · exact and_iff_right covers
  · exact iff_of_false (fun both => covers both.1) fun nothing => by cases nothing

/-- A machine that has read the first digit of a number, and perhaps a sign in front of it, accepts
the whole text as a number exactly when the text has a form. The profile may be any, accepted or
not, and so may the number of steps that the machine has made. -/
theorem acceptsAs_number_iff {machine : Machine} {sign rest : List Char} {digit : Char}
    (state : machine.state = .number) (read : machine.text = sign ++ [digit])
    (isSign : Number.Sign sign) (signed : sign ≠ [] → machine.profile.numbers.signed = true)
    (isDigit : digit.isDigit = true) :
    machine.AcceptsAs .number rest ↔
      (NumberForm.ofText? machine.profile.numbers (sign ++ digit :: rest)).isSome = true := by
  rw [acceptsAs_iff, state, read]
  exact Profile.kindFrom?_number_iff isSign signed isDigit

/-- Behind a sign and a digit, the symbolic language goes on with a fraction up to its unit, and
accepts no fraction that ends behind its slash. -/
theorem acceptsAs_number_of_fraction :
    let start := Machine.ofProfile (Profile.build Builtin.symbolic)
    let machine := ((start.step (some '-')).1.step (some '1')).1
    machine.state = .number ∧ machine.text = ['-'] ++ ['1'] ∧
      machine.profile.numbers.signed = true ∧
      machine.AcceptsAs .number "/20i".toList ∧ ¬machine.AcceptsAs .number ['/'] := by
  intro start machine
  have state : machine.state = .number := by decide +kernel
  have read : machine.text = ['-'] ++ ['1'] := by decide +kernel
  have isSign : Number.Sign ['-'] := .inr ⟨'-', rfl, rfl⟩
  have accepts (rest : List Char) :=
    @acceptsAs_number_iff machine ['-'] rest '1' state read isSign (fun _ => rfl) rfl
  refine ⟨state, read, rfl, (accepts "/20i".toList).mpr (by decide +kernel), fun accepted => ?_⟩
  exact absurd ((accepts ['/']).mp accepted) (by decide +kernel)

end Machine

end ProfileLexer
