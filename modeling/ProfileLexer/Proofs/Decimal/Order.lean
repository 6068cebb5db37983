import ProfileLexer.Run.Benchmark

/-!
The order of floating point numbers by their bits. Whatever is less by value is less by its bits.
-/

namespace ProfileLexer.Decimal

open Float.Model

/-- A finite number without its sign, in steps from zero on: one for each next number. It is meant
for numbers as they are kept in 64 bits. -/
def rank (mantissa : Nat) (exponent : Int) : Int :=
  (exponent + 1074) * hiddenBit + mantissa

/-- Where a number stands among all. The two zeros stand at the same place, and what is not a number
stands nowhere in particular. -/
def place : UnpackedFloat → Int
  | .infinity sign => sign.apply (0x7ff * hiddenBit)
  | .notANumber => 0
  | .zero _ => 0
  | .finite sign mantissa exponent _ => sign.apply (rank mantissa exponent)

theorem place_infinity (sign : UnpackedFloat.Sign) :
    place (.infinity sign) = sign.apply (0x7ff * hiddenBit) := rfl

theorem place_zero (sign : UnpackedFloat.Sign) : place (.zero sign) = 0 := rfl

theorem place_finite (sign : UnpackedFloat.Sign) (mantissa : Nat) (exponent : Int)
    (positive : 0 < mantissa) :
    place (.finite sign mantissa exponent positive) = sign.apply (rank mantissa exponent) := rfl

/-- A finite number as it is kept in 64 bits: its mantissa is full, or its exponent is the least. -/
structure Fits (mantissa : Nat) (exponent : Int) : Prop where
  positive : 0 < mantissa
  short : mantissa < 2 * hiddenBit
  least : -1074 ≤ exponent
  small : exponent < 972
  full : exponent = -1074 ∨ hiddenBit ≤ mantissa

def Canonical : UnpackedFloat → Prop
  | .finite _ mantissa exponent _ => Fits mantissa exponent
  | _ => True

section

variable {m m' : Nat} {e e' : Int}

theorem Fits.rank_bounds (fits : Fits m e) : 0 < rank m e ∧ rank m e < 0x7ff * hiddenBit := by
  obtain ⟨positive, short, least, small, full⟩ := fits
  simp only [rank, hiddenBit] at *
  omega

/-- The exponent decides, and the mantissa when the exponents are equal. Mantissas that are not full
would spoil this. -/
theorem Fits.rank_lt (fits : Fits m e) (fits' : Fits m' e')
    (less : (compare e e').then (compare m m') = .lt) : rank m e < rank m' e' := by
  rw [Ordering.then_eq_lt, Int.compare_eq_lt, Int.compare_eq_eq, Nat.compare_eq_lt] at less
  have short := fits.short
  have least := fits.least
  have full := fits'.full
  simp only [rank, hiddenBit] at *
  omega

theorem apply_negative (n : Int) : UnpackedFloat.Sign.negative.apply n = -n := rfl

theorem apply_positive (n : Int) : UnpackedFloat.Sign.positive.apply n = n := rfl

/-- Among finite canonical numbers what is less stands in front. -/
theorem Fits.place_lt {positive : 0 < m} {positive' : 0 < m'} (fits : Fits m e) (fits' : Fits m' e')
    {s s' : UnpackedFloat.Sign}
    (less : (UnpackedFloat.finite s m e positive).compare (.finite s' m' e' positive') = some .lt) :
    place (.finite s m e positive) < place (.finite s' m' e' positive') := by
  have bounds := fits.rank_bounds
  have bounds' := fits'.rank_bounds
  rw [place_finite, place_finite]
  cases s with
  | negative =>
    cases s' with
    | negative =>
      have swapped := Option.some.inj less
      rw [Ordering.swap_then, Int.compare_swap, Nat.compare_swap] at swapped
      have behind := fits'.rank_lt fits swapped
      rw [apply_negative, apply_negative]
      omega
    | positive =>
      rw [apply_negative, apply_positive]
      omega
  | positive =>
    cases s' with
    | negative => cases less
    | positive => exact fits.rank_lt fits' (Option.some.inj less)

end

/-- Among canonical numbers what is less stands in front. What is not a number is less than nothing
and nothing is less than it. -/
theorem place_lt_of_compare {first second : UnpackedFloat} (canonical : Canonical first)
    (canonical' : Canonical second) (less : first.compare second = some .lt) :
    place first < place second := by
  have top : (0 : Int) < 0x7ff * hiddenBit := by decide
  cases first with
  | notANumber => cases less
  | infinity s =>
    cases s with
    | positive => cases second with
      | infinity s' => cases s' <;> cases less
      | _ => cases less
    | negative =>
      rw [place_infinity, apply_negative]
      cases second with
      | notANumber => cases less
      | infinity s' =>
        cases s' with
        | negative => cases less
        | positive =>
          rw [place_infinity, apply_positive]
          omega
      | zero s' =>
        rw [place_zero]
        omega
      | finite s' m' e' _ =>
        have bounds := canonical'.rank_bounds
        rw [place_finite]
        cases s' with
        | negative =>
          rw [apply_negative]
          omega
        | positive =>
          rw [apply_positive]
          omega
  | zero s =>
    rw [place_zero]
    cases second with
    | notANumber => cases less
    | zero s' => cases less
    | infinity s' =>
      cases s' with
      | negative => cases less
      | positive => exact top
    | finite s' m' e' _ =>
      cases s' with
      | negative => cases less
      | positive => exact canonical'.rank_bounds.1
  | finite s m e _ =>
    have bounds := canonical.rank_bounds
    cases second with
    | notANumber => cases s <;> cases less
    | infinity s' =>
      cases s' with
      | negative => cases s <;> cases less
      | positive =>
        rw [place_finite, place_infinity, apply_positive]
        cases s with
        | negative =>
          rw [apply_negative]
          omega
        | positive => exact bounds.2
    | zero s' =>
      cases s with
      | positive => cases less
      | negative =>
        rw [place_finite, place_zero, apply_negative]
        omega
    | finite s' m' e' _ => exact canonical.place_lt canonical' less

theorem rank_full (exponent mantissa : Nat) :
    rank (hiddenBit + mantissa) (exponent - (1023 + 52)) =
      (exponent * hiddenBit + mantissa : Nat) := by
  simp only [rank, hiddenBit]
  omega

def signOf (bits : Nat) : UnpackedFloat.Sign :=
  if bits < signedLimit then .positive else .negative

theorem mod_signedLimit (bits : Nat) :
    bits % signedLimit = bits / hiddenBit % 0x800 * hiddenBit + bits % hiddenBit := by
  simp only [hiddenBit, signedLimit]
  omega

section

variable {bits : BitVec Format.binary64.numBits}

theorem toNat_unpackMantissa :
    (UnpackedFloat.unpackMantissa bits).toNat = bits.toNat % hiddenBit := by
  simp [UnpackedFloat.unpackMantissa, hiddenBit]

theorem toNat_unpackExponent :
    (UnpackedFloat.unpackExponent bits).toNat = bits.toNat / hiddenBit % 0x800 := by
  simp [UnpackedFloat.unpackExponent, Nat.shiftRight_eq_div_pow, hiddenBit]

theorem toNat_unpackSign :
    (UnpackedFloat.unpackSign bits).toNat = bits.toNat / signedLimit % 2 := by
  change (bits.extractLsb 63 63).toNat = _
  rw [BitVec.extractLsb_toNat, Nat.shiftRight_eq_div_pow]
  rfl

theorem unpackMantissa_eq_zero :
    UnpackedFloat.unpackMantissa bits = 0#_ ↔ bits.toNat % hiddenBit = 0 := by
  rw [← toNat_unpackMantissa, ← BitVec.toNat_inj]
  rfl

theorem unpackExponent_eq_zero :
    UnpackedFloat.unpackExponent bits = 0#_ ↔ bits.toNat / hiddenBit % 0x800 = 0 := by
  rw [← toNat_unpackExponent, ← BitVec.toNat_inj]
  rfl

theorem unpackExponent_eq_top :
    UnpackedFloat.unpackExponent bits = -1#_ ↔ bits.toNat / hiddenBit % 0x800 = 0x7ff := by
  rw [← toNat_unpackExponent, ← BitVec.toNat_inj]
  rfl

theorem ofBitVec_unpackSign :
    UnpackedFloat.Sign.ofBitVec (UnpackedFloat.unpackSign bits) = signOf bits.toNat := by
  have limit : bits.toNat < 2 * signedLimit := bits.isLt
  have zero : (0#1).toNat = 0 := rfl
  have sign : UnpackedFloat.unpackSign bits = 0#1 ↔ bits.toNat < signedLimit := by
    rw [← BitVec.toNat_inj, toNat_unpackSign, zero]
    simp only [signedLimit] at limit ⊢
    omega
  simp only [UnpackedFloat.Sign.ofBitVec, signOf, sign]

theorem toNat_fullMantissa :
    (1#1 ++ UnpackedFloat.unpackMantissa bits).toNat = hiddenBit + bits.toNat % hiddenBit := by
  rw [BitVec.toNat_append, toNat_unpackMantissa]
  exact (Nat.shiftLeft_add_eq_or_of_lt (Nat.mod_lt _ (by decide)) _).symm

/-- Bits stand for a canonical number at the place that they count, or for none. The sign is counted
apart from the rest. -/
def Counted (bits : Nat) (number : UnpackedFloat) : Prop :=
  Canonical number ∧
    (number = .notANumber ∨ place number = (signOf bits).apply (bits % signedLimit : Nat))

theorem counted_finite {bits m : Nat} {e : Int} {positive : 0 < m} {sign : UnpackedFloat.Sign}
    (same : sign = signOf bits) (fits : Fits m e) (counts : rank m e = (bits % signedLimit : Nat)) :
    Counted bits (.finite sign m e positive) :=
  ⟨fits, .inr (by rw [place_finite, counts, same])⟩

theorem counted_of_top (atTop : UnpackedFloat.unpackExponent bits = -1#_) :
    Counted bits.toNat (UnpackedFloat.unpack Format.binary64 bits) := by
  have unpacked : UnpackedFloat.unpack Format.binary64 bits =
      if UnpackedFloat.unpackMantissa bits = 0#_ then
        .infinity (.ofBitVec (UnpackedFloat.unpackSign bits))
      else .notANumber := if_pos atTop
  rw [unpacked]
  split
  · rename_i empty
    refine ⟨trivial, .inr ?_⟩
    rw [place_infinity, ofBitVec_unpackSign, mod_signedLimit, unpackExponent_eq_top.mp atTop,
      unpackMantissa_eq_zero.mp empty]
    rfl
  · exact ⟨trivial, .inl rfl⟩

theorem counted_of_least (notTop : UnpackedFloat.unpackExponent bits ≠ -1#_)
    (atZero : UnpackedFloat.unpackExponent bits = 0#_) :
    Counted bits.toNat (UnpackedFloat.unpack Format.binary64 bits) := by
  have noExponent := unpackExponent_eq_zero.mp atZero
  by_cases empty : UnpackedFloat.unpackMantissa bits = 0#_
  · have unpacked : UnpackedFloat.unpack Format.binary64 bits =
        .zero (.ofBitVec (UnpackedFloat.unpackSign bits)) :=
      (if_neg notTop).trans ((if_pos atZero).trans (dif_pos empty))
    rw [unpacked]
    refine ⟨trivial, .inr ?_⟩
    rw [place_zero, mod_signedLimit, noExponent, unpackMantissa_eq_zero.mp empty]
    cases signOf bits.toNat <;> rfl
  · obtain ⟨positive, unpacked⟩ : ∃ positive, UnpackedFloat.unpack Format.binary64 bits =
        .finite (.ofBitVec (UnpackedFloat.unpackSign bits))
          (UnpackedFloat.unpackMantissa bits).toNat
          ((UnpackedFloat.unpackExponent bits).toNat - (1023 + 52) + 1) positive :=
      ⟨_, (if_neg notTop).trans ((if_pos atZero).trans (dif_neg empty))⟩
    have below : bits.toNat % hiddenBit < hiddenBit := Nat.mod_lt _ (by decide)
    rw [unpacked]
    refine counted_finite ofBitVec_unpackSign ⟨positive, ?_, ?_, ?_, .inl ?_⟩ ?_
    · rw [toNat_unpackMantissa]
      omega
    · omega
    · rw [toNat_unpackExponent, noExponent]
      decide
    · rw [toNat_unpackExponent, noExponent]
      rfl
    · rw [toNat_unpackExponent, toNat_unpackMantissa, mod_signedLimit, noExponent, rank]
      simp

theorem counted_of_full (notTop : UnpackedFloat.unpackExponent bits ≠ -1#_)
    (notZero : UnpackedFloat.unpackExponent bits ≠ 0#_) :
    Counted bits.toNat (UnpackedFloat.unpack Format.binary64 bits) := by
  obtain ⟨positive, unpacked⟩ : ∃ positive, UnpackedFloat.unpack Format.binary64 bits =
      .finite (.ofBitVec (UnpackedFloat.unpackSign bits))
        (1#1 ++ UnpackedFloat.unpackMantissa bits).toNat
        ((UnpackedFloat.unpackExponent bits).toNat - (1023 + 52)) positive :=
    ⟨_, (if_neg notTop).trans (if_neg notZero)⟩
  have below : bits.toNat % hiddenBit < hiddenBit := Nat.mod_lt _ (by decide)
  have inside : bits.toNat / hiddenBit % 0x800 < 0x800 := Nat.mod_lt _ (by decide)
  rw [ne_eq, unpackExponent_eq_top] at notTop
  rw [ne_eq, unpackExponent_eq_zero] at notZero
  rw [unpacked]
  refine counted_finite ofBitVec_unpackSign ⟨positive, ?_, ?_, ?_, .inr ?_⟩ ?_
  · rw [toNat_fullMantissa]
    omega
  · rw [toNat_unpackExponent]
    omega
  · rw [toNat_unpackExponent]
    omega
  · rw [toNat_fullMantissa]
    omega
  · rw [toNat_unpackExponent, toNat_fullMantissa, mod_signedLimit]
    exact rank_full _ _

theorem counted_unpack (bits : BitVec Format.binary64.numBits) :
    Counted bits.toNat (UnpackedFloat.unpack Format.binary64 bits) := by
  by_cases atTop : UnpackedFloat.unpackExponent bits = -1#_
  · exact counted_of_top atTop
  by_cases atZero : UnpackedFloat.unpackExponent bits = 0#_
  · exact counted_of_least atTop atZero
  · exact counted_of_full atTop atZero

end

/-- Numbers with a sign are one further down in the order by bits, so that there is a zero on either
side. The difference of one does not change their order. -/
theorem orderKey_eq {x : Float} (number : x.toModel.unpack ≠ .notANumber) :
    0 ≤ place x.toModel.unpack ∧ Benchmark.orderKey x = place x.toModel.unpack ∨
      place x.toModel.unpack ≤ 0 ∧ Benchmark.orderKey x = place x.toModel.unpack - 1 := by
  have counted := (counted_unpack x.toModel.toBits.toBitVec).2.resolve_left number
  have limit : x.toBits.toNat < 2 * signedLimit := x.toBits.toBitVec.isLt
  have atPlace : place x.toModel.unpack =
      (signOf x.toBits.toNat).apply (x.toBits.toNat % signedLimit : Nat) := counted
  rw [atPlace, Benchmark.orderKey, signOf]
  by_cases unsigned : x.toBits.toNat < signedLimit
  · rw [if_pos unsigned, if_pos unsigned, apply_positive, Nat.mod_eq_of_lt unsigned]
    exact .inl ⟨Int.natCast_nonneg _, rfl⟩
  · have signed : x.toBits.toNat % signedLimit = x.toBits.toNat - signedLimit := by
      rw [Nat.mod_eq_sub_mod (by omega), Nat.mod_eq_of_lt (by omega)]
    rw [if_neg unsigned, if_neg unsigned, apply_negative, signed]
    exact .inr ⟨by omega, by omega⟩

theorem compare_notANumber (first : UnpackedFloat) : first.compare .notANumber = none := by
  cases first <;> rfl

theorem compare_of_lt {x y : Float} (less : x < y) :
    x.toModel.unpack.compare y.toModel.unpack = some .lt := by
  have compared : decide (x.toModel.unpack.lt y.toModel.unpack = true) = true := less
  exact eq_of_beq (decide_eq_true_iff.mp compared)

/-- The order by bits agrees with the comparison of numbers, for every two that can be compared. -/
theorem orderKey_lt_of_lt {x y : Float} (less : x < y) :
    Benchmark.orderKey x < Benchmark.orderKey y := by
  have compared := compare_of_lt less
  have before : place x.toModel.unpack < place y.toModel.unpack :=
    place_lt_of_compare (counted_unpack _).1 (counted_unpack _).1 compared
  have first : x.toModel.unpack ≠ .notANumber := fun none => by
    rw [none] at compared
    cases compared
  have second : y.toModel.unpack ≠ .notANumber := fun none => by
    rw [none, compare_notANumber] at compared
    cases compared
  rcases orderKey_eq first with ⟨_, key⟩ | ⟨_, key⟩ <;>
    rcases orderKey_eq second with ⟨_, key'⟩ | ⟨_, key'⟩ <;> omega

end ProfileLexer.Decimal
