import Mathlib
import MixinSheet.Number.Fixed

/-!
# The exact value of a number

A finite double stands for a rational number. `Number.value` takes it from the unpacked form by
which arithmetic on doubles is defined; `Double.ofFloat` takes the same number from the bit pattern
by division. Counted in units of the last decimal place, the number is rounded to the nearest count,
a tie going to the even one.

## Key results

- `Double.ofFloat_eq`: the fields of the bit pattern are those of the unpacked form
- `Number.value_eq_signedBy`: the value in terms of the fields
- `Number.isRounded_scaled`: `Number.scaled` rounds the value correctly
- `Number.beq_iff`: when two doubles are equal
-/

namespace MixinSheet

open Float.Model (UnpackedFloat)
open Float.Model.UnpackedFloat (unpackExponent unpackMantissa unpackSign Sign)

/-! ## Fields -/

namespace Double

variable (bits : UInt64)

/-- The mantissa is in the low bits. -/
private theorem toNat_unpackMantissa :
    (@unpackMantissa .binary64 bits.toBitVec).toNat = bits.toNat % Nat.pow 2 52 := by
  simp [unpackMantissa]

/-- The exponent is in the eleven bits above them. -/
private theorem toNat_unpackExponent :
    (@unpackExponent .binary64 bits.toBitVec).toNat =
      bits.toNat / Nat.pow 2 52 % Nat.pow 2 11 := by
  simp [unpackExponent, Nat.shiftRight_eq_div_pow]

/-- The sign is the highest bit. -/
private theorem toNat_unpackSign :
    (@unpackSign .binary64 bits.toBitVec).toNat = bits.toNat / Nat.pow 2 63 % 2 := by
  simp [unpackSign, Nat.shiftRight_eq_div_pow]

/-- The sign bit says whether a number is negative. -/
private theorem ofBitVec_beq_negative (bit : BitVec 1) :
    (Sign.ofBitVec bit == .negative) = (bit.toNat == 1) := by
  revert bit
  decide

/-- The bit that is not stored is the highest one. -/
private theorem toNat_one_append (fraction : BitVec 52) :
    (1#1 ++ fraction).toNat = Nat.pow 2 52 + fraction.toNat := by
  have hlt : fraction.toNat < 2 ^ 52 := fraction.isLt
  rw [BitVec.toNat_append, ← Nat.shiftLeft_add_eq_or_of_lt hlt]
  rfl

/-- What an unpacked double stands for. -/
def ofUnpacked : UnpackedFloat → Double
  | .notANumber => .nan
  | .infinity sign => .infinite (sign == .negative)
  | .zero sign => .finite (sign == .negative) 0 (-1074)
  | .finite sign mantissa exponent _ => .finite (sign == .negative) mantissa exponent

/-- The fields that are divided out of a bit pattern are those of its unpacked form. -/
private theorem ofBits_eq :
    ofBits bits = ofUnpacked (UnpackedFloat.unpack .binary64 bits.toBitVec) := by
  have hsign : (Sign.ofBitVec (@unpackSign .binary64 bits.toBitVec) == .negative) =
      (bits.toNat / Nat.pow 2 63 % 2 == 1) := by
    rw [ofBitVec_beq_negative, toNat_unpackSign]
  have hones : @unpackExponent .binary64 bits.toBitVec = -1#_ ↔
      bits.toNat / Nat.pow 2 52 % Nat.pow 2 11 = 2047 := by
    rw [← BitVec.toNat_inj, toNat_unpackExponent]
    rfl
  have hzero : @unpackExponent .binary64 bits.toBitVec = 0#_ ↔
      bits.toNat / Nat.pow 2 52 % Nat.pow 2 11 = 0 := by
    rw [← BitVec.toNat_inj, toNat_unpackExponent]
    rfl
  have hnone : @unpackMantissa .binary64 bits.toBitVec = 0#_ ↔
      bits.toNat % Nat.pow 2 52 = 0 := by
    rw [← BitVec.toNat_inj, toNat_unpackMantissa]
    rfl
  unfold ofBits
  fun_cases UnpackedFloat.unpack with
  | case1 _ _ _ _ hexponent hmantissa =>
    -- an infinity
    simp only [if_pos (hones.1 hexponent), if_pos (hnone.1 hmantissa), ofUnpacked]
    rw [hsign]
  | case2 _ _ hexponent hmantissa =>
    simp only [if_pos (hones.1 hexponent), if_neg (mt hnone.2 hmantissa), ofUnpacked]
  | case3 _ _ _ _ hexponent hexponent' hmantissa =>
    -- a zero
    simp only [if_neg (mt hones.2 hexponent), if_pos (hzero.1 hexponent'), hnone.1 hmantissa,
      ofUnpacked]
    rw [hsign]
  | case4 _ _ exponent _ _ hexponent hexponent' hmantissa =>
    -- a number without the highest bit
    have hbias : exponent = ((@unpackExponent .binary64 bits.toBitVec).toNat : Int) - 1075 :=
      rfl
    simp only [if_neg (mt hones.2 hexponent), if_pos (hzero.1 hexponent'), ofUnpacked]
    rw [toNat_unpackMantissa, hsign, hbias, toNat_unpackExponent, hzero.1 hexponent']
    rfl
  | case5 _ _ exponent _ _ hexponent hexponent' =>
    have hbias : exponent = ((@unpackExponent .binary64 bits.toBitVec).toNat : Int) - 1075 :=
      rfl
    simp only [if_neg (mt hones.2 hexponent), if_neg (mt hzero.2 hexponent'), ofUnpacked]
    rw [toNat_one_append, toNat_unpackMantissa, hsign, hbias, toNat_unpackExponent]

/-- The bit pattern of a double and its unpacked form have the same fields. -/
theorem ofFloat_eq (x : Float) : ofFloat x = ofUnpacked x.toModel.unpack :=
  ofBits_eq x.toBits

end Double

/-! ## Values -/

namespace Number

/-- The rational number that a finite double stands for. -/
def value (x : Float) : ℚ :=
  match x.toModel.unpack with
  | .finite sign mantissa exponent _ => sign.apply mantissa * 2 ^ exponent
  | _ => 0

/-- A negative number has the value of the positive one, with the other sign. -/
def signedBy (negative : Bool) (magnitude : ℚ) : ℚ :=
  if negative then -magnitude else magnitude

/-- The value can be read off the fields of the bit pattern. -/
theorem value_eq_signedBy {x : Float} {negative : Bool} {mantissa : Nat} {exponent : Int}
    (h : Double.ofFloat x = .finite negative mantissa exponent) :
    value x = signedBy negative (mantissa * 2 ^ exponent) := by
  rw [Double.ofFloat_eq] at h
  rw [value]
  cases hunpack : x.toModel.unpack with
  | infinity | notANumber =>
    -- neither of them is finite
    rw [hunpack] at h
    exact nomatch h
  | zero sign =>
    -- a zero has the mantissa 0, so its sign does not matter
    rw [hunpack] at h
    obtain ⟨-, rfl, -⟩ := Double.finite.inj h
    simp [signedBy]
  | finite sign mantissa' exponent' hpos =>
    rw [hunpack] at h
    obtain ⟨rfl, rfl, rfl⟩ := Double.finite.inj h
    cases sign <;> simp [signedBy, Sign.apply]

/-- A finite double has fields. -/
theorem ofFloat_of_isFinite {x : Float} (h : x.isFinite = true) :
    ∃ negative mantissa exponent, Double.ofFloat x = .finite negative mantissa exponent := by
  have hfinite : x.toModel.unpack.isFinite = true := h
  rw [Double.ofFloat_eq]
  cases hunpack : x.toModel.unpack with
  | infinity | notANumber =>
    rw [hunpack] at hfinite
    exact nomatch hfinite
  | zero | finite => exact ⟨_, _, _, rfl⟩

/-! ## Rounding -/

/-- The count of hundred-millionths that is nearest to the value; of two that are equally near it
is the even one. -/
structure IsRounded (value : ℚ) (units : ℤ) : Prop where
  nearest : ∀ other : ℤ, |value - units / 10 ^ 8| ≤ |value - other / 10 ^ 8|
  even_of_tie : ∀ other : ℤ, other ≠ units →
    |value - other / 10 ^ 8| = |value - units / 10 ^ 8| → Even units

/-- An error is the same in units, but for the scale. -/
private theorem abs_sub_div (value : ℚ) (units : ℤ) :
    |value - units / 10 ^ 8| = |value * 10 ^ 8 - units| / 10 ^ 8 := by
  have hunits : value - units / 10 ^ 8 = (value * 10 ^ 8 - units) / 10 ^ 8 := by field_simp
  rw [hunits, abs_div, abs_of_pos (by norm_num : (0 : ℚ) < 10 ^ 8)]

/-- Two whole numbers cannot both be near to the same number. -/
private theorem one_le_abs_sub_add_abs_sub {x : ℚ} {m n : ℤ} (hne : m ≠ n) :
    1 ≤ |x - m| + |x - n| := by
  have hstep : (1 : ℚ) ≤ |(m : ℚ) - n| := by exact_mod_cast Int.one_le_abs (sub_ne_zero.2 hne)
  calc (1 : ℚ) ≤ |(m : ℚ) - n| := hstep
    _ ≤ |(m : ℚ) - x| + |x - n| := abs_sub_le _ _ _
    _ = |x - m| + |x - n| := by rw [abs_sub_comm x m]

/-- Two different counts are at least one unit apart, so one that is half a unit off or less is the
nearest. -/
private theorem IsRounded.of_error {value : ℚ} {units : ℤ}
    (herror : |value * 10 ^ 8 - units| ≤ 1 / 2)
    (htie : |value * 10 ^ 8 - units| = 1 / 2 → Even units) : IsRounded value units := by
  constructor
  · intro other
    rw [abs_sub_div, abs_sub_div]
    generalize value * 10 ^ 8 = x at herror
    refine div_le_div_of_nonneg_right ?_ (by norm_num)
    -- two different counts are at least one apart, so the other one is at least one half away
    by_cases hne : other = units
    · rw [hne]
    · have hapart := one_le_abs_sub_add_abs_sub (x := x) hne
      linarith
  · intro other hne hsame
    rw [abs_sub_div, abs_sub_div, div_left_inj' (by norm_num)] at hsame
    generalize value * 10 ^ 8 = x at herror htie hsame
    -- a tie is just one half away from both counts
    have hapart := one_le_abs_sub_add_abs_sub (x := x) hne
    exact htie (by linarith)

/-- Rounding does not depend on the sign. -/
private theorem IsRounded.neg {value : ℚ} {units : ℤ} (h : IsRounded value units) :
    IsRounded (-value) (-units) := by
  -- the distance to a count is that of the negated value to the negated count
  have hflip : ∀ other : ℤ,
      |-value - ((-other : ℤ) : ℚ) / 10 ^ 8| = |value - other / 10 ^ 8| := by
    intro other
    have hsub : -value - ((-other : ℤ) : ℚ) / 10 ^ 8 = -(value - other / 10 ^ 8) := by
      push_cast
      ring
    rw [hsub, abs_neg]
  constructor
  · intro other
    rw [hflip, ← neg_neg other, hflip]
    exact h.nearest (-other)
  · intro other hne hsame
    rw [hflip, ← neg_neg other, hflip] at hsame
    exact (h.even_of_tie (-other) (fun heq => hne (by rw [← heq, neg_neg])) hsame).neg

/-- A magnitude and its sign can be rounded separately. -/
theorem IsRounded.signedBy {value : ℚ} {units : ℕ} (h : IsRounded value units) (negative : Bool) :
    ∃ count : ℤ, signedBy negative (units / 10 ^ 8) = count / 10 ^ 8 ∧
      IsRounded (signedBy negative value) count := by
  cases negative with
  | false => exact ⟨units, rfl, h⟩
  | true => exact ⟨-units, by simp [Number.signedBy, neg_div], h.neg⟩

/-- A value that is a count of hundred-millionths is kept. -/
theorem IsRounded.eq_of_value_eq {value : ℚ} {units count : ℤ} (h : IsRounded value units)
    (hvalue : value = count / 10 ^ 8) : units = count := by
  have hnearest := h.nearest count
  rw [← hvalue, sub_self, abs_zero, abs_nonpos_iff, sub_eq_zero, hvalue,
    div_left_inj' (by norm_num)] at hnearest
  exact_mod_cast hnearest.symm

/-- A quotient is rounded to a whole number that is at most one half off, and to an even one if it
is just one half off. -/
private theorem divideToEven_error (numerator : Nat) {denominator : Nat} (h : 0 < denominator) :
    |(numerator : ℚ) / denominator - divideToEven numerator denominator| ≤ 1 / 2 ∧
      (|(numerator : ℚ) / denominator - divideToEven numerator denominator| = 1 / 2 →
        Even (divideToEven numerator denominator)) := by
  -- division with remainder: the remainder decides where to round
  set quotient := numerator / denominator with hquotient
  set rest := numerator % denominator with hrest
  have hpos : (0 : ℚ) < denominator := by exact_mod_cast h
  have hexact : (numerator : ℚ) / denominator = quotient + rest / denominator := by
    have hsum : (numerator : ℚ) = denominator * quotient + rest := by
      exact_mod_cast (Nat.div_add_mod numerator denominator).symm
    rw [hsum]
    field_simp
  have hnonneg : (0 : ℚ) ≤ rest / denominator := by positivity
  rw [hexact]
  simp only [divideToEven, ← hquotient, ← hrest]
  split_ifs with hless hmore
  · -- less than one half is cut off
    have hlt : (rest : ℚ) / denominator < 1 / 2 := by
      rw [div_lt_iff₀ hpos]
      have : (2 * rest : ℚ) < denominator := by exact_mod_cast hless
      linarith
    have habs : |(quotient : ℚ) + rest / denominator - quotient| = rest / denominator := by
      rw [add_sub_cancel_left, abs_of_nonneg hnonneg]
    rw [habs]
    exact ⟨hlt.le, fun htie => absurd htie hlt.ne⟩
  · -- more than one half is filled up
    have hlt : 1 / 2 < (rest : ℚ) / denominator := by
      rw [lt_div_iff₀ hpos]
      have : (denominator : ℚ) < 2 * rest := by exact_mod_cast hmore
      linarith
    have hle : (rest : ℚ) / denominator ≤ 1 := by
      rw [div_le_one hpos]
      exact_mod_cast (Nat.mod_lt numerator h).le
    have habs : |(quotient : ℚ) + rest / denominator - (quotient + 1 : ℕ)| =
        1 - rest / denominator := by
      rw [abs_of_nonpos (by push_cast; linarith)]
      push_cast
      ring
    rw [habs]
    exact ⟨by linarith, fun htie => absurd htie (by linarith)⟩
  · -- just one half goes up from an odd quotient and down from an even one
    have hhalf : (rest : ℚ) / denominator = 1 / 2 := by
      rw [div_eq_iff hpos.ne']
      have : (2 * rest : ℚ) = denominator := by exact_mod_cast (by omega : 2 * rest = denominator)
      linarith
    have heven : Even (quotient + quotient % 2) := by
      rw [Nat.even_iff]
      omega
    refine ⟨?_, fun _ => heven⟩
    rw [hhalf]
    obtain hmod | hmod := Nat.mod_two_eq_zero_or_one quotient <;> rw [hmod] <;> push_cast <;>
      rw [abs_le] <;> constructor <;> linarith

/-- A whole has a hundred million units. -/
theorem cast_unitsPerWhole : ((unitsPerWhole : ℕ) : ℚ) = 10 ^ 8 := by
  have hpow : unitsPerWhole = 10 ^ 8 := rfl
  rw [hpow, Nat.cast_pow, Nat.cast_ofNat]

/-- The value in units of the last decimal place is rounded correctly. -/
theorem isRounded_scaled (mantissa : Nat) (exponent : Int) :
    IsRounded (mantissa * 2 ^ exponent) (scaled mantissa exponent : ℕ) := by
  cases exponent with
  | ofNat e =>
    -- nothing is cut off
    have hexact : (mantissa : ℚ) * 2 ^ (Int.ofNat e) * 10 ^ 8 =
        (scaled mantissa (.ofNat e) : ℕ) := by
      simp [scaled, cast_unitsPerWhole]
    refine .of_error ?_ ?_ <;> rw [hexact, Int.cast_natCast, sub_self, abs_zero]
    · norm_num
    · intro htie
      norm_num at htie
  | negSucc e =>
    -- a power of two in the denominator, so that places may be cut off
    have hquotient : (mantissa : ℚ) * 2 ^ (Int.negSucc e) * 10 ^ 8 =
        (mantissa * unitsPerWhole : ℕ) / (Nat.pow 2 (e + 1) : ℕ) := by
      simp [cast_unitsPerWhole, zpow_negSucc]
      ring
    obtain ⟨herror, htie⟩ :=
      divideToEven_error (mantissa * unitsPerWhole) (Nat.pow_pos (n := e + 1) Nat.two_pos)
    refine .of_error ?_ ?_ <;> rw [hquotient, Int.cast_natCast]
    · exact herror
    · exact fun h => (Int.even_coe_nat _).2 (htie h)

/-! ## Equality -/

/-- The number, with a positive sign if it is a zero. -/
def positiveZero (x : Float) : Float :=
  if x = -0.0 then 0.0 else x

/-- The sign of a zero has nothing to do with being a number. -/
theorem isNaN_positiveZero (x : Float) : (positiveZero x).isNaN = x.isNaN := by
  unfold positiveZero
  split
  · next hzero =>
    rw [hzero]
    rfl
  · rfl

/-- Doubles are equal if they are not NaN and the same up to the sign of a zero. -/
theorem beq_iff {x y : Float} :
    (x == y) = true ↔ x.isNaN = false ∧ positiveZero x = positiveZero y := by
  rw [Float.isNaN_eq_decide_eq_nan, decide_eq_false_iff_not]
  constructor
  · intro h
    -- equal numbers are the same number or zeros of either sign
    obtain ⟨hnan, -, rfl | ⟨rfl, rfl⟩ | ⟨rfl, rfl⟩⟩ := Float.beq_iff_ne_nan_and_eq.1 h
    all_goals exact ⟨hnan, rfl⟩
  · rintro ⟨hnan, hsame⟩
    unfold positiveZero at hsame
    -- two numbers with one positive form are the same number, or both are zeros
    by_cases hx : x = -0.0 <;> by_cases hy : y = -0.0
    · rw [hx, hy]
      rfl
    · rw [if_pos hx, if_neg hy] at hsame
      rw [hx, ← hsame]
      rfl
    · rw [if_neg hx, if_pos hy] at hsame
      rw [hsame, hy]
      rfl
    · -- no zero has been replaced
      rw [if_neg hx, if_neg hy] at hsame
      rw [← hsame]
      exact Float.beq_self_iff.2 hnan

/-- A number equals zero if it is one of the two zeros. -/
theorem beq_zero_iff {x : Float} : (x == 0.0) = true ↔ x = 0.0 ∨ x = -0.0 := by
  constructor
  · intro h
    obtain ⟨-, -, hx | ⟨hx, -⟩ | ⟨hx, -⟩⟩ := Float.beq_iff_ne_nan_and_eq.1 h
    · exact .inl hx
    · exact .inl hx
    · exact .inr hx
  · rintro (rfl | rfl) <;> rfl

end Number

end MixinSheet
