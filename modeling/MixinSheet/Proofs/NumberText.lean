import MixinSheet.Proofs.ExactValue

/-!
# The text of a number as a decimal

The text of a finite number is a decimal in its shortest form: no zeros in front of the whole part
or at the end of the fraction, at most eight places, and no negative zero. A decimal can be read off
its text in one way only, so that the text stands for one rational number, and this is the multiple
of one hundred-millionth that is nearest to the number.

## Key results

- `Decimal`: decimals in shortest form, with their texts and values
- `Decimal.eq_of_chars_eq`: the text of a decimal determines it
- `Decimal.ofUnits`: the shortest form of a count of hundred-millionths
- `Decimal.dropTrailing_fixedText`: what is left when zeros and the point are cut off
- `Number.text_eq`: both ways of writing a number give the shortest form
- `number_text_is_rounded`: the text of a finite number is that of the number rounded
-/

namespace MixinSheet

open Number

/-! ## Digits -/

namespace Number

/-- The digits of a number start with a zero only if it is zero. -/
private theorem eq_zero_of_head?_toDigits {n : Nat} (h : (Nat.toDigits 10 n).head? = some '0') :
    n = 0 := by
  induction n using Nat.strongRecOn with
  | ind n ih =>
    by_cases hlt : n < 10
    · rw [Nat.toDigits_of_lt_base hlt, List.head?_cons, Option.some.injEq] at h
      exact Nat.digitChar_eq_zero.1 h
    · -- the first digit is also that of the number without its last digit
      have hle : 10 ≤ n := Nat.le_of_not_lt hlt
      rw [Nat.toDigits_of_base_le (by decide) hle,
        List.head?_append_of_ne_nil _ Nat.toDigits_ne_nil] at h
      have hzero := ih (n / 10) (by omega) h
      omega

variable {width n : Nat}

/-- Padding is made of digits. -/
private theorem isDigit_of_mem_paddedDigits {c : Char} (h : c ∈ paddedDigits width n) :
    c.isDigit = true := by
  obtain hzero | hdigit := List.mem_append.1 h
  · rw [List.eq_of_mem_replicate hzero]
    rfl
  · exact Nat.isDigit_of_mem_toDigits (by decide) (by decide) hdigit

/-- Numbers that are not too great are padded to the width. -/
private theorem length_paddedDigits (hwidth : 0 < width) (h : n < 10 ^ width) :
    (paddedDigits width n).length = width := by
  have hle := (Nat.length_toDigits_le_iff (by decide) hwidth).2 h
  simp only [paddedDigits, List.length_append, List.length_replicate]
  omega

/-- Padding does not change the number that digits stand for. -/
private theorem ofDigitChars_paddedDigits : Nat.ofDigitChars 10 (paddedDigits width n) 0 = n := by
  simp only [paddedDigits]
  rw [Nat.ofDigitChars_append, Nat.ofDigitChars_replicate_zero, Nat.mul_zero,
    Nat.ofDigitChars_toDigits (by decide) (by decide)]

/-- What is left out at the end of a text are copies of the one character. -/
private theorem dropTrailing_append_replicate (c : Char) (text : List Char) :
    ∃ count, text = dropTrailing c text ++ List.replicate count c := by
  have hsame : ∀ d ∈ text.rtakeWhile (· == c), d = c :=
    fun d hd => by simpa using List.mem_rtakeWhile_imp hd
  refine ⟨(text.rtakeWhile (· == c)).length, ?_⟩
  rw [← List.eq_replicate_of_mem hsame]
  exact List.rdropWhile_append_rtakeWhile.symm

/-- The character that is left out does not come last any more. -/
private theorem getLast?_dropTrailing_ne (c : Char) (text : List Char) :
    (dropTrailing c text).getLast? ≠ some c := by
  intro hlast
  obtain ⟨hne, hsame⟩ := List.mem_getLast?_eq_getLast hlast
  exact List.rdropWhile_last_not (· == c) text hne (beq_iff_eq.2 hsame.symm)

/-- A text that ends with another character stays as it is. -/
private theorem dropTrailing_eq_self {c : Char} {text : List Char} (h : text.getLast? ≠ some c) :
    dropTrailing c text = text := by
  refine List.rdropWhile_eq_self_iff.2 fun hne hlast => h ?_
  rw [List.getLast?_eq_some_getLast hne, beq_iff_eq.1 hlast]

/-- The end of a text stops the search if anything is left of it. -/
private theorem dropTrailing_append (c : Char) (front back : List Char) :
    dropTrailing c (front ++ back) =
      if dropTrailing c back = [] then dropTrailing c front else front ++ dropTrailing c back := by
  simp only [dropTrailing, List.reverse_append, List.dropWhile_append, List.isEmpty_iff,
    List.reverse_eq_nil_iff]
  split
  · rfl
  · rw [List.reverse_append, List.reverse_reverse]

/-- Digits do not end with a point. -/
private theorem getLast?_ne_point {digits : List Char} (h : ∀ c ∈ digits, c.isDigit = true) :
    digits.getLast? ≠ some '.' := by
  intro hlast
  have hdigit := h '.' (List.mem_of_getLast? hlast)
  exact nomatch hdigit

/-- Zeros are cut off after the point only. -/
private theorem dropTrailing_zeros_append_point (front digits : List Char) :
    dropTrailing '0' (front ++ '.' :: digits) = front ++ '.' :: dropTrailing '0' digits := by
  have hpoint : dropTrailing '0' ('.' :: digits) = '.' :: dropTrailing '0' digits := by
    rw [← List.singleton_append, dropTrailing_append]
    split
    · next hnone =>
      rw [hnone]
      rfl
    · rfl
  rw [dropTrailing_append, hpoint, if_neg (List.cons_ne_nil _ _)]

/-- The point is cut off if nothing follows it. -/
private theorem dropTrailing_point_append {front digits : List Char}
    (hfront : front.getLast? ≠ some '.') (hdigits : digits.getLast? ≠ some '.') :
    dropTrailing '.' (front ++ '.' :: digits) =
      front ++ ((if digits.isEmpty then [] else ['.']) ++ digits) := by
  cases digits with
  | nil =>
    have hpoint : dropTrailing '.' ['.'] = [] := rfl
    rw [dropTrailing_append, if_pos hpoint, dropTrailing_eq_self hfront]
    simp
  | cons c rest =>
    refine dropTrailing_eq_self ?_
    rwa [List.getLast?_append_of_ne_nil _ (List.cons_ne_nil _ _), List.getLast?_cons_cons]

/-- The number that digits after the point stand for. -/
def fractionValue (digits : List Char) : ℚ :=
  Nat.ofDigitChars 10 digits 0 / 10 ^ digits.length

/-- Zeros at the end of a fraction do not count. -/
private theorem fractionValue_dropTrailing (digits : List Char) :
    fractionValue (dropTrailing '0' digits) = fractionValue digits := by
  obtain ⟨count, hdigits⟩ := dropTrailing_append_replicate '0' digits
  generalize dropTrailing '0' digits = kept at hdigits
  subst hdigits
  -- the zeros multiply the numerator and the denominator by the same power of ten
  rw [fractionValue, fractionValue, Nat.ofDigitChars_append, Nat.ofDigitChars_replicate_zero,
    List.length_append, List.length_replicate, pow_add]
  push_cast
  field_simp

end Number

/-! ## Decimals in shortest form -/

/-- A decimal in its shortest form, with at most eight places. -/
structure Decimal where
  negative : Bool
  whole : List Char
  fraction : List Char
  whole_ne_nil : whole ≠ []
  whole_digits : ∀ c ∈ whole, c.isDigit = true
  /-- The whole part starts with a zero only if it is zero. -/
  whole_head : whole.head? = some '0' → whole = ['0']
  fraction_digits : ∀ c ∈ fraction, c.isDigit = true
  fraction_length : fraction.length ≤ 8
  fraction_last : fraction.getLast? ≠ some '0'
  /-- Zero has no sign. -/
  not_negative_zero : negative = true → whole = ['0'] → fraction ≠ []

namespace Decimal

/-- The point, if places follow it. -/
def point (decimal : Decimal) : List Char :=
  if decimal.fraction.isEmpty then [] else ['.']

/-- The characters after the sign. -/
def unsigned (decimal : Decimal) : List Char :=
  decimal.whole ++ (decimal.point ++ decimal.fraction)

/-- The characters of a decimal. -/
def chars (decimal : Decimal) : List Char :=
  (if decimal.negative then ['-'] else []) ++ decimal.unsigned

/-- The text of a decimal. -/
def text (decimal : Decimal) : String :=
  String.ofList decimal.chars

/-- The rational number that a decimal stands for. -/
def value (decimal : Decimal) : ℚ :=
  signedBy decimal.negative (Nat.ofDigitChars 10 decimal.whole 0 + fractionValue decimal.fraction)

/-- The whole part is followed by the point, or by nothing. -/
private theorem takeWhile_unsigned (decimal : Decimal) :
    decimal.unsigned.takeWhile Char.isDigit = decimal.whole := by
  have hstop : (decimal.point ++ decimal.fraction).takeWhile Char.isDigit = [] := by
    cases hfraction : decimal.fraction with
    | nil => simp [point, hfraction]
    | cons c rest => simp [point, hfraction]
  rw [unsigned, List.takeWhile_append_of_pos decimal.whole_digits, hstop, List.append_nil]

/-- The characters after the sign determine both parts. -/
private theorem unsigned_inj {a b : Decimal} (h : a.unsigned = b.unsigned) :
    a.whole = b.whole ∧ a.fraction = b.fraction := by
  have hwhole : a.whole = b.whole := by
    rw [← a.takeWhile_unsigned, h, b.takeWhile_unsigned]
  rw [unsigned, unsigned, hwhole] at h
  have hrest := List.append_cancel_left h
  have htail : ∀ decimal : Decimal,
      (decimal.point ++ decimal.fraction).tail = decimal.fraction := by
    intro decimal
    cases hfraction : decimal.fraction <;> simp [point, hfraction]
  exact ⟨hwhole, by rw [← htail a, hrest, htail b]⟩

/-- No decimal starts with a minus sign but a negative one. -/
private theorem head?_unsigned_ne (decimal : Decimal) : decimal.unsigned.head? ≠ some '-' := by
  obtain ⟨c, rest, hwhole⟩ := List.exists_cons_of_ne_nil decimal.whole_ne_nil
  have hdigit : c.isDigit = true := decimal.whole_digits c (by simp [hwhole])
  rw [unsigned, hwhole]
  rintro ⟨⟩
  exact nomatch hdigit

/-- A decimal can be read off its text. -/
theorem eq_of_chars_eq {a b : Decimal} (h : a.chars = b.chars) : a = b := by
  -- the first character is a minus sign or a digit
  have hnegative : a.negative = b.negative := by
    have hhead := congrArg List.head? h
    have ha := a.head?_unsigned_ne
    have hb := b.head?_unsigned_ne
    unfold chars at hhead
    cases hsign : a.negative <;> cases hsign' : b.negative <;> simp_all
  have hunsigned : a.unsigned = b.unsigned := by
    unfold chars at h
    rw [hnegative] at h
    exact List.append_cancel_left h
  obtain ⟨hwhole, hfraction⟩ := unsigned_inj hunsigned
  cases a
  cases b
  simp_all

/-! ## Counts of hundred-millionths -/

/-- The places after the point, written out. -/
def placesOf (units : Nat) : List Char :=
  paddedDigits places (units % unitsPerWhole)

/-- There are always eight places. -/
private theorem length_placesOf (units : Nat) : (placesOf units).length = 8 :=
  length_paddedDigits (by decide) (Nat.mod_lt units (by decide))

/-- The whole part and the places add up to the count. -/
private theorem whole_add_fractionValue_placesOf (units : Nat) :
    ((units / unitsPerWhole : ℕ) : ℚ) + fractionValue (placesOf units) = units / 10 ^ 8 := by
  have hsum : (units : ℚ) = 10 ^ 8 * (units / unitsPerWhole : ℕ) + (units % unitsPerWhole : ℕ) := by
    rw [← cast_unitsPerWhole]
    exact_mod_cast (Nat.div_add_mod units unitsPerWhole).symm
  rw [fractionValue, length_placesOf, placesOf, ofDigitChars_paddedDigits, hsum]
  field_simp

/-- The shortest form of a count of hundred-millionths. -/
def ofUnits (negative : Bool) (units : Nat) : Decimal where
  negative := negative && units != 0
  whole := Nat.toDigits 10 (units / unitsPerWhole)
  fraction := dropTrailing '0' (placesOf units)
  whole_ne_nil := Nat.toDigits_ne_nil
  whole_digits _ hc := Nat.isDigit_of_mem_toDigits (by decide) (by decide) hc
  whole_head hhead := by
    rw [eq_zero_of_head?_toDigits hhead]
    rfl
  fraction_digits c hc := by
    have hshort := List.rdropWhile_prefix (· == '0') (placesOf units)
    exact isDigit_of_mem_paddedDigits (hshort.subset hc)
  fraction_length := by
    have hshort := List.rdropWhile_prefix (· == '0') (placesOf units)
    exact length_placesOf units ▸ hshort.length_le
  fraction_last := getLast?_dropTrailing_ne _ _
  not_negative_zero hnegative hwhole hfraction := by
    -- nothing is left of either part, so the count itself is zero
    have hsum := whole_add_fractionValue_placesOf units
    have hzero : units / unitsPerWhole = 0 := eq_zero_of_head?_toDigits (by rw [hwhole]; rfl)
    rw [← fractionValue_dropTrailing, hfraction, hzero] at hsum
    have hunits : units = 0 := by simpa [fractionValue] using hsum.symm
    simp [hunits] at hnegative

/-- The shortest form stands for the count. -/
private theorem value_ofUnits (negative : Bool) (units : Nat) :
    (ofUnits negative units).value = signedBy negative (units / 10 ^ 8) := by
  simp only [value, ofUnits]
  rw [Nat.ofDigitChars_toDigits (by decide) (by decide), fractionValue_dropTrailing,
    whole_add_fractionValue_placesOf]
  by_cases hunits : units = 0
  · simp [hunits, signedBy]
  · rw [bne_iff_ne.2 hunits, Bool.and_true]

/-- No decimal is written as a negative zero. -/
private theorem chars_ne_negative_zero (decimal : Decimal) : decimal.chars ≠ ['-', '0'] := by
  intro h
  cases hsign : decimal.negative with
  | false =>
    rw [chars, hsign] at h
    exact decimal.head?_unsigned_ne (congrArg List.head? h)
  | true =>
    -- the whole part is a zero and no place is left
    have hunsigned : decimal.unsigned = ['0'] := by
      rw [chars, hsign] at h
      exact (List.cons.inj h).2
    have hwhole : decimal.whole = ['0'] := by
      rw [← decimal.takeWhile_unsigned, hunsigned]
      rfl
    have hfraction : decimal.point ++ decimal.fraction = [] := by
      rw [unsigned, hwhole] at hunsigned
      exact (List.cons.inj hunsigned).2
    exact decimal.not_negative_zero hsign hwhole (List.append_eq_nil_iff.1 hfraction).2

end Decimal

/-! ## Whole numbers -/

namespace Number

variable {negative : Bool} {mantissa : Nat} {exponent : Int}

/-- A quotient without a rest is not rounded. -/
private theorem divideToEven_mul (n : Nat) {denominator : Nat} (h : 0 < denominator) :
    divideToEven (n * denominator) denominator = n := by
  simp [divideToEven, Nat.mul_div_cancel n h, h]

/-- Without a fraction, the count of hundred-millionths is that of the whole part. -/
private theorem scaled_of_fract
    (h : (Double.finite negative mantissa exponent).fract.isZero = true) :
    scaled mantissa exponent = Double.wholePart mantissa exponent * unitsPerWhole := by
  cases exponent with
  | ofNat e => rfl
  | negSucc e =>
    have hpos : 0 < Nat.pow 2 (e + 1) := Nat.pow_pos Nat.two_pos
    have hrest : mantissa % Nat.pow 2 (e + 1) = 0 := by simpa [Double.fract, Double.isZero] using h
    obtain ⟨whole, rfl⟩ := Nat.dvd_of_mod_eq_zero hrest
    rw [scaled, Double.wholePart, Nat.mul_div_cancel_left _ hpos, Nat.mul_assoc, Nat.mul_comm,
      divideToEven_mul _ hpos]

/-- The whole part of a number below a bound is below it. -/
private theorem wholePart_lt {bound : Nat}
    (h : (Double.finite negative mantissa exponent).magnitudeBelow bound = true) :
    Double.wholePart mantissa exponent < bound := by
  cases exponent with
  | ofNat e => exact of_decide_eq_true h
  | negSucc e =>
    have hlt : mantissa < bound * Nat.pow 2 (e + 1) := of_decide_eq_true h
    exact Nat.div_lt_of_lt_mul (by rwa [Nat.mul_comm])

/-- The conversion to a word is exact where whole numbers are written as such. -/
private theorem toInt64_of_lt (h : Double.wholePart mantissa exponent < wholeBound) :
    (Double.finite negative mantissa exponent).toInt64 =
      if negative then -(Double.wholePart mantissa exponent : Int)
      else Double.wholePart mantissa exponent := by
  have hbound : wholeBound ≤ Double.greatestInt64 := by decide
  rw [Double.toInt64, Nat.min_eq_left (by omega), Nat.min_eq_left (by omega)]

/-- The text of a negative whole number has a minus sign, unless it is zero. -/
private theorem repr_signed (negative : Bool) (n : Nat) :
    (if negative then -(n : Int) else n).repr =
      String.ofList ((if negative && n != 0 then ['-'] else []) ++ Nat.toDigits 10 n) := by
  cases negative with
  | false => rfl
  | true =>
    cases n with
    | zero => rfl
    | succ n =>
      change "-" ++ (n + 1).repr = _
      rw [Nat.repr_eq_ofList_toDigits]
      simp

end Number

/-! ## Texts of numbers -/

namespace Decimal

/-- The shortest form of a whole number has no places. -/
private theorem chars_ofUnits_whole (negative : Bool) (n : Nat) :
    (ofUnits negative (n * unitsPerWhole)).chars =
      (if negative && n != 0 then ['-'] else []) ++ Nat.toDigits 10 n := by
  -- a whole number leaves no fraction: its eight places are zeros, which are dropped
  have hpos : 0 < unitsPerWhole := by decide
  have hfraction : (ofUnits negative (n * unitsPerWhole)).fraction = [] := by
    change dropTrailing '0' (placesOf (n * unitsPerWhole)) = []
    rw [placesOf, Nat.mul_mod_left]
    rfl
  have hwhole : (ofUnits negative (n * unitsPerWhole)).whole = Nat.toDigits 10 n := by
    change Nat.toDigits 10 (n * unitsPerWhole / unitsPerWhole) = _
    rw [Nat.mul_div_cancel n hpos]
  -- the sign of a zero is dropped too
  have hsign : (ofUnits negative (n * unitsPerWhole)).negative = (negative && n != 0) := by
    change (negative && n * unitsPerWhole != 0) = _
    cases n <;> simp [unitsPerWhole]
  rw [chars, unsigned, point, hfraction, hwhole, hsign]
  simp

/-- Cutting off the end of the text with eight places leaves the shortest form, but for the sign of
a zero. -/
theorem dropTrailing_fixedText (negative : Bool) (mantissa : Nat) (exponent : Int) :
    dropTrailing '.' (dropTrailing '0' (fixedText (.finite negative mantissa exponent))) =
      (if negative then ['-'] else []) ++
        (ofUnits negative (scaled mantissa exponent)).unsigned := by
  generalize hdecimal : ofUnits negative (scaled mantissa exponent) = decimal
  have hfixed : fixedText (.finite negative mantissa exponent) =
      ((if negative then ['-'] else []) ++ decimal.whole) ++
        '.' :: placesOf (scaled mantissa exponent) := by
    rw [← hdecimal]
    rfl
  have hfraction : dropTrailing '0' (placesOf (scaled mantissa exponent)) = decimal.fraction := by
    rw [← hdecimal]
    rfl
  -- the whole part ends with a digit, so the point is the first character that can stop the cuts
  have hfront : ((if negative then ['-'] else []) ++ decimal.whole).getLast? ≠ some '.' := by
    rw [List.getLast?_append_of_ne_nil _ decimal.whole_ne_nil]
    exact getLast?_ne_point decimal.whole_digits
  rw [hfixed, dropTrailing_zeros_append_point, hfraction,
    dropTrailing_point_append hfront (getLast?_ne_point decimal.fraction_digits),
    List.append_assoc]
  rfl

end Decimal

/-- The text of a finite number is the shortest form of its count of hundred-millionths, in whichever
way it is made. -/
theorem Number.text_eq {x : Float} {negative : Bool} {mantissa : Nat} {exponent : Int}
    (h : Double.ofFloat x = .finite negative mantissa exponent) :
    Number.text x = (Decimal.ofUnits negative (scaled mantissa exponent)).text := by
  simp only [Number.text, h]
  split
  · next hwhole =>
    -- no fraction, and small enough for an integer of 64 bits
    obtain ⟨hfract, hbelow⟩ := Bool.and_eq_true_iff.1 hwhole
    rw [toInt64_of_lt (wholePart_lt hbelow), repr_signed, Decimal.text, scaled_of_fract hfract,
      Decimal.chars_ofUnits_whole]
  · rw [Decimal.dropTrailing_fixedText]
    by_cases hzero : negative = true ∧ scaled mantissa exponent = 0
    · -- what is left is a negative zero
      obtain ⟨rfl, hunits⟩ := hzero
      rw [hunits]
      rfl
    · -- apart from that case the sign is the one that the number has
      have hsign : (Decimal.ofUnits negative (scaled mantissa exponent)).negative = negative := by
        change (negative && scaled mantissa exponent != 0) = negative
        cases negative <;> simp_all
      have hchars : (if negative then ['-'] else []) ++
          (Decimal.ofUnits negative (scaled mantissa exponent)).unsigned =
            (Decimal.ofUnits negative (scaled mantissa exponent)).chars := by
        rw [Decimal.chars, hsign]
      rw [hchars, if_neg (Decimal.chars_ne_negative_zero _), Decimal.text]

/-- The text of a finite number is a decimal in shortest form: one decimal has this text. It stands
for the count of hundred-millionths that is nearest to the exact value of the number, the even one
of two, so that a whole number is written exactly. -/
theorem number_text_is_rounded (x : Float) (hfinite : x.isFinite = true) :
    ∃ decimal : Decimal, decimal.text = Number.text x ∧
      (∀ other : Decimal, other.text = Number.text x → other = decimal) ∧
      (∃ units : ℤ, decimal.value = units / 10 ^ 8 ∧ IsRounded (value x) units) ∧
      ∀ n : ℤ, value x = n → decimal.value = n := by
  obtain ⟨negative, mantissa, exponent, hdouble⟩ := ofFloat_of_isFinite hfinite
  have htext : (Decimal.ofUnits negative (scaled mantissa exponent)).text = Number.text x :=
    (Number.text_eq hdouble).symm
  obtain ⟨units, hunits, hrounded⟩ := (isRounded_scaled mantissa exponent).signedBy negative
  rw [← Decimal.value_ofUnits] at hunits
  rw [← value_eq_signedBy hdouble] at hrounded
  refine ⟨_, htext, fun other hother => ?_, ⟨units, hunits, hrounded⟩, fun n hn => ?_⟩
  · exact Decimal.eq_of_chars_eq (String.ofList_injective (hother.trans htext.symm))
  · have hcount : value x = ((n * 10 ^ 8 : ℤ) : ℚ) / 10 ^ 8 := by
      rw [hn, Int.cast_mul, Int.cast_pow, Int.cast_ofNat, mul_div_cancel_right₀ _ (by norm_num)]
    rw [hunits, hrounded.eq_of_value_eq hcount, ← hcount, hn]

/-- One 512th lies half-way between two counts; the even one is written. -/
theorem number_text_is_rounded_tie :
    (-0.001953125 : Float).isFinite = true ∧ Number.text (-0.001953125) = "-0.00195312" ∧
      ∃ decimal : Decimal, decimal.text = Number.text (-0.001953125) ∧
        ∃ units : ℤ, decimal.value = units / 10 ^ 8 ∧ IsRounded (value (-0.001953125)) units := by
  obtain ⟨decimal, htext, -, hunits, -⟩ := number_text_is_rounded (-0.001953125) rfl
  exact ⟨rfl, rfl, decimal, htext, hunits⟩

end MixinSheet
