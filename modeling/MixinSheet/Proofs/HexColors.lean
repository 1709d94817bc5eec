import MixinSheet.Proofs.Bytes
import MixinSheet.Proofs.ExactValue
import MixinSheet.Value.Color

/-!
# Hexadecimal colours

Which texts are read as a colour, and as which one. The written forms are three digits, each
standing for a doubled digit, and three pairs. A pair is two digits, but one digit after a plus sign
is taken for a pair as well, so that not every text of six characters that is read has six digits.

Colours are read by counting bytes and cutting at byte offsets. All characters that a written form
can have are single bytes, so reading by characters comes to the same.

## Key results

- `Color.ofHexDigits?_eq_ofHexChars?`: bytes and characters make no difference
- `Color.hexDigit?_eq_some_iff`, `Color.hexPair?_eq_some_iff`: digits and pairs
- `hex_color_iff_written`: a text is read as a colour if and only if it is a written form of it
-/

namespace MixinSheet

namespace Color

/-! ## Written forms -/

/-- The character is a hexadecimal digit, in either case, and stands for the number. -/
def IsHexDigit (c : Char) (n : Nat) : Prop :=
  n < 16 ∧ (c = n.digitChar ∨ c = n.digitChar.toUpper)

/-- The two characters stand for the number. -/
inductive HexPair : Char → Char → Nat → Prop
  | digits {high low : Char} {m n : Nat} (hhigh : IsHexDigit high m) (hlow : IsHexDigit low n) :
    HexPair high low (16 * m + n)
  | signed {low : Char} {n : Nat} (hlow : IsHexDigit low n) : HexPair '+' low n

/-- The characters stand for the three channels. -/
inductive HexForm : List Char → Nat → Nat → Nat → Prop
  | short {r g b : Char} {red green blue : Nat} (hred : IsHexDigit r red)
    (hgreen : IsHexDigit g green) (hblue : IsHexDigit b blue) :
    HexForm [r, g, b] (16 * red + red) (16 * green + green) (16 * blue + blue)
  | long {r r' g g' b b' : Char} {red green blue : Nat} (hred : HexPair r r' red)
    (hgreen : HexPair g g' green) (hblue : HexPair b b' blue) :
    HexForm [r, r', g, g', b, b'] red green blue

/-- The text is made of the characters, which may follow a number sign. -/
def HexBody (text : String) (chars : List Char) : Prop :=
  text.toList = chars ∨ text.toList = '#' :: chars

/-! ## Digits -/

/-- A character of a range is its first one and some more. -/
private theorem eq_ofNat_add {c first last : Char} (h : first ≤ c ∧ c ≤ last) :
    c = Char.ofNat (first.toNat + (c.toNat - first.toNat)) ∧
      c.toNat - first.toNat ≤ last.toNat - first.toNat := by
  have hfirst : first.toNat ≤ c.toNat := h.1
  have hlast : c.toNat ≤ last.toNat := h.2
  constructor
  · rw [Nat.add_sub_cancel' hfirst, Char.ofNat_toNat]
  · omega

/-- What is accepted as a digit is one, and is read as what it stands for. -/
private theorem isHexDigit_of_hexDigit? {c : Char} {n : Nat} (h : hexDigit? c = some n) :
    IsHexDigit c n := by
  have hdecimal : ∀ k ≤ 9, Char.ofNat ('0'.toNat + k) = k.digitChar := by decide
  have hlower : ∀ k ≤ 5, Char.ofNat ('a'.toNat + k) = (k + 10).digitChar := by decide
  have hupper : ∀ k ≤ 5, Char.ofNat ('A'.toNat + k) = (k + 10).digitChar.toUpper := by decide
  unfold hexDigit? at h
  split_ifs at h with hrange hrange hrange
  all_goals
    obtain rfl := Option.some.inj h
    obtain ⟨hc, hle⟩ := eq_ofNat_add hrange
  · exact ⟨Nat.lt_of_le_of_lt hle (by decide), .inl (hc.trans (hdecimal _ hle))⟩
  · exact ⟨Nat.add_lt_add_right (Nat.lt_succ_of_le hle) 10, .inl (hc.trans (hlower _ hle))⟩
  · exact ⟨Nat.add_lt_add_right (Nat.lt_succ_of_le hle) 10, .inr (hc.trans (hupper _ hle))⟩

/-- The digits that are accepted are exactly the hexadecimal digits. -/
theorem hexDigit?_eq_some_iff {c : Char} {n : Nat} : hexDigit? c = some n ↔ IsHexDigit c n := by
  refine ⟨isHexDigit_of_hexDigit?, ?_⟩
  have hdigits : ∀ k < 16, hexDigit? k.digitChar = some k ∧
      hexDigit? k.digitChar.toUpper = some k := by decide
  rintro ⟨hlt, rfl | rfl⟩
  · exact (hdigits n hlt).1
  · exact (hdigits n hlt).2

/-- What is refused is no digit. -/
private theorem not_isHexDigit {c : Char} (h : hexDigit? c = none) (n : Nat) :
    ¬ IsHexDigit c n := by
  rw [← hexDigit?_eq_some_iff, h]
  exact nofun

/-- A digit stands for less than sixteen. -/
theorem IsHexDigit.lt {c : Char} {n : Nat} (h : IsHexDigit c n) : n < 16 :=
  h.1

/-- Hexadecimal digits are single bytes. -/
private theorem utf8Size_of_hexDigit? {c : Char} {n : Nat} (h : hexDigit? c = some n) :
    c.utf8Size = 1 := by
  have hdigits : ∀ k < 16, k.digitChar.utf8Size = 1 ∧ k.digitChar.toUpper.utf8Size = 1 := by decide
  obtain ⟨hlt, rfl | rfl⟩ := isHexDigit_of_hexDigit? h
  · exact (hdigits n hlt).1
  · exact (hdigits n hlt).2

/-! ## Pairs -/

/-- The value of two characters as a hexadecimal number, which may be one digit after a plus sign.
-/
def hexPair? (high low : Char) : Option Float := do
  if high = '+' then
    return Float.ofNat (← hexDigit? low)
  else
    return Float.ofNat (16 * (← hexDigit? high) + (← hexDigit? low))

/-- A channel of two characters is a pair. -/
private theorem hexChannel?_pair (high low : Char) :
    hexChannel? (String.ofList [high, low]) = hexPair? high low := by
  -- two digits never exceed a byte
  have hlt : ∀ {c n}, hexDigit? c = some n → n < 16 := fun h => (isHexDigit_of_hexDigit? h).lt
  simp only [hexChannel?, hexPair?, String.toList_ofList, List.head?_cons, Option.some.injEq,
    List.tail_cons]
  split
  · cases hlow : hexDigit? low with
    | none => simp [hexDigits?, hlow]
    | some n =>
      have := hlt hlow
      simp [hexDigits?, hlow, show n < 256 by omega]
  · cases hhigh : hexDigit? high with
    | none => simp [hexDigits?, hhigh]
    | some m =>
      have := hlt hhigh
      cases hlow : hexDigit? low with
      | none => simp [hexDigits?, hhigh, hlow]
      | some n =>
        have := hlt hlow
        simp [hexDigits?, hhigh, hlow, show m < 256 by omega, show 16 * m + n < 256 by omega]

/-- Whatever is read as a channel is made of single bytes. -/
private theorem utf8Size_of_hexChannel? {text : String} {x : Float}
    (h : hexChannel? text = some x) : ∀ c ∈ text.toList, c.utf8Size = 1 := by
  -- the digits are read from the left, and every one of them takes one byte
  have hdigits : ∀ {digits : List Char} {value n : Nat}, hexDigits? value digits = some n →
      ∀ c ∈ digits, c.utf8Size = 1 := by
    intro digits
    induction digits with
    | nil => simp
    | cons c rest ih =>
      intro value n h
      simp only [hexDigits?, Option.bind_eq_bind, Option.bind_eq_some_iff,
        Option.ite_none_right_eq_some] at h
      obtain ⟨digit, hdigit, -, hrest⟩ := h
      exact List.forall_mem_cons.2 ⟨utf8Size_of_hexDigit? hdigit, ih hrest⟩
  simp only [hexChannel?, Option.ite_none_left_eq_some, Option.map_eq_some_iff] at h
  obtain ⟨-, n, hn, -⟩ := h
  -- a leading plus sign takes one byte as well
  split at hn
  · next hplus =>
    rw [← List.cons_head?_tail hplus]
    exact List.forall_mem_cons.2 ⟨rfl, hdigits hn⟩
  · exact hdigits hn

/-- A pair stands for a byte. -/
theorem HexPair.lt {high low : Char} {n : Nat} (h : HexPair high low n) : n < 256 := by
  cases h with
  | digits hhigh hlow =>
    have := hhigh.lt
    have := hlow.lt
    omega
  | signed hlow => exact Nat.lt_trans hlow.lt (by decide)

/-- The pairs that are accepted are exactly the written ones. -/
theorem hexPair?_eq_some_iff {high low : Char} {x : Float} :
    hexPair? high low = some x ↔ ∃ n, HexPair high low n ∧ x = Float.ofNat n := by
  unfold hexPair?
  -- a plus sign is read as the sign of one digit, any other character as a digit
  split_ifs with hplus
  all_goals
    simp only [Option.bind_eq_bind, Option.bind_eq_some_iff, Option.pure_def, Option.some.injEq,
      hexDigit?_eq_some_iff]
    constructor
  · -- a signed digit
    rintro ⟨n, hlow, rfl⟩
    exact ⟨n, hplus ▸ .signed hlow, rfl⟩
  · rintro ⟨n, hpair, rfl⟩
    cases hpair with
    | digits hhigh => exact absurd (hplus ▸ hhigh) (not_isHexDigit rfl _)
    | signed hlow => exact ⟨n, hlow, rfl⟩
  · -- two digits
    rintro ⟨m, hhigh, n, hlow, rfl⟩
    exact ⟨16 * m + n, .digits hhigh hlow, rfl⟩
  · rintro ⟨n, hpair, rfl⟩
    cases hpair with
    | digits hhigh hlow => exact ⟨_, hhigh, _, hlow, rfl⟩
    | signed => exact absurd rfl hplus

/-- A doubled character is a pair only if it is a digit. -/
private theorem hexPair_self_iff {c : Char} {n : Nat} :
    HexPair c c n ↔ ∃ digit, IsHexDigit c digit ∧ n = 16 * digit + digit := by
  constructor
  · rintro (⟨hhigh, hlow⟩ | hlow)
    · rw [← hexDigit?_eq_some_iff] at hlow
      obtain rfl := Option.some.inj ((hexDigit?_eq_some_iff.2 hhigh).symm.trans hlow)
      exact ⟨_, hhigh, rfl⟩
    · exact absurd hlow (not_isHexDigit rfl _)
  · rintro ⟨digit, hdigit, rfl⟩
    exact .digits hdigit hdigit

/-! ## Colours -/

/-- The opaque colour with the given channels. -/
def ofBytes (red green blue : Nat) : Color :=
  rgb (Float.ofNat red) (Float.ofNat green) (Float.ofNat blue)

/-- Reads three characters, each standing for a doubled digit, or three pairs. -/
def ofHexChars? : List Char → Option Color
  | [r, g, b] => do return rgb (← hexPair? r r) (← hexPair? g g) (← hexPair? b b)
  | [r, r', g, g', b, b'] => do return rgb (← hexPair? r r') (← hexPair? g g') (← hexPair? b b')
  | _ => none

/-- Three pairs are read as the channels that they stand for. -/
private theorem ofHexChars?_pairs {r r' g g' b b' : Char} {color : Color} :
    ofHexChars? [r, r', g, g', b, b'] = some color ↔ ∃ red green blue,
      HexPair r r' red ∧ HexPair g g' green ∧ HexPair b b' blue ∧
        color = ofBytes red green blue := by
  simp only [ofHexChars?, Option.bind_eq_bind, Option.bind_eq_some_iff, Option.pure_def,
    Option.some.injEq, hexPair?_eq_some_iff]
  constructor
  · rintro ⟨_, ⟨red, hred, rfl⟩, _, ⟨green, hgreen, rfl⟩, _, ⟨blue, hblue, rfl⟩, rfl⟩
    exact ⟨red, green, blue, hred, hgreen, hblue, rfl⟩
  · rintro ⟨red, green, blue, hred, hgreen, hblue, rfl⟩
    exact ⟨_, ⟨red, hred, rfl⟩, _, ⟨green, hgreen, rfl⟩, _, ⟨blue, hblue, rfl⟩, rfl⟩

/-- Three characters are read as their doubles. -/
private theorem ofHexChars?_doubled (r g b : Char) :
    ofHexChars? [r, g, b] = ofHexChars? [r, r, g, g, b, b] :=
  rfl

/-- The characters that are read are exactly the written forms. -/
private theorem ofHexChars?_eq_some_iff {chars : List Char} {color : Color} :
    ofHexChars? chars = some color ↔
      ∃ red green blue, HexForm chars red green blue ∧ color = ofBytes red green blue := by
  constructor
  · intro h
    cases chars using ofHexChars?.fun_cases with
    | case1 r g b =>
      -- three characters: each is doubled, so none of them can be a sign
      rw [ofHexChars?_doubled, ofHexChars?_pairs] at h
      obtain ⟨red, green, blue, hred, hgreen, hblue, rfl⟩ := h
      obtain ⟨red, hr, rfl⟩ := hexPair_self_iff.1 hred
      obtain ⟨green, hg, rfl⟩ := hexPair_self_iff.1 hgreen
      obtain ⟨blue, hb, rfl⟩ := hexPair_self_iff.1 hblue
      exact ⟨_, _, _, .short hr hg hb, rfl⟩
    | case2 r r' g g' b b' =>
      -- six characters: three pairs
      obtain ⟨red, green, blue, hred, hgreen, hblue, rfl⟩ := ofHexChars?_pairs.1 h
      exact ⟨red, green, blue, .long hred hgreen hblue, rfl⟩
    | case3 chars hshort hlong =>
      rw [ofHexChars?.eq_3 chars hshort hlong] at h
      exact nomatch h
  · rintro ⟨red, green, blue, hform, rfl⟩
    cases hform with
    | short hred hgreen hblue =>
      exact ofHexChars?_pairs.2
        ⟨_, _, _, .digits hred hred, .digits hgreen hgreen, .digits hblue hblue, rfl⟩
    | long hred hgreen hblue => exact ofHexChars?_pairs.2 ⟨_, _, _, hred, hgreen, hblue, rfl⟩

/-! ## Bytes -/

/-- Without longer characters, there are as many bytes as characters. -/
private theorem byteLength_eq_length {text : List Char} (h : ∀ c ∈ text, c.utf8Size = 1) :
    Utf8.byteLength text = text.length := by
  induction text with
  | nil => rfl
  | cons c rest ih =>
    obtain ⟨hc, hrest⟩ := List.forall_mem_cons.1 h
    rw [Utf8.byteLength, hc, ih hrest, List.length_cons, Nat.add_comm]

/-- Where all characters are single bytes, two of them are cut out as a pair. -/
private theorem cut?_pair (before after : List Char) {high low : Char}
    (h : ∀ c ∈ before ++ high :: low :: after, c.utf8Size = 1) :
    Utf8.cut? (String.ofList (before ++ high :: low :: after)) before.length (before.length + 2) =
      some (String.ofList [high, low]) := by
  simp only [List.forall_mem_append, List.forall_mem_cons] at h
  obtain ⟨hbefore, hhigh, hlow, -⟩ := h
  refine Utf8.cut?_eq_some_iff.2 ⟨before, after, ?_, byteLength_eq_length hbefore, ?_⟩
  · rw [String.toList_ofList, String.toList_ofList]
    rfl
  · rw [byteLength_eq_length hbefore, String.toList_ofList]
    simp [Utf8.byteLength, hhigh, hlow]

/-- Where all characters are single bytes, reading by bytes is reading by characters. -/
private theorem ofHexDigits?_of_utf8Size {chars : List Char} (h : ∀ c ∈ chars, c.utf8Size = 1) :
    ofHexDigits? (String.ofList chars) = ofHexChars? chars := by
  -- characters and bytes count the same here
  have hlength := byteLength_eq_length h
  cases chars using ofHexChars?.fun_cases with
  | case1 r g b =>
    -- three characters, each one doubled
    simp only [ofHexDigits?, ofHexChars?, String.toList_ofList, hlength, List.length_cons,
      List.length_nil, ← hexChannel?_pair]
    rfl
  | case2 r r' g g' b b' =>
    -- six characters, cut out in pairs of bytes
    have hred := cut?_pair [] [g, g', b, b'] h
    have hgreen := cut?_pair [r, r'] [b, b'] h
    have hblue := cut?_pair [r, r', g, g'] [] h
    simp only [List.nil_append, List.cons_append, List.length_cons, List.length_nil,
      Nat.zero_add] at hred hgreen hblue
    simp only [ofHexDigits?, ofHexChars?, String.toList_ofList, hlength, List.length_cons,
      List.length_nil, Nat.zero_add, hred, hgreen, hblue, Option.bind_some, hexChannel?_pair]
  | case3 chars hshort hlong =>
    -- any other number of bytes
    rw [ofHexChars?.eq_3 chars hshort hlong, ofHexDigits?, String.toList_ofList, hlength]
    split
    · next hthree =>
      obtain ⟨r, g, b, hchars⟩ := List.length_eq_three.1 hthree
      exact absurd hchars (hshort r g b)
    · next hsix =>
      match chars, hsix with
      | [r, r', g, g', b, b'], _ => exact absurd rfl (hlong r r' g g' b b')
    · rfl

/-- Only characters of one byte are read. -/
private theorem utf8Size_of_ofHexDigits? {digits : String} {color : Color}
    (h : ofHexDigits? digits = some color) : ∀ c ∈ digits.toList, c.utf8Size = 1 := by
  unfold ofHexDigits? at h
  split at h
  · next hlength =>
    simp only [Option.bind_eq_bind, Option.bind_eq_some_iff] at h
    obtain ⟨red, ⟨r, hr, hred⟩, green, ⟨g, hg, hgreen⟩, blue, ⟨b, hb, hblue⟩, -⟩ := h
    have hsize : ∀ {c x}, hexChannel? (String.ofList [c, c]) = some x → c.utf8Size = 1 :=
      fun hx => utf8Size_of_hexChannel? hx _ (by simp)
    generalize digits.toList = chars at hlength hr hg hb
    -- the three characters take all of the three bytes
    obtain _ | ⟨_, _ | ⟨_, _ | ⟨_, rest⟩⟩⟩ := chars
    · cases hr
    · cases hg
    · cases hb
    · cases hr
      cases hg
      cases hb
      simp only [Utf8.byteLength, hsize hred, hsize hgreen, hsize hblue] at hlength
      obtain rfl := Utf8.eq_nil_of_byteLength_eq_zero (by omega : Utf8.byteLength rest = 0)
      simp [hsize hred, hsize hgreen, hsize hblue]
  · next hlength =>
    simp only [Option.bind_eq_bind, Option.bind_eq_some_iff, Utf8.cut?_eq_some_iff] at h
    obtain ⟨red, ⟨r, ⟨first, after, hr, hfirst, hr'⟩, hred⟩,
      green, ⟨g, ⟨second, after', hg, hsecond, hg'⟩, hgreen⟩,
      blue, ⟨b, ⟨third, after'', hb, hthird, hb'⟩, hblue⟩, -⟩ := h
    -- each part begins where the one before it ends
    obtain rfl := Utf8.eq_nil_of_byteLength_eq_zero hfirst
    obtain rfl : second = r.toList :=
      Utf8.eq_of_byteLength_eq (hg.symm.trans hr) (by omega)
    rw [← List.append_assoc] at hg
    obtain rfl : third = r.toList ++ g.toList :=
      Utf8.eq_of_byteLength_eq (hb.symm.trans hg) (by rw [Utf8.byteLength_append]; omega)
    have hend : Utf8.byteLength after'' = 0 := by
      simp only [hb, Utf8.byteLength_append] at hlength hthird hb'
      omega
    rw [hb, Utf8.eq_nil_of_byteLength_eq_zero hend]
    simp only [List.forall_mem_append, List.append_nil]
    exact ⟨⟨utf8Size_of_hexChannel? hred, utf8Size_of_hexChannel? hgreen⟩,
      utf8Size_of_hexChannel? hblue⟩
  · cases h

/-- A digit is a single byte. -/
theorem IsHexDigit.utf8Size {c : Char} {n : Nat} (h : IsHexDigit c n) : c.utf8Size = 1 :=
  utf8Size_of_hexDigit? (hexDigit?_eq_some_iff.2 h)

/-- Both characters of a pair are single bytes. -/
theorem HexPair.utf8Size {high low : Char} {n : Nat} (h : HexPair high low n) :
    high.utf8Size = 1 ∧ low.utf8Size = 1 := by
  cases h with
  | digits hhigh hlow => exact ⟨hhigh.utf8Size, hlow.utf8Size⟩
  | signed hlow => exact ⟨rfl, hlow.utf8Size⟩

/-- Only characters of one byte are written. -/
theorem HexForm.utf8Size {chars : List Char} {red green blue : Nat}
    (h : HexForm chars red green blue) : ∀ c ∈ chars, c.utf8Size = 1 := by
  cases h with
  | short hred hgreen hblue =>
    simp [hred.utf8Size, hgreen.utf8Size, hblue.utf8Size]
  | long hred hgreen hblue =>
    simp [hred.utf8Size, hgreen.utf8Size, hblue.utf8Size]

/-- A colour is read by bytes as it is by characters. -/
theorem ofHexDigits?_eq_ofHexChars? (digits : String) :
    ofHexDigits? digits = ofHexChars? digits.toList := by
  by_cases hsingle : ∀ c ∈ digits.toList, c.utf8Size = 1
  · rw [← ofHexDigits?_of_utf8Size hsingle, String.ofList_toList]
  · -- a longer character is part of no colour
    have hbytes : ofHexDigits? digits = none :=
      Option.eq_none_iff_forall_ne_some.2 fun _ hcolor => hsingle (utf8Size_of_ofHexDigits? hcolor)
    have hchars : ofHexChars? digits.toList = none := by
      refine Option.eq_none_iff_forall_ne_some.2 fun color hcolor => hsingle ?_
      obtain ⟨red, green, blue, hform, -⟩ := ofHexChars?_eq_some_iff.1 hcolor
      exact hform.utf8Size
    rw [hbytes, hchars]

/-- No written form starts with a number sign. -/
private theorem not_hexForm_sign {chars : List Char} {red green blue : Nat} :
    ¬ HexForm ('#' :: chars) red green blue := by
  intro h
  cases h with
  | short hred => exact not_isHexDigit rfl _ hred
  | long hred =>
    cases hred with
    | digits hhigh => exact not_isHexDigit rfl _ hhigh

/-- A text is read if it has a written form, which may follow a number sign. -/
private theorem ofHex?_eq_some_iff {text : String} {color : Color} :
    ofHex? text = some color ↔ ∃ chars red green blue, HexBody text chars ∧
      HexForm chars red green blue ∧ color = ofBytes red green blue := by
  unfold ofHex?
  split
  · next digits hsign =>
    -- the text starts with a number sign, which is left out
    rw [ofHexDigits?_eq_ofHexChars?, String.toList_ofList, ofHexChars?_eq_some_iff]
    constructor
    · rintro ⟨red, green, blue, hform, hcolor⟩
      exact ⟨digits, red, green, blue, .inr hsign, hform, hcolor⟩
    · rintro ⟨chars, red, green, blue, hchars | hchars, hform, hcolor⟩
      · -- the number sign would have to be part of the written form
        rw [← hchars, hsign] at hform
        exact absurd hform not_hexForm_sign
      · obtain rfl := (List.cons.inj (hsign.symm.trans hchars)).2
        exact ⟨red, green, blue, hform, hcolor⟩
  · next hsign =>
    -- the text has no number sign, so it is the written form itself
    rw [ofHexDigits?_eq_ofHexChars?, ofHexChars?_eq_some_iff]
    constructor
    · rintro ⟨red, green, blue, hform, hcolor⟩
      exact ⟨text.toList, red, green, blue, .inl rfl, hform, hcolor⟩
    · rintro ⟨chars, red, green, blue, rfl | hchars, hform, hcolor⟩
      · exact ⟨red, green, blue, hform, hcolor⟩
      · exact absurd hchars (hsign chars)

/-- Without a plus sign, a pair is two digits. -/
private theorem HexPair.isHexDigit {high low : Char} {n : Nat} (h : HexPair high low n)
    (hplus : '+' ≠ high) : (∃ m, IsHexDigit high m) ∧ ∃ m, IsHexDigit low m := by
  cases h with
  | digits hhigh hlow => exact ⟨⟨_, hhigh⟩, _, hlow⟩
  | signed => exact absurd rfl hplus

/-- Without a plus sign, the written forms are three digits and six digits. -/
private theorem exists_hexForm_iff {chars : List Char} (hplus : '+' ∉ chars) :
    (∃ red green blue, HexForm chars red green blue) ↔
      (chars.length = 3 ∨ chars.length = 6) ∧ ∀ c ∈ chars, ∃ n, IsHexDigit c n := by
  constructor
  · rintro ⟨red, green, blue, hform⟩
    cases hform with
    | short hred hgreen hblue =>
      -- a digit that is doubled is a digit
      exact ⟨.inl rfl, by simpa using ⟨⟨_, hred⟩, ⟨_, hgreen⟩, _, hblue⟩⟩
    | long hred hgreen hblue =>
      -- a pair is two digits, since no plus sign stands in front
      simp only [List.mem_cons, not_or] at hplus
      obtain ⟨hr, -, hg, -, hb, -⟩ := hplus
      obtain ⟨hr, hr'⟩ := hred.isHexDigit hr
      obtain ⟨hg, hg'⟩ := hgreen.isHexDigit hg
      obtain ⟨hb, hb'⟩ := hblue.isHexDigit hb
      exact ⟨.inr rfl, by simpa using ⟨hr, hr', hg, hg', hb, hb'⟩⟩
  · -- three digits or six digits
    rintro ⟨hlength | hlength, hdigits⟩
    · obtain ⟨r, g, b, rfl⟩ := List.length_eq_three.1 hlength
      simp only [List.forall_mem_cons] at hdigits
      obtain ⟨⟨_, hred⟩, ⟨_, hgreen⟩, ⟨_, hblue⟩, -⟩ := hdigits
      exact ⟨_, _, _, .short hred hgreen hblue⟩
    · match chars, hlength with
      | [r, r', g, g', b, b'], _ =>
        simp only [List.forall_mem_cons] at hdigits
        obtain ⟨⟨_, hr⟩, ⟨_, hr'⟩, ⟨_, hg⟩, ⟨_, hg'⟩, ⟨_, hb⟩, ⟨_, hb'⟩, -⟩ := hdigits
        exact ⟨_, _, _, .long (.digits hr hr') (.digits hg hg') (.digits hb hb')⟩

end Color

/-! ## Channels -/

/-- The double stands for the natural number. -/
def Double.isNat (n : Nat) : Double → Bool
  | .finite false mantissa (.negSucc k) => mantissa == n * 2 ^ (k + 1)
  | _ => false

/-- A double that stands for a natural number has its fields. -/
private theorem Double.eq_finite_of_isNat {n : Nat} {double : Double} (h : double.isNat n = true) :
    ∃ k, double = .finite false (n * 2 ^ (k + 1)) (.negSucc k) := by
  cases double with
  | nan | infinite => exact nomatch h
  | finite negative mantissa exponent =>
    cases negative with
    | true => exact nomatch h
    | false =>
      cases exponent with
      | ofNat => exact nomatch h
      | negSucc k => exact ⟨k, by rw [beq_iff_eq.1 h]⟩

/-- The double of a byte is exact. -/
private theorem Number.value_ofNat {n : Nat} (h : n < 256) : value (Float.ofNat n) = n := by
  -- the bit patterns of the bytes can be looked at one by one
  have hbytes : ∀ k < 256, (Double.ofFloat (Float.ofNat k)).isNat k = true := by decide +kernel
  obtain ⟨k, hdouble⟩ := Double.eq_finite_of_isNat (hbytes n h)
  rw [value_eq_signedBy hdouble]
  simp [signedBy, zpow_negSucc]

namespace Color

/-- The channels of a written form are bytes. -/
theorem HexForm.lt {chars : List Char} {red green blue : Nat} (h : HexForm chars red green blue) :
    red < 256 ∧ green < 256 ∧ blue < 256 := by
  cases h with
  | short hred hgreen hblue =>
    exact ⟨(HexPair.digits hred hred).lt, (HexPair.digits hgreen hgreen).lt,
      (HexPair.digits hblue hblue).lt⟩
  | long hred hgreen hblue => exact ⟨hred.lt, hgreen.lt, hblue.lt⟩

/-- The colour is opaque, and the values of its channels are the given numbers. -/
structure HasBytes (color : Color) (red green blue : Nat) : Prop where
  eq_ofBytes : color = ofBytes red green blue
  value_red : Number.value color.red = red
  value_green : Number.value color.green = green
  value_blue : Number.value color.blue = blue
  alpha_eq : color.alpha = 1.0

/-- The colour of a written form has its channels as values. -/
private theorem HexForm.hasBytes {chars : List Char} {red green blue : Nat}
    (h : HexForm chars red green blue) : (ofBytes red green blue).HasBytes red green blue := by
  obtain ⟨hred, hgreen, hblue⟩ := h.lt
  exact ⟨rfl, Number.value_ofNat hred, Number.value_ofNat hgreen, Number.value_ofNat hblue, rfl⟩

end Color

open Color

/-- A text is read as a colour if and only if it is a written form of the channels of this colour,
which is opaque; a number sign may stand in front. The texts without a plus sign that are read are
those of three digits and of six digits. -/
theorem hex_color_iff_written (text : String) :
    (∀ color, ofHex? text = some color ↔ ∃ chars red green blue, HexBody text chars ∧
      HexForm chars red green blue ∧ color.HasBytes red green blue) ∧
    ('+' ∉ text.toList → ((ofHex? text).isSome = true ↔ ∃ chars, HexBody text chars ∧
      (chars.length = 3 ∨ chars.length = 6) ∧ ∀ c ∈ chars, ∃ n, IsHexDigit c n)) := by
  constructor
  · -- the colours that texts are read as
    intro color
    rw [ofHex?_eq_some_iff]
    constructor
    · rintro ⟨chars, red, green, blue, hbody, hform, rfl⟩
      exact ⟨chars, red, green, blue, hbody, hform, hform.hasBytes⟩
    · rintro ⟨chars, red, green, blue, hbody, hform, hbytes⟩
      exact ⟨chars, red, green, blue, hbody, hform, hbytes.eq_ofBytes⟩
  · -- without plus signs the digits alone decide
    intro hplus
    have hchars : ∀ {chars}, HexBody text chars → '+' ∉ chars := by
      rintro chars (hbody | hbody) hmem
      · exact hplus (hbody ▸ hmem)
      · exact hplus (hbody ▸ List.mem_cons_of_mem _ hmem)
    rw [Option.isSome_iff_exists]
    constructor
    · rintro ⟨color, hcolor⟩
      obtain ⟨chars, red, green, blue, hbody, hform, -⟩ := ofHex?_eq_some_iff.1 hcolor
      exact ⟨chars, hbody, (exists_hexForm_iff (hchars hbody)).1 ⟨red, green, blue, hform⟩⟩
    · rintro ⟨chars, hbody, hdigits⟩
      obtain ⟨red, green, blue, hform⟩ := (exists_hexForm_iff (hchars hbody)).2 hdigits
      exact ⟨_, ofHex?_eq_some_iff.2 ⟨chars, red, green, blue, hbody, hform, rfl⟩⟩

/-- Three digits with signs are read as a colour, although they are neither three digits nor six. -/
theorem hex_color_reads_signs :
    ofHex? "+1+2+3" = some (ofBytes 1 2 3) ∧
      ¬ ∃ chars, HexBody "+1+2+3" chars ∧ ∀ c ∈ chars, ∃ n, IsHexDigit c n := by
  refine ⟨rfl, ?_⟩
  rintro ⟨chars, rfl | hsign, hdigits⟩
  · obtain ⟨n, hn⟩ := hdigits '+' (by decide)
    exact not_isHexDigit rfl n hn
  · exact nomatch hsign

end MixinSheet
