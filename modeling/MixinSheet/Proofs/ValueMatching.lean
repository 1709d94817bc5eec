import MixinSheet.Proofs.ExactValue
import MixinSheet.Value.Basic

/-!
# Matching up to delimiters

A guard leaves the delimiters of strings out of account, at any depth of lists: an argument fits a
pattern if the two are equal once every string has the same delimiter. Equality compares numbers as
doubles, so it does not see the sign of a zero, and a value with a NaN in it equals nothing. Hence
two values are equal if there is no NaN in them and they are the same up to the signs of zeros, and
from this the laws of matching follow.

## Key results

- `Value.beq_iff`: equality is sameness up to the signs of zeros
- `Value.fits_eq_beq`: matching is equality with one delimiter for all strings
- `matching_ignores_delimiters`: what matching is, and its laws
-/

namespace MixinSheet

/-! ## Colours -/

namespace Color

/-- The components in order, the opacity included. -/
def components (c : Color) : List Float :=
  c.channels ++ [c.alpha]

/-- Changes each component, the opacity included. -/
def mapComponents (f : Float → Float) (c : Color) : Color :=
  { c.map f with alpha := f c.alpha }

/-- Colours are equal when no channel is NaN and the channels agree up to the sign of zero. -/
theorem beq_iff {a b : Color} :
    (a == b) = true ↔ (∀ x ∈ a.components, x.isNaN = false) ∧
      a.mapComponents Number.positiveZero = b.mapComponents Number.positiveZero := by
  show a.beq b = true ↔ _
  simp only [beq, Bool.and_eq_true, Number.beq_iff, components, channels, mapComponents, map,
    mk.injEq, List.forall_mem_append, List.forall_mem_cons]
  -- the two conditions of each component are collected by kind
  tauto

end Color

namespace Value

/-! ## Numbers and delimiters at any depth -/

mutual

/-- Changes every number and every delimiter in the value, at any depth. -/
def map (number : Float → Float) (delimiter : Char → Char) : Value → Value
  | .number n => .number (number n)
  | .dimension n unit => .dimension (number n) unit
  | .color c => .color (c.mapComponents number)
  | .quoted text quote => .quoted text (delimiter quote)
  | .keyword text => .keyword text
  | .list separator items => .list separator (mapAll number delimiter items)

/-- Changes every number and every delimiter in some values. -/
def mapAll (number : Float → Float) (delimiter : Char → Char) : List Value → List Value
  | [] => []
  | value :: rest => value.map number delimiter :: mapAll number delimiter rest

end

mutual

/-- The numbers in the value, at any depth. -/
def numbers : Value → List Float
  | .number n | .dimension n _ => [n]
  | .color c => c.components
  | .quoted .. | .keyword _ => []
  | .list _ items => numbersIn items

/-- The numbers in some values. -/
def numbersIn : List Value → List Float
  | [] => []
  | value :: rest => value.numbers ++ numbersIn rest

end

/-- The value with `quote` as the delimiter of every string in it. -/
def delimitedBy (quote : Char) (value : Value) : Value :=
  value.map id fun _ => quote

/-- The value with a positive sign for every zero in it. -/
def positiveZeros (value : Value) : Value :=
  value.map Number.positiveZero id

/-- No number in the value is NaN. -/
def NaNFree (value : Value) : Prop :=
  ∀ x ∈ value.numbers, x.isNaN = false

instance (value : Value) : Decidable value.NaNFree :=
  inferInstanceAs (Decidable (∀ x ∈ _, _))

mutual

/-- Two changes of the numbers and delimiters of a value are one change. -/
theorem map_map (f f' : Float → Float) (g g' : Char → Char) (value : Value) :
    (value.map f g).map f' g' = value.map (f' ∘ f) (g' ∘ g) := by
  cases value with
  | number | dimension | color | quoted | keyword => rfl
  | list separator items => simp only [map, mapAll_mapAll f f' g g' items]

/-- The same of a list of values: one recursion with `map_map`. -/
private theorem mapAll_mapAll (f f' : Float → Float) (g g' : Char → Char) (values : List Value) :
    mapAll f' g' (mapAll f g values) = mapAll (f' ∘ f) (g' ∘ g) values := by
  cases values with
  | nil => rfl
  | cons value rest =>
    simp only [mapAll, map_map f f' g g' value, mapAll_mapAll f f' g g' rest]

end

mutual

/-- Changing the numbers of a value changes each number that it has, in their order. -/
private theorem numbers_map (f : Float → Float) (g : Char → Char) (value : Value) :
    (value.map f g).numbers = value.numbers.map f := by
  cases value with
  | number | dimension | color | quoted | keyword => rfl
  | list separator items => simp only [map, numbers, numbersIn_mapAll f g items]

/-- The same of a list of values: one recursion with `numbers_map`. -/
private theorem numbersIn_mapAll (f : Float → Float) (g : Char → Char) (values : List Value) :
    numbersIn (mapAll f g values) = (numbersIn values).map f := by
  cases values with
  | nil => rfl
  | cons value rest =>
    simp only [mapAll, numbersIn, List.map_append, numbers_map f g value,
      numbersIn_mapAll f g rest]

end

/-- A change that makes no NaN and takes none away. -/
private theorem nanFree_map {f : Float → Float} (h : ∀ x, (f x).isNaN = x.isNaN) (g : Char → Char)
    (value : Value) : (value.map f g).NaNFree ↔ value.NaNFree := by
  simp only [NaNFree, numbers_map, List.forall_mem_map, h]

/-- Delimiters have no part in whether a value is free of NaN. -/
private theorem nanFree_delimitedBy (quote : Char) (value : Value) :
    (value.delimitedBy quote).NaNFree ↔ value.NaNFree :=
  nanFree_map (fun _ => rfl) _ value

/-- The sign of a zero has no part in it either. -/
private theorem nanFree_positiveZeros (value : Value) :
    value.positiveZeros.NaNFree ↔ value.NaNFree :=
  nanFree_map Number.isNaN_positiveZero _ value

/-- Delimiters and signs of zeros are changed independently. -/
private theorem positiveZeros_delimitedBy (quote : Char) (value : Value) :
    (value.delimitedBy quote).positiveZeros = value.positiveZeros.delimitedBy quote := by
  simp only [positiveZeros, delimitedBy, map_map]
  rfl

/-! ## Equality -/

mutual

/-- Values are equal if there is no NaN in them and they are the same up to the signs of zeros. -/
theorem beq_iff (a b : Value) :
    (a == b) = true ↔ a.NaNFree ∧ a.positiveZeros = b.positiveZeros := by
  show a.beq b = true ↔ (∀ x ∈ a.numbers, x.isNaN = false) ∧
    a.map Number.positiveZero id = b.map Number.positiveZero id
  -- values of different kinds are never equal, and changing their numbers keeps the kind
  cases a with
  | number x =>
    cases b with
    | number y => simp [beq, map, numbers, Number.beq_iff]
    | dimension | color | quoted | keyword | list => simp [beq, map]
  | dimension x unit =>
    cases b with
    | dimension y unit' => simp [beq, map, numbers, Number.beq_iff, and_assoc]
    | number | color | quoted | keyword | list => simp [beq, map]
  | color c =>
    cases b with
    | color d => simp [beq, map, numbers, Color.beq_iff]
    | number | dimension | quoted | keyword | list => simp [beq, map]
  | quoted text quote =>
    cases b with
    | quoted text' quote' => simp [beq, map, numbers]
    | number | dimension | color | keyword | list => simp [beq, map]
  | keyword text =>
    cases b with
    | keyword text' => simp [beq, map, numbers]
    | number | dimension | color | quoted | list => simp [beq, map]
  | list separator items =>
    cases b with
    | list separator' items' =>
      simp [beq, map, numbers, beqAll_iff items items', and_left_comm]
    | number | dimension | color | quoted | keyword => simp [beq, map]

/-- Lists of values are equal when no number is NaN and they agree up to the signs of zeros. -/
private theorem beqAll_iff (as bs : List Value) :
    beqAll as bs = true ↔ (∀ x ∈ numbersIn as, x.isNaN = false) ∧
      mapAll Number.positiveZero id as = mapAll Number.positiveZero id bs := by
  cases as with
  | nil =>
    cases bs with
    | nil => simp [beqAll, mapAll, numbersIn]
    | cons => simp [beqAll, mapAll]
  | cons a as =>
    cases bs with
    | nil => simp [beqAll, mapAll]
    | cons b bs =>
      -- one recursion with `beq_iff`, which has the first elements
      have hfirst : a.beq b = true ↔ (∀ x ∈ a.numbers, x.isNaN = false) ∧
        a.map Number.positiveZero id = b.map Number.positiveZero id := beq_iff a b
      simp only [beqAll, mapAll, numbersIn, Bool.and_eq_true, List.forall_mem_append,
        List.cons.injEq, hfirst, beqAll_iff as bs]
      exact and_and_and_comm

end

/-- Equality of values is symmetric. -/
private theorem beq_symm {a b : Value} (h : (a == b) = true) : (b == a) = true := by
  obtain ⟨hnan, hsame⟩ := (beq_iff a b).1 h
  rw [← nanFree_positiveZeros, hsame, nanFree_positiveZeros] at hnan
  exact (beq_iff b a).2 ⟨hnan, hsame.symm⟩

/-- Equality of values is transitive. -/
private theorem beq_trans {a b c : Value} (hab : (a == b) = true) (hbc : (b == c) = true) :
    (a == c) = true := by
  obtain ⟨hnan, hab⟩ := (beq_iff a b).1 hab
  obtain ⟨-, hbc⟩ := (beq_iff b c).1 hbc
  exact (beq_iff a c).2 ⟨hnan, hab.trans hbc⟩

/-- Equality is reflexive on the values that are free of NaN, and only there. -/
theorem beq_self_iff (value : Value) : (value == value) = true ↔ value.NaNFree := by
  rw [beq_iff]
  exact and_iff_left rfl

/-- Equal values stay equal when all their texts get one delimiter. -/
private theorem beq_delimitedBy {a b : Value} (quote : Char) (h : (a == b) = true) :
    (a.delimitedBy quote == b.delimitedBy quote) = true := by
  obtain ⟨hnan, hsame⟩ := (beq_iff a b).1 h
  rw [beq_iff, nanFree_delimitedBy, positiveZeros_delimitedBy, positiveZeros_delimitedBy, hsame]
  exact ⟨hnan, rfl⟩

/-! ## Matching -/

mutual

/-- An argument fits a pattern if they are equal with one delimiter for all strings. -/
theorem fits_eq_beq (quote : Char) (pattern argument : Value) :
    pattern.fits argument = (pattern.delimitedBy quote == argument.delimitedBy quote) := by
  cases pattern with
  | number | dimension | color | keyword =>
    -- strict equality on both sides, for there is no delimiter to be replaced
    cases argument <;> rfl
  | quoted text =>
    cases argument with
    | quoted text' =>
      show (text == text') = (text == text' && quote == quote)
      rw [beq_self_eq_true, Bool.and_true]
    | number | dimension | color | keyword | list => rfl
  | list separator items =>
    cases argument with
    | list separator' items' =>
      show (separator == separator' && fitsAll items items') = (separator == separator' &&
        beqAll (mapAll id (fun _ => quote) items) (mapAll id (fun _ => quote) items'))
      rw [fitsAll_eq_beqAll quote items items']
    | number | dimension | color | quoted | keyword => rfl

/-- Lists of patterns fit when they are equal with all delimiters alike. -/
private theorem fitsAll_eq_beqAll (quote : Char) (patterns arguments : List Value) :
    fitsAll patterns arguments =
      beqAll (mapAll id (fun _ => quote) patterns) (mapAll id (fun _ => quote) arguments) := by
  cases patterns with
  | nil => cases arguments <;> rfl
  | cons pattern patterns =>
    cases arguments with
    | nil => rfl
    | cons argument arguments =>
      rw [fitsAll, fits_eq_beq quote pattern argument, fitsAll_eq_beqAll quote patterns arguments]
      rfl

end

end Value

/-- An argument fits a pattern if and only if the two are equal with `quote` as the delimiter of
every string in them. Equal are two values without a NaN that are the same up to the signs of zeros.
So matching is symmetric and transitive, a value fits itself if and only if there is no NaN in it,
and equal values fit each other. -/
theorem matching_ignores_delimiters (quote : Char) (pattern argument : Value) :
    (pattern.fits argument = true ↔
      (pattern.delimitedBy quote == argument.delimitedBy quote) = true) ∧
    ((pattern == argument) = true ↔
      pattern.NaNFree ∧ pattern.positiveZeros = argument.positiveZeros) ∧
    (pattern.fits argument = true → argument.fits pattern = true) ∧
    (∀ other, pattern.fits argument = true → argument.fits other = true →
      pattern.fits other = true) ∧
    (pattern.fits pattern = true ↔ pattern.NaNFree) ∧
    ((pattern == argument) = true → pattern.fits argument = true) := by
  have hfits := Value.fits_eq_beq quote
  refine ⟨by rw [hfits], Value.beq_iff pattern argument, ?_, ?_, ?_, ?_⟩
  · rw [hfits pattern, hfits argument]
    exact Value.beq_symm
  · intro other
    rw [hfits pattern, hfits argument, hfits pattern]
    exact Value.beq_trans
  · rw [hfits, Value.beq_self_iff, Value.nanFree_delimitedBy]
  · rw [hfits]
    exact Value.beq_delimitedBy quote

namespace FontList

/-- Names at two depths, a size and an offset. -/
def fonts (outer inner : Char) (offset : Float) : Value :=
  .list .comma [.quoted "Open Sans" outer,
    .list .space [.quoted "Times" inner, .dimension 12.0 "px", .number offset]]

def pattern : Value := fonts '"' '"' 0.0

/-- Another delimiter in the inner list. -/
def inner : Value := fonts '"' '\x27' 0.0

/-- Another delimiter in the outer list. -/
def outer : Value := fonts '\x27' '"' 0.0

/-- The other zero. -/
def negative : Value := fonts '"' '"' (-0.0)

end FontList

/-- Lists of fonts fit each other whatever their delimiters are, though they are equal only if these
are the same. The sign of the offset does not matter. -/
theorem matching_ignores_delimiters_fonts :
    (FontList.pattern == FontList.inner) = false ∧
    FontList.pattern.fits FontList.inner = true ∧ FontList.inner.fits FontList.pattern = true ∧
    FontList.inner.fits FontList.outer = true ∧ FontList.pattern.fits FontList.outer = true ∧
    FontList.pattern.NaNFree ∧ FontList.pattern.fits FontList.pattern = true ∧
    (FontList.pattern == FontList.negative) = true ∧
    FontList.pattern.fits FontList.negative = true := by
  have hdiffer : (FontList.pattern == FontList.inner) = false := by decide +kernel
  have hinner : FontList.pattern.fits FontList.inner = true := by decide +kernel
  have houter : FontList.inner.fits FontList.outer = true := by decide +kernel
  have hnan : FontList.pattern.NaNFree := by decide +kernel
  have hequal : (FontList.pattern == FontList.negative) = true := by decide +kernel
  obtain ⟨-, -, hsymm, htrans, hself, -⟩ :=
    matching_ignores_delimiters '"' FontList.pattern FontList.inner
  obtain ⟨-, -, -, -, -, hfits⟩ :=
    matching_ignores_delimiters '"' FontList.pattern FontList.negative
  exact ⟨hdiffer, hinner, hsymm hinner, houter, htrans FontList.outer hinner houter, hnan,
    hself.2 hnan, hequal, hfits hequal⟩

end MixinSheet
