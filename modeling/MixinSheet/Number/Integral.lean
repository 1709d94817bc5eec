import MixinSheet.Number.Binary

/-!
# Rounding to whole numbers

`Number.round`, `Number.ceil` and `Number.floor` give the neighbouring whole number as a double. A
result of zero keeps the sign of the number it came from, and numbers without a fraction, infinities
and NaN are returned as they are.
-/

namespace MixinSheet.Number

/-- Which of the two neighbouring whole numbers is taken. -/
inductive Direction where
  /-- The nearest one, a tie going away from zero. -/
  | nearest
  /-- The one that is not smaller. -/
  | up
  /-- The one that is not larger. -/
  | down
  deriving DecidableEq, Repr

/-- The magnitude of `mantissa / 2 ^ places` rounded to a whole number. -/
def roundedMagnitude (direction : Direction) (negative : Bool) (mantissa places : Nat) : Nat :=
  let unit := Nat.pow 2 places
  let whole := mantissa / unit
  let rest := mantissa % unit
  let increment := match direction with
    | .nearest => decide (unit ≤ 2 * rest)
    | .up => !negative && rest != 0
    | .down => negative && rest != 0
  if increment then whole + 1 else whole

/-- The whole number with the given sign, as a double. -/
def signed (negative : Bool) (magnitude : Nat) : Float :=
  if negative then -Float.ofNat magnitude else Float.ofNat magnitude

/-- Rounds to a whole number in the given direction. -/
def toIntegral (direction : Direction) (x : Float) : Float :=
  match Double.ofFloat x with
  | .finite negative mantissa (.negSucc e) =>
    signed negative (roundedMagnitude direction negative mantissa (e + 1))
  | _ => x

/-- The nearest whole number, a tie going away from zero. -/
def round (x : Float) : Float := toIntegral .nearest x

/-- The least whole number that is not smaller. -/
def ceil (x : Float) : Float := toIntegral .up x

/-- The greatest whole number that is not larger. -/
def floor (x : Float) : Float := toIntegral .down x

/-- The nearest whole number of the range 0 to 255; NaN counts as zero. -/
def toByte (x : Float) : Nat :=
  match Double.ofFloat x with
  | .nan => 0
  | .infinite negative => if negative then 0 else 255
  | .finite negative mantissa exponent =>
    let magnitude := match exponent with
      | .ofNat e => mantissa * Nat.pow 2 e
      | .negSucc e => roundedMagnitude .nearest negative mantissa (e + 1)
    if negative then 0 else min magnitude 255

end MixinSheet.Number
