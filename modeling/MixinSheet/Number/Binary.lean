/-!
# The exact value of a double

A finite double is a whole number times a power of two. `Double.ofFloat` reads the two off the bit
pattern, so that rounding and decimal text can be computed in exact integer arithmetic.
-/

namespace MixinSheet

/-- What a double stands for. -/
inductive Double where
  /-- Not a number. -/
  | nan
  /-- An infinity, with its sign. -/
  | infinite (negative : Bool)
  /-- `mantissa * 2 ^ exponent`, negated if `negative`; zero keeps its sign. -/
  | finite (negative : Bool) (mantissa : Nat) (exponent : Int)
  deriving DecidableEq, Repr

namespace Double

/-- Splits the 64 bits into sign, eleven exponent bits and 52 fraction bits. -/
def ofBits (bits : UInt64) : Double :=
  let hidden := Nat.pow 2 52
  let negative := bits.toNat / Nat.pow 2 63 % 2 == 1
  let biased : Nat := bits.toNat / hidden % Nat.pow 2 11
  let fraction : Nat := bits.toNat % hidden
  if biased = 2047 then
    if fraction = 0 then .infinite negative else .nan
  else if biased = 0 then
    .finite negative fraction (-1074)
  else
    .finite negative (hidden + fraction) ((biased : Int) - 1075)

/-- What the double `x` stands for. -/
def ofFloat (x : Float) : Double :=
  ofBits x.toBits

/-- Neither an infinity nor a NaN. -/
def isFinite : Double → Bool
  | .finite .. => true
  | _ => false

/-! ## Whole part and fraction -/

/-- The part after the point, with the sign of the number; what is not finite has none. -/
def fract : Double → Double
  | .finite _ _ (.ofNat e) => .finite false 0 (.ofNat e)
  | .finite negative mantissa (.negSucc e) =>
    let rest := mantissa % Nat.pow 2 (e + 1)
    .finite (negative && rest != 0) rest (.negSucc e)
  | _ => .nan

/-- Whether it is one of the two zeros. -/
def isZero : Double → Bool
  | .finite _ mantissa _ => mantissa == 0
  | _ => false

/-- Whether the magnitude is below a whole number; NaN is below nothing. -/
def magnitudeBelow (bound : Nat) : Double → Bool
  | .finite _ mantissa (.ofNat e) => mantissa * Nat.pow 2 e < bound
  | .finite _ mantissa (.negSucc e) => mantissa < bound * Nat.pow 2 (e + 1)
  | _ => false

/-- The whole part of `mantissa * 2 ^ exponent`. -/
def wholePart (mantissa : Nat) : (exponent : Int) → Nat
  | .ofNat e => mantissa * Nat.pow 2 e
  | .negSucc e => mantissa / Nat.pow 2 (e + 1)

/-- The greatest signed word of 64 bits. -/
def greatestInt64 : Nat := Nat.pow 2 63 - 1

/-- The number without its fraction, as a signed word of 64 bits. What is out of range becomes the
word that is nearest, and NaN becomes zero. -/
def toInt64 : Double → Int
  | .nan => 0
  | .infinite negative => if negative then .negSucc greatestInt64 else greatestInt64
  | .finite negative mantissa exponent =>
    let whole := wholePart mantissa exponent
    if negative then -(min whole (greatestInt64 + 1) : Nat) else (min whole greatestInt64 : Nat)

end Double

/-- Whether `x` is neither an infinity nor a NaN. -/
def Number.isFinite (x : Float) : Bool :=
  (Double.ofFloat x).isFinite

end MixinSheet
