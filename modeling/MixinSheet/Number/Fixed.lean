import MixinSheet.Number.Binary

/-!
# The text of a number

A whole number that is not too large is converted to a word and written as such. Any other number
is written with eight decimal places: the multiple of one hundred-millionth that is nearest to its
exact value, a tie going to the even neighbour. Zeros that end the fraction are then cut off, and
the point if it comes last; and a negative zero loses its sign.
-/

namespace MixinSheet.Number

/-- The quotient rounded to the nearest whole number, a tie going to the even neighbour. -/
def divideToEven (numerator denominator : Nat) : Nat :=
  let quotient := numerator / denominator
  let rest := numerator % denominator
  if 2 * rest < denominator then quotient
  else if 2 * rest > denominator then quotient + 1
  else quotient + quotient % 2

/-- Decimal places that are kept. -/
def places : Nat := 8

/-- The number of units of the last decimal place in a whole. -/
def unitsPerWhole : Nat := Nat.pow 10 places

/-- `mantissa * 2 ^ exponent` in units of the last decimal place. -/
def scaled (mantissa : Nat) (exponent : Int) : Nat :=
  match exponent with
  | .ofNat e => mantissa * Nat.pow 2 e * unitsPerWhole
  | .negSucc e => divideToEven (mantissa * unitsPerWhole) (Nat.pow 2 (e + 1))

/-- Decimal digits with zeros in front up to the given width. -/
def paddedDigits (width n : Nat) : List Char :=
  let digits := Nat.toDigits 10 n
  List.replicate (width - digits.length) '0' ++ digits

/-- The text with exactly eight decimal places; the sign is kept even in front of a zero. -/
def fixedText : Double → List Char
  | .nan => "NaN".toList
  | .infinite negative => if negative then "-inf".toList else "inf".toList
  | .finite negative mantissa exponent =>
    let units := scaled mantissa exponent
    let sign := if negative then ['-'] else []
    sign ++ Nat.toDigits 10 (units / unitsPerWhole) ++
      '.' :: paddedDigits places (units % unitsPerWhole)

/-- Leaves out a character where it ends a text, as often as it stands there. -/
def dropTrailing (c : Char) (text : List Char) : List Char :=
  (text.reverse.dropWhile (· == c)).reverse

/-- Whole numbers below are written as such. -/
def wholeBound : Nat := Nat.pow 10 15

/-- The text of the number `x`. -/
def text (x : Float) : String :=
  let double := Double.ofFloat x
  if double.fract.isZero && double.magnitudeBelow wholeBound then
    double.toInt64.repr
  else
    let trimmed := dropTrailing '.' (dropTrailing '0' (fixedText double))
    if trimmed = ['-', '0'] then "0" else String.ofList trimmed

end MixinSheet.Number
