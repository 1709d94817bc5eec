import MixinSheet.Number.Fixed
import MixinSheet.Number.Integral
import MixinSheet.Text.Utf8

/-!
# Colours

A colour has three channels, nominally from 0 to 255, and an opacity. Arithmetic may leave that
range; only the text rounds each channel to a byte.
-/

namespace MixinSheet

/-- A colour with red, green and blue channels and an opacity. -/
structure Color where
  red : Float
  green : Float
  blue : Float
  alpha : Float

namespace Color

/-- An opaque colour. -/
def rgb (red green blue : Float) : Color :=
  { red, green, blue, alpha := 1.0 }

/-- The value of a hexadecimal digit. -/
def hexDigit? (c : Char) : Option Nat :=
  if '0' ≤ c ∧ c ≤ '9' then some (c.toNat - '0'.toNat)
  else if 'a' ≤ c ∧ c ≤ 'f' then some (c.toNat - 'a'.toNat + 10)
  else if 'A' ≤ c ∧ c ≤ 'F' then some (c.toNat - 'A'.toNat + 10)
  else none

/-- Reads on after hexadecimal digits that stand for `value`, as long as the number is a byte. -/
def hexDigits? (value : Nat) : List Char → Option Nat
  | [] => some value
  | c :: rest => do
    let next := 16 * value + (← hexDigit? c)
    if next < 256 then hexDigits? next rest else none

/-- Reads a channel, a hexadecimal number of at least one digit which may follow a plus sign. -/
def hexChannel? (text : String) : Option Float :=
  let digits := if text.toList.head? = some '+' then text.toList.tail else text.toList
  if digits.isEmpty then none else (hexDigits? 0 digits).map Float.ofNat

/-- Reads three bytes, each character standing for a doubled digit, or six bytes, two for each
channel. -/
def ofHexDigits? (digits : String) : Option Color :=
  match Utf8.byteLength digits.toList with
  | 3 =>
    let doubled? (i : Nat) := digits.toList[i]?.bind fun c => hexChannel? (String.ofList [c, c])
    return rgb (← doubled? 0) (← doubled? 1) (← doubled? 2)
  | 6 =>
    let pair? (start : Nat) := (Utf8.cut? digits start (start + 2)).bind hexChannel?
    return rgb (← pair? 0) (← pair? 2) (← pair? 4)
  | _ => none

/-- Reads a hexadecimal colour, which may start with one number sign. -/
def ofHex? (text : String) : Option Color :=
  match text.toList with
  | '#' :: digits => ofHexDigits? (String.ofList digits)
  | _ => ofHexDigits? text

/-- The three channels in order. -/
def channels (c : Color) : List Float :=
  [c.red, c.green, c.blue]

/-- Changes each channel and keeps the opacity. -/
def map (f : Float → Float) (c : Color) : Color :=
  { c with red := f c.red, green := f c.green, blue := f c.blue }

/-- Joins two colours channel by channel and keeps the opacity of the first. -/
def zipWith (f : Float → Float → Float) (a b : Color) : Color :=
  { a with red := f a.red b.red, green := f a.green b.green, blue := f a.blue b.blue }

/-- Equality of all four components as doubles: NaN differs from itself, both zeros are equal. -/
def beq (a b : Color) : Bool :=
  a.red == b.red && a.green == b.green && a.blue == b.blue && a.alpha == b.alpha

instance : BEq Color := ⟨beq⟩

/-- A byte as two hexadecimal digits. -/
def hexByte (n : Nat) : String :=
  let digits := Nat.toDigits 16 n
  String.ofList (List.replicate (2 - digits.length) '0' ++ digits)

/-- An opaque colour is written as six hexadecimal digits, any other with its opacity. -/
def text (c : Color) : String :=
  let red := Number.toByte c.red
  let green := Number.toByte c.green
  let blue := Number.toByte c.blue
  if c.alpha < 1.0 then
    let alpha := if c.alpha < 0.0 then 0.0 else c.alpha
    "rgba(" ++ Nat.repr red ++ ", " ++ Nat.repr green ++ ", " ++ Nat.repr blue ++ ", " ++
      Number.text alpha ++ ")"
  else
    "#" ++ hexByte red ++ hexByte green ++ hexByte blue

end Color

end MixinSheet
