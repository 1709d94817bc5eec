import MixinSheet.Text.Extending
import MixinSheet.Text.Printable

/-!
# Quoted text

A text between quotation marks in which everything that could be misread is escaped: the quotation
mark, the backslash, line breaks and tabs by a letter, and other characters that cannot be seen, or
that would change the look of their neighbour, by their code point.
-/

namespace MixinSheet.Text

/-- The letter that stands for a character behind a backslash. -/
def escapeLetter? : Char → Option Char
  | '\x00' => some '0'
  | '\t' => some 't'
  | '\r' => some 'r'
  | '\n' => some 'n'
  | '\\' => some '\\'
  | '"' => some '"'
  | _ => none

/-- A character written by its code point, in hexadecimal digits between braces. -/
def escapeCode (c : Char) : List Char :=
  '\\' :: 'u' :: '{' :: Nat.toDigits 16 c.toNat ++ ['}']

/-- A character as it is written between quotation marks. -/
def escapeChar (c : Char) : List Char :=
  match escapeLetter? c with
  | some letter => ['\\', letter]
  | none => if isExtending c || !isPrintable c then escapeCode c else [c]

/-- A text between quotation marks. -/
def quoted (text : String) : String :=
  "\"" ++ String.ofList (text.toList.flatMap escapeChar) ++ "\""

end MixinSheet.Text
