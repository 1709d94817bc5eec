import MixinSheet.Text.Casing

/-!
# Lower case

Names of functions are compared in lower case. Every letter has one lower case form, except that
the dotted capital I becomes two characters and the capital sigma becomes a final sigma at the end
of a word.
-/

namespace MixinSheet.Text

/-- The character that `run` gives for code point `n`. -/
def CaseRun.lower? (run : CaseRun) (n : Nat) : Option Char :=
  if run.first ≤ n && n ≤ run.last && (n - run.first) % run.step == 0 then
    some (Char.ofNat (n + run.shift).toNat)
  else
    none

/-- The lower case of a character that stands alone. -/
def lowerChar (c : Char) : List Char :=
  if c.toNat < 128 then [c.toLower]
  else if c.toNat = 0x130 then ['i', Char.ofNat 0x307]
  else [(lowerRuns.findSome? (·.lower? c.toNat)).getD c]

/-- Whether the first character that is not passed over is a letter that has case. -/
def meetsCased (cs : List Char) : Bool :=
  match cs.dropWhile caseIgnorable.has with
  | [] => false
  | c :: _ => cased.has c

/-- Lower case of the rest of a text whose characters so far were `before`, the last one first. -/
def lowerAfter (before : List Char) : List Char → List Char
  | [] => []
  | c :: rest =>
    let lower :=
      if c = 'Σ' then
        if meetsCased before && !meetsCased rest then ['ς'] else ['σ']
      else
        lowerChar c
    lower ++ lowerAfter (c :: before) rest

/-- The text in lower case. -/
def lowercase (text : String) : String :=
  String.ofList (lowerAfter [] text.toList)

end MixinSheet.Text
