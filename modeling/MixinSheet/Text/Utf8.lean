/-!
# Byte offsets into text

Positions in a source file are counted in UTF-8 bytes, while text is read character by character.
`cut?` takes the part of a text between two byte offsets; it exists exactly when both offsets fall
between two characters and come in order.
-/

namespace MixinSheet.Utf8

/-- The number of bytes a list of characters takes. -/
def byteLength : List Char → Nat
  | [] => 0
  | c :: rest => c.utf8Size + byteLength rest

/-- The characters after the first `n` bytes, if `n` falls between two characters. -/
def dropBytes? : List Char → Nat → Option (List Char)
  | cs, 0 => some cs
  | [], _ + 1 => none
  | c :: rest, n + 1 => if c.utf8Size ≤ n + 1 then dropBytes? rest (n + 1 - c.utf8Size) else none

/-- The characters of the first `n` bytes, if `n` falls between two characters. -/
def takeBytes? : List Char → Nat → Option (List Char)
  | _, 0 => some []
  | [], _ + 1 => none
  | c :: rest, n + 1 =>
    if c.utf8Size ≤ n + 1 then (takeBytes? rest (n + 1 - c.utf8Size)).map (c :: ·) else none

/-- The text from byte `start` up to byte `stop`. -/
def cut? (text : String) (start stop : Nat) : Option String :=
  if start ≤ stop then do
    let tail ← dropBytes? text.toList start
    let part ← takeBytes? tail (stop - start)
    some (String.ofList part)
  else
    none

/-- The bytes of two texts in a row are counted one after the other. -/
theorem byteLength_append (a b : List Char) :
    byteLength (a ++ b) = byteLength a + byteLength b := by
  induction a with
  | nil => simp [byteLength]
  | cons c a ih => simp [byteLength, ih, Nat.add_assoc]

/-- Dropping the bytes of the first character and `n` more goes on after that character. -/
private theorem dropBytes?_cons (c : Char) (cs : List Char) (n : Nat) :
    dropBytes? (c :: cs) (c.utf8Size + n) = dropBytes? cs n := by
  have hc : 0 < c.utf8Size := c.utf8Size_pos
  obtain ⟨k, hk⟩ : ∃ k, c.utf8Size + n = k + 1 := ⟨c.utf8Size + n - 1, by omega⟩
  have hrest : k + 1 - c.utf8Size = n := by omega
  rw [hk, dropBytes?, if_pos (by omega), hrest]

/-- Taking the bytes of the first character and `n` more gives that character first. -/
private theorem takeBytes?_cons (c : Char) (cs : List Char) (n : Nat) :
    takeBytes? (c :: cs) (c.utf8Size + n) = (takeBytes? cs n).map (c :: ·) := by
  have hc : 0 < c.utf8Size := c.utf8Size_pos
  obtain ⟨k, hk⟩ : ∃ k, c.utf8Size + n = k + 1 := ⟨c.utf8Size + n - 1, by omega⟩
  have hrest : k + 1 - c.utf8Size = n := by omega
  rw [hk, takeBytes?, if_pos (by omega), hrest]

/-- Dropping the bytes of a leading part leaves the rest. -/
theorem dropBytes?_append (a b : List Char) : dropBytes? (a ++ b) (byteLength a) = some b := by
  induction a with
  | nil => simp [byteLength, dropBytes?]
  | cons c a ih => rw [List.cons_append, byteLength, dropBytes?_cons, ih]

/-- Taking the bytes of a leading part gives that part. -/
theorem takeBytes?_append (a b : List Char) : takeBytes? (a ++ b) (byteLength a) = some a := by
  induction a with
  | nil => simp [byteLength, takeBytes?]
  | cons c a ih => rw [List.cons_append, byteLength, takeBytes?_cons, ih, Option.map_some]

end MixinSheet.Utf8
