import MixinSheet.Source.Span
import MixinSheet.Text.Utf8

/-!
# Rows of a file

A line index holds the byte offsets of the line breaks of a file, in order. It turns a byte offset
into a row and a column, by bisection, and a row and a column into a byte offset. A line break
belongs to the row that it ends.
-/

namespace MixinSheet

/-- Where the rows of a file end. -/
structure LineIndex where
  /-- Byte offsets of the line breaks. -/
  breaks : Array UInt64
  /-- Length of the file in bytes. -/
  size : UInt64
  deriving DecidableEq, Repr

namespace LineIndex

/-- The byte offsets of the line breaks of a text that starts at byte `offset`. -/
def breaksFrom (offset : Nat) : List Char → List Nat
  | [] => []
  | c :: rest =>
    let later := breaksFrom (offset + c.utf8Size) rest
    if c = '\n' then offset :: later else later

/-- The line index of a file with the given content. -/
def ofContent (content : String) : LineIndex where
  breaks := ((breaksFrom 0 content.toList).map UInt64.ofNat).toArray
  size := UInt64.ofNat (Utf8.byteLength content.toList)

/-- The number of rows: one more than there are line breaks. -/
def rowCount (index : LineIndex) : Nat :=
  index.breaks.size + 1

/-- Halves the `size` breaks from `base` on until one is left, keeping the upper half where it
starts with a break that is not past `offset`. -/
def bisect (index : LineIndex) (offset : UInt64) (base size : Nat) : Nat :=
  if size ≤ 1 then base
  else
    let middle := base + size / 2
    let past := match index.breaks[middle]? with
      | some brk => decide (offset < brk)
      | none => true
    index.bisect offset (if past then base else middle) (size - size / 2)
termination_by size

/-- The row of the byte at `offset`. -/
def rowOf (index : LineIndex) (offset : UInt64) : Nat :=
  let base := index.bisect offset 0 index.breaks.size
  match index.breaks[base]? with
  | some brk => if brk < offset then base + 1 else base
  | none => base

/-- The offset at which a row starts, if there is such a row. -/
def startOf (index : LineIndex) (row : Nat) : Except Overflow (Option UInt64) :=
  match row with
  | 0 => return some 0
  | before + 1 =>
    match index.breaks[before]? with
    | some brk => do return some (← Word.add brk 1)
    | none => return none

/-- The offsets at which a row starts and ends, the line break left out. -/
def boundsOf (index : LineIndex) (row : Nat) : Except Overflow (Option (UInt64 × UInt64)) := do
  match ← index.startOf row with
  | some start => return some (start, (index.breaks[row]?).getD index.size)
  | none => return none

/-- The location of the byte at `offset`; the end of the file counts as one. -/
def ofOffset (index : LineIndex) (offset : UInt64) : Except Overflow (Option Location) := do
  if index.size < offset then
    return none
  let row := index.rowOf offset
  match ← index.startOf row with
  | some start => return some { offset, row := UInt64.ofNat row, column := ← Word.sub offset start }
  | none => return none

/-- The location at a row and a column, if the row is that long. -/
def locate (index : LineIndex) (row column : UInt64) : Except Overflow (Option Location) := do
  match ← index.boundsOf row.toNat with
  | some (start, stop) =>
    let offset ← Word.add start column
    return if stop < offset then none else some { offset, row, column }
  | none => return none

end LineIndex

end MixinSheet
