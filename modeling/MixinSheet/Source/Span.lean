import MixinSheet.Order
import MixinSheet.Source.Word

/-!
# Positions in source files

A location is a byte offset together with its row and column, both counted from zero. A span is
the part of a file from one location to another; every node of a stylesheet carries one. Lines and
columns that a person reads are counted from one, and are computed only when they are printed.
-/

namespace MixinSheet

/-- The number of a file in a catalog. -/
structure FileNumber where
  index : UInt64
  deriving DecidableEq, Repr, Inhabited

/-- A point in a file, counted from zero. -/
structure Location where
  offset : UInt64
  row : UInt64
  column : UInt64
  deriving DecidableEq, Repr, Inhabited

/-- The part of a file between two points. -/
structure Range where
  start : Location
  stop : Location
  deriving DecidableEq, Repr, Inhabited

/-- The part of a file that a node was read from. -/
structure Span where
  file : FileNumber
  range : Range
  deriving DecidableEq, Repr, Inhabited

namespace Location

/-- The order of two points: by offset, then by row, then by column. -/
def compare (a b : Location) : Ordering :=
  (Ord.compare a.offset b.offset).then
    ((Ord.compare a.row b.row).then (Ord.compare a.column b.column))

instance : Std.TransCmp compare :=
  inferInstanceAs (Std.TransCmp
    (compareLex (compareOn offset) (compareLex (compareOn row) (compareOn column))))

end Location

namespace Range

/-- The range of `length` bytes on one row. -/
def inRow (start : Location) (length : UInt64) : Except Overflow Range := do
  let offset ← Word.add start.offset length
  let column ← Word.add start.column length
  return { start, stop := { offset, row := start.row, column } }

/-- The number of bytes; a range whose end lies before its start has none. -/
def length (range : Range) : UInt64 :=
  Word.monus range.stop.offset range.start.offset

/-- Whether the range holds no byte. -/
def isEmpty (range : Range) : Bool :=
  range.length == 0

end Range

namespace Span

/-- The span of `length` columns at a line and column counted from one, with no byte offset. -/
def ofLine (file : FileNumber) (line column length : UInt64) : Except Overflow Span := do
  let start := { offset := 0, row := Word.monus line 1, column := Word.monus column 1 }
  let range ← Range.inRow start length
  return { file, range := { range with stop := { range.stop with offset := 0 } } }

/-- The line on which the span starts, counted from one. -/
def line (span : Span) : Except Overflow UInt64 :=
  Word.add span.range.start.row 1

/-- The column at which the span starts, counted from one. -/
def column (span : Span) : Except Overflow UInt64 :=
  Word.add span.range.start.column 1

/-- Line and column, as `line:column`. -/
def text (span : Span) : Except Overflow String := do
  let line ← span.line
  let column ← span.column
  return Nat.repr line.toNat ++ ":" ++ Nat.repr column.toNat

/-- The order in which definitions are taken: by file, then by the point where they start. -/
def compareStart (a b : Span) : Ordering :=
  (Ord.compare a.file.index b.file.index).then (a.range.start.compare b.range.start)

instance : Std.TransCmp compareStart :=
  have := Order.transCmp_comap Location.compare fun span : Span => span.range.start
  inferInstanceAs (Std.TransCmp (compareLex (compareOn fun span : Span => span.file.index)
    fun a b => a.range.start.compare b.range.start))

end Span

end MixinSheet
