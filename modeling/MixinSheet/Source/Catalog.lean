import MixinSheet.Source.LineIndex

/-!
# Source files

A catalog numbers source files in the order they are added and keeps their content, so that a span
can be turned back into the text that it covers.
-/

namespace MixinSheet

/-- A source file; its content may be unknown. -/
structure FileEntry where
  path : String
  content : Option String
  index : Option LineIndex
  deriving DecidableEq, Repr

/-- The source files of a run, by number. -/
structure Catalog where
  files : Array FileEntry := #[]
  deriving DecidableEq, Repr

namespace Catalog

/-- Adds a file and gives its number. -/
def add (catalog : Catalog) (path : String) (content : Option String) : FileNumber × Catalog :=
  let file := { path, content, index := content.map LineIndex.ofContent }
  (⟨UInt64.ofNat catalog.files.size⟩, { catalog with files := catalog.files.push file })

/-- The file with the given number. -/
def file? (catalog : Catalog) (id : FileNumber) : Option FileEntry :=
  catalog.files[id.index.toNat]?

/-- The content of a file, if it is known. -/
def content? (catalog : Catalog) (id : FileNumber) : Option String :=
  (catalog.file? id).bind (·.content)

/-- The line index of a file, if its content is known. -/
def index? (catalog : Catalog) (id : FileNumber) : Option LineIndex :=
  (catalog.file? id).bind (·.index)

/-- The span of `length` bytes at a line and column counted from one, if the file has them. -/
def spanAt (catalog : Catalog) (id : FileNumber) (line column length : UInt64) :
    Except Overflow (Option Span) := do
  let some index := catalog.index? id | return none
  if line = 0 ∨ column = 0 then
    return none
  let some start ← index.locate (line - 1) (column - 1) | return none
  return some { file := id, range := ← Range.inRow start length }

/-- The text of the row on which a span starts. -/
def rowText (catalog : Catalog) (span : Span) : Except Overflow (Option String) := do
  let some file := catalog.file? span.file | return none
  let some content := file.content | return none
  let some index := file.index | return none
  let some (start, stop) ← index.boundsOf span.range.start.row.toNat | return none
  return Utf8.cut? content start.toNat stop.toNat

/-- The text that a span covers. -/
def textOf? (catalog : Catalog) (span : Span) : Option String := do
  let content ← catalog.content? span.file
  Utf8.cut? content span.range.start.offset.toNat span.range.stop.offset.toNat

end Catalog

end MixinSheet
