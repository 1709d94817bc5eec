import MixinSheet.Json.Basic
import MixinSheet.Source.Catalog

/-!
# JSON form of positions and source files
-/

namespace MixinSheet

/-- The JSON form of a location. -/
def Location.toJson (location : Location) : Json :=
  .object [("offset", .ofWord location.offset), ("row", .ofWord location.row),
    ("column", .ofWord location.column)]

/-- Reads a location. -/
def Location.ofJson? (json : Json) : Option Location := do
  let fields ← json.record? ["offset", "row", "column"]
  return { offset := ← Json.required fields "offset" Json.word?
           row := ← Json.required fields "row" Json.word?
           column := ← Json.required fields "column" Json.word? }

/-- The JSON form of a range. -/
def Range.toJson (range : Range) : Json :=
  .object [("start", range.start.toJson), ("end", range.stop.toJson)]

/-- Reads a range. -/
def Range.ofJson? (json : Json) : Option Range := do
  let fields ← json.record? ["start", "end"]
  return { start := ← Json.required fields "start" Location.ofJson?
           stop := ← Json.required fields "end" Location.ofJson? }

/-- The JSON form of a span. -/
def Span.toJson (span : Span) : Json :=
  .object [("file_id", .ofWord span.file.index), ("range", span.range.toJson)]

/-- Reads a span. -/
def Span.ofJson? (json : Json) : Option Span := do
  let fields ← json.record? ["file_id", "range"]
  return { file := ⟨← Json.required fields "file_id" Json.word?⟩
           range := ← Json.required fields "range" Range.ofJson? }

/-- The JSON form of a line index. -/
def LineIndex.toJson (index : LineIndex) : Json :=
  .object [("line_breaks", .array (index.breaks.toList.map .ofWord)),
    ("total_length", .ofWord index.size)]

/-- Reads a line index. -/
def LineIndex.ofJson? (json : Json) : Option LineIndex := do
  let fields ← json.record? ["line_breaks", "total_length"]
  let breaks ← Json.required fields "line_breaks" (Json.list? Json.word?)
  return { breaks := breaks.toArray, size := ← Json.required fields "total_length" Json.word? }

/-- The JSON form of a source file; what is unknown is left out. -/
def FileEntry.toJson (file : FileEntry) : Json :=
  .object ([("path", .string file.path)] ++ Json.fieldIfSome "content" .string file.content ++
    Json.fieldIfSome "file_info" LineIndex.toJson file.index)

/-- Reads a source file. -/
def FileEntry.ofJson? (json : Json) : Option FileEntry := do
  let fields ← json.record? ["path", "content", "file_info"]
  return { path := ← Json.required fields "path" Json.string?
           content := ← Json.optional fields "content" Json.string?
           index := ← Json.optional fields "file_info" LineIndex.ofJson? }

/-- The JSON form of a catalog. -/
def Catalog.toJson (catalog : Catalog) : Json :=
  .object [("files", .array (catalog.files.toList.map FileEntry.toJson))]

/-- Reads a catalog. -/
def Catalog.ofJson? (json : Json) : Option Catalog := do
  let fields ← json.record? ["files"]
  let files ← Json.required fields "files" (Json.list? FileEntry.ofJson?)
  return { files := files.toArray }

end MixinSheet
