import MixinSheet.Diagnostic.Text
import MixinSheet.Json.Source

/-!
# JSON forms of diagnostics

A diagnostic has two forms. `Diagnostic.toJson` keeps every field and can be read back.
`Diagnostic.report` is meant for tools that show it: places are given by line and column, and what
is empty is left out.
-/

namespace MixinSheet

/-- The JSON form of a severity. -/
def Severity.toJson : Severity → Json
  | .error => .string "Error"
  | .warning => .string "Warning"
  | .info => .string "Info"

/-- Reads a severity. -/
def Severity.ofJson? (json : Json) : Option Severity :=
  match json.name? with
  | some "Error" => some .error
  | some "Warning" => some .warning
  | some "Info" => some .info
  | _ => none

/-- The JSON form of a kind of detail. -/
def DetailRole.toJson : DetailRole → Json
  | .error => .string "Error"
  | .info => .string "Info"
  | .note => .string "Note"

/-- Reads a kind of detail. -/
def DetailRole.ofJson? (json : Json) : Option DetailRole :=
  match json.name? with
  | some "Error" => some .error
  | some "Info" => some .info
  | some "Note" => some .note
  | _ => none

/-- The JSON form of a content. -/
def Content.toJson : Content → Json
  | .plain text => .tagged "Plain" (.string text)
  | .markdown text => .tagged "Markdown" (.string text)

/-- Reads a content. -/
def Content.ofJson? (json : Json) : Option Content :=
  match json.variant? with
  | some ("Plain", some content) => content.string?.map .plain
  | some ("Markdown", some content) => content.string?.map .markdown
  | _ => none

/-- The JSON form of a detail. -/
def Detail.toJson (detail : Detail) : Json :=
  .object ([("kind", detail.kind.toJson), ("content", detail.content.toJson)] ++
    Json.fieldIfSome "location" Span.toJson detail.location)

/-- Reads a detail. -/
def Detail.ofJson? (json : Json) : Option Detail := do
  let fields ← json.record? ["kind", "content", "location"]
  return { kind := ← Json.required fields "kind" DetailRole.ofJson?
           content := ← Json.required fields "content" Content.ofJson?
           location := ← Json.optional fields "location" Span.ofJson? }

namespace Diagnostic

/-- The JSON form of a diagnostic. -/
def toJson (diagnostic : Diagnostic) : Json :=
  .object (Json.fieldIfSome "code" .string diagnostic.code ++
    [("title", .string diagnostic.title), ("kind", diagnostic.severity.toJson),
      ("problem", .ofOption Content.toJson diagnostic.problem),
      ("details", .array (diagnostic.details.map Detail.toJson)),
      ("hints", .array (diagnostic.hints.map Content.toJson))] ++
    Json.fieldIfSome "location" Span.toJson diagnostic.location)

/-- Reads a diagnostic. -/
def ofJson? (json : Json) : Option Diagnostic := do
  let fields ← json.record? ["code", "title", "kind", "problem", "details", "hints", "location"]
  return { code := ← Json.optional fields "code" Json.string?
           title := ← Json.required fields "title" Json.string?
           severity := ← Json.required fields "kind" Severity.ofJson?
           problem := ← Json.optional fields "problem" Content.ofJson?
           details := ← Json.required fields "details" (Json.list? Detail.ofJson?)
           hints := ← Json.required fields "hints" (Json.list? Content.ofJson?)
           location := ← Json.optional fields "location" Span.ofJson? }

/-! ## Reports -/

/-- A place in a report. -/
def reportPlace (span : Span) : Except Overflow Json := do
  return .object [("file", .ofWord span.file.index), ("line", .ofWord (← span.line)),
    ("column", .ofWord (← span.column)), ("start", .ofWord span.range.start.offset),
    ("end", .ofWord span.range.stop.offset)]

/-- The field of a place, if there is one. -/
def reportLocation : Option Span → Except Overflow (List (String × Json))
  | some span => return [("location", ← reportPlace span)]
  | none => return []

/-- A content in a report. -/
def reportContent : Content → Json
  | .plain text => .object [("type", .string "plain"), ("content", .string text)]
  | .markdown text => .object [("type", .string "markdown"), ("content", .string text)]

/-- A severity in a report. -/
def reportSeverity : Severity → Json
  | .error => .string "error"
  | .warning => .string "warning"
  | .info => .string "info"

/-- A kind of detail in a report. -/
def reportDetailKind : DetailRole → Json
  | .error => .string "error"
  | .info => .string "info"
  | .note => .string "note"

/-- A detail in a report. -/
def reportDetail (detail : Detail) : Except Overflow Json := do
  return .object ([("kind", reportDetailKind detail.kind),
    ("content", reportContent detail.content)] ++ (← reportLocation detail.location))

/-- A field with a list, which is left out if the list is empty. -/
def reportList (key : String) (items : List Json) : List (String × Json) :=
  if items.isEmpty then [] else [(key, .array items)]

/-- The report of a diagnostic. -/
def report (diagnostic : Diagnostic) : Except Overflow Json := do
  let details ← diagnostic.details.mapM reportDetail
  let location ← reportLocation diagnostic.location
  return .object ([("kind", reportSeverity diagnostic.severity),
      ("title", .string diagnostic.title)] ++
    Json.fieldIfSome "code" .string diagnostic.code ++
    Json.fieldIfSome "problem" reportContent diagnostic.problem ++
    reportList "details" details ++
    reportList "hints" (diagnostic.hints.map reportContent) ++
    location)

end Diagnostic

end MixinSheet
