import MixinSheet.Diagnostic.Message
import MixinSheet.Source.Catalog

/-!
# The text of a diagnostic

The first line has kind, code, title and place. The problem, each detail behind a bullet and each
hint behind a question mark follow, one a line. Where the source of the place is known, the text is
preceded by a drawing of it.
-/

namespace MixinSheet

/-- The word for a severity. -/
def Severity.word : Severity → String
  | .error => "Error"
  | .warning => "Warning"
  | .info => "Info"

/-- The word for a severity above a drawing. -/
def Severity.drawingWord : Severity → String
  | .error => "Error"
  | .warning => "Warning"
  | .info => "Advice"

/-- The sign in front of a detail. -/
def DetailRole.bullet : DetailRole → String
  | .error => "✖"
  | .info => "ℹ"
  | .note => "•"

namespace Diagnostic

/-- The remark that names a place. -/
def placeText : Option Span → Except Overflow String
  | some span => do return " (at " ++ (← span.text) ++ ")"
  | none => return ""

/-- The line of a detail. -/
def detailText (detail : Detail) : Except Overflow String := do
  return detail.kind.bullet ++ " " ++ detail.content.text ++ (← placeText detail.location) ++ "\n"

/-- The line of a hint. -/
def hintText (hint : Content) : String :=
  "? " ++ hint.text ++ "\n"

/-- The code in brackets, if there is one. -/
def codeText (diagnostic : Diagnostic) : String :=
  match diagnostic.code with
  | some code => " [" ++ code ++ "]"
  | none => ""

/-- The text of a diagnostic, without a drawing. -/
def text (diagnostic : Diagnostic) : Except Overflow String := do
  let place ← placeText diagnostic.location
  let details ← diagnostic.details.mapM detailText
  let problem := match diagnostic.problem with
    | some problem => problem.text ++ "\n"
    | none => ""
  return diagnostic.severity.word ++ diagnostic.codeText ++ ": " ++ diagnostic.title ++ place ++
    "\n" ++ problem ++ String.join details ++ String.join (diagnostic.hints.map hintText)

/-! ## Drawings -/

/-- What is known of a drawing: its first line, and for each detail whether it labels a place in it.
The place of the diagnostic itself is always labelled. -/
structure Drawing where
  heading : String
  detailLabels : List Bool
  deriving DecidableEq, Repr

/-- The title of a drawing, with the code in front. -/
def drawingTitle (diagnostic : Diagnostic) : String :=
  match diagnostic.code with
  | some code => "[" ++ code ++ "] " ++ diagnostic.title
  | none => diagnostic.title

/-- The first line of a text. A carriage return at its end belongs to the line break. -/
def firstLine (text : String) : String :=
  let line := text.toList.takeWhile (· != '\n')
  String.ofList (if line.getLast? = some '\r' then line.dropLast else line)

/-- The first line of a drawing; a title of several lines goes on below it. -/
def heading (diagnostic : Diagnostic) : String :=
  firstLine (diagnostic.severity.drawingWord ++ ": " ++ diagnostic.drawingTitle)

/-- Whether a detail has a place in the given file. -/
def isIn (detail : Detail) (file : FileNumber) : Bool :=
  match detail.location with
  | some span => span.file == file
  | none => false

/-- The drawing of a diagnostic whose place is in a file with known content. -/
def drawing? (diagnostic : Diagnostic) (catalog : Catalog) : Option Drawing := do
  let span ← diagnostic.location
  let _ ← catalog.content? span.file
  return { heading := diagnostic.heading
           detailLabels := diagnostic.details.map (isIn · span.file) }

end Diagnostic

end MixinSheet
