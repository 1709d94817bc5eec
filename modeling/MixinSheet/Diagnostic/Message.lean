import MixinSheet.Failure

/-!
# Diagnostics

A diagnostic is a message to the author of a stylesheet: a title, the problem in a sentence, details
that may point at other places, and hints. It is built up from its kind and title.
-/

namespace MixinSheet

/-- How serious a diagnostic is. -/
inductive Severity where
  | error
  | warning
  | info
  deriving DecidableEq, Repr

/-- What a detail adds. -/
inductive DetailRole where
  | error
  | info
  | note
  deriving DecidableEq, Repr

/-- A text and how it is marked up. -/
inductive Content where
  | plain (text : String)
  | markdown (text : String)
  deriving DecidableEq, Repr

/-- The text without regard to its markup. -/
def Content.text : Content → String
  | .plain text | .markdown text => text

/-- A further piece of information, maybe about another place. -/
structure Detail where
  kind : DetailRole
  content : Content
  location : Option Span := none
  deriving DecidableEq, Repr

/-- A message to the author of a stylesheet. -/
structure Diagnostic where
  code : Option String := none
  title : String
  severity : Severity
  problem : Option Content := none
  details : List Detail := []
  hints : List Content := []
  location : Option Span := none
  deriving DecidableEq, Repr

namespace Diagnostic

/-- Sets the code. -/
def setCode (diagnostic : Diagnostic) (code : String) : Diagnostic :=
  { diagnostic with code := some code }

/-- Sets the place. -/
def setLocation (diagnostic : Diagnostic) (location : Span) : Diagnostic :=
  { diagnostic with location := some location }

/-- Sets the problem. -/
def setProblem (diagnostic : Diagnostic) (problem : Content) : Diagnostic :=
  { diagnostic with problem := some problem }

/-- Adds a detail after those that are there. -/
def pushDetail (diagnostic : Diagnostic) (detail : Detail) : Diagnostic :=
  { diagnostic with details := diagnostic.details ++ [detail] }

/-- Adds a hint after those that are there. -/
def pushHint (diagnostic : Diagnostic) (hint : Content) : Diagnostic :=
  { diagnostic with hints := diagnostic.hints ++ [hint] }

/-- The detail that names a call on the way to a failure. -/
def callDetail (site : OpenCall) : Detail where
  kind := .info
  content := .markdown ("Called from `" ++ site.text ++ "`")
  location := some site.span

/-- The diagnostic of a failed evaluation, with a detail for each call on the way, the innermost
first. -/
def ofFailure (failure : Failure) : Diagnostic where
  severity := .error
  title := failure.fault.message
  code := some failure.fault.code
  location := some failure.span
  problem := some (.markdown ("Evaluating `" ++ failure.text ++ "` failed"))
  details := failure.openCalls.map callDetail

end Diagnostic

end MixinSheet
