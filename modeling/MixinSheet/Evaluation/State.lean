import MixinSheet.Evaluation.Event
import MixinSheet.Failure
import MixinSheet.Function.Table
import MixinSheet.Scopes

/-!
# The state of an evaluation

Expressions are evaluated in `HostM`: they see the scopes but can change only the state of the
native functions and the list of events. A failure keeps the state that was reached.
-/

namespace MixinSheet

/-- What the caller of an evaluation may choose. -/
structure Options where
  /-- How deeply calls may be nested. -/
  maxCallDepth : UInt64 := 64
  /-- Whether two different units may not be combined. -/
  strictUnits : Bool := false
  deriving DecidableEq, Repr

/-- What stays the same during an evaluation. -/
structure Settings (σ : Type) where
  options : Options
  functions : FunctionTable σ

/-- How deeply calls may be nested. -/
def Settings.limit {σ : Type} (settings : Settings σ) : Nat :=
  settings.options.maxCallDepth.toNat

/-- What an expression can change. -/
structure Host (σ : Type) where
  /-- The state of the native functions. -/
  natives : σ
  /-- The events so far, the latest first. -/
  events : List Event := []

/-- What a statement can change. -/
structure State (σ : Type) where
  scopes : Scopes
  /-- The number of calls being expanded. -/
  callDepth : Nat
  host : Host σ

/-- Evaluation of expressions. -/
abbrev HostM (σ : Type) := ExceptT Failure (StateM (Host σ))

namespace Host

variable {σ : Type}

/-- Adds an event. -/
def emit (event : Event) : HostM σ Unit :=
  modify fun host => { host with events := event :: host.events }

/-- Calls a native function. -/
def invoke (function : Native σ) (args : List Value) : HostM σ (Except String Value) := do
  let host ← get
  let (result, natives) := function args host.natives
  set { host with natives }
  return result

/-- Calling a function gives its result and keeps the new state of the functions. -/
theorem invoke_apply (function : Native σ) (args : List Value) (host : Host σ) :
    invoke function args host =
      (.ok (function args host.natives).1,
        { host with natives := (function args host.natives).2 }) := rfl

end Host

namespace HostM

variable {σ α β : Type}

/-- A result leaves the host alone. -/
@[simp] theorem pure_apply (a : α) (host : Host σ) :
    (pure a : HostM σ α) host = (.ok a, host) := rfl

/-- A failure leaves the host alone. -/
@[simp] theorem throw_apply (failure : Failure) (host : Host σ) :
    (throw failure : HostM σ α) host = (.error failure, host) := rfl

/-- The second part runs only if the first one succeeds, and from the host that it left. -/
theorem bind_apply (act : HostM σ α) (next : α → HostM σ β) (host : Host σ) :
    (act >>= next) host =
      match act host with
      | (.ok a, after) => next a after
      | (.error failure, after) => (.error failure, after) := by
  change (ExceptT.bindCont next (act host).1) (act host).2 = _
  cases h : act host with
  | mk result after =>
    cases result with
    | ok a => rfl
    | error failure => rfl

end HostM

namespace State

variable {σ : Type}

/-- The state before an evaluation. -/
def initial (natives : σ) : State σ where
  scopes := .initial
  callDepth := 0
  host := { natives }

/-- The state with other scopes. -/
def mapScopes (state : State σ) (f : Scopes → Scopes) : State σ :=
  { state with scopes := f state.scopes }

/-- The state with one more call being expanded. -/
def countCall (state : State σ) : State σ :=
  { state with callDepth := state.callDepth + 1 }

/-- Takes back what `countCall` counted. -/
def uncountCall (state : State σ) : State σ :=
  { state with callDepth := state.callDepth - 1 }

/-- The state with one more event. -/
def emit (state : State σ) (event : Event) : State σ :=
  { state with host := { state.host with events := event :: state.host.events } }

end State

end MixinSheet
