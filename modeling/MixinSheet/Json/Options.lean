import MixinSheet.Evaluation.State
import MixinSheet.Json.Basic

/-!
# JSON form of options

Every option may be missing and then has its default; an option that is not known is refused. In
an array, the last options may be missing.
-/

namespace MixinSheet

/-- The JSON form of options. -/
def Options.toJson (options : Options) : Json :=
  .object [("max-call-depth", .ofWord options.maxCallDepth),
    ("strict-units", .bool options.strictUnits)]

/-- The keys of the options. -/
def Options.keys : List String :=
  ["max-call-depth", "strict-units"]

/-- The fields that are given, all of which are options. -/
def Options.fields? : Json → Option (List (String × Json))
  | .array items => if items.length ≤ keys.length then some (keys.zip items) else none
  | json => (json.record? keys).filter (·.all (keys.contains ·.1))

/-- Reads a field that may be missing but not null. -/
def Options.readOr {α : Type} (fields : List (String × Json)) (key : String) (default : α)
    (read : Json → Option α) : Option α :=
  match fields.lookup key with
  | some json => read json
  | none => some default

/-- Reads options. -/
def Options.ofJson? (json : Json) : Option Options := do
  let fields ← fields? json
  let standard : Options := {}
  return { maxCallDepth := ← readOr fields "max-call-depth" standard.maxCallDepth Json.word?
           strictUnits := ← readOr fields "strict-units" standard.strictUnits Json.bool? }

end MixinSheet
