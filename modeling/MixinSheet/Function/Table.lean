import MixinSheet.Order
import MixinSheet.Text.Lowercase
import MixinSheet.Text.Quoted
import MixinSheet.Value.Basic

/-!
# Native functions

Functions that expressions can call. They are found by name, upper and lower case being the same. A
native function may keep a state of its own from call to call; `σ` is the state of all of them
together.
-/

namespace MixinSheet

/-- A function on values that may read and change the state `σ`; it gives a value or a message. -/
abbrev Native (σ : Type) := List Value → σ → Except String Value × σ

/-- A function whose result depends only on its arguments. -/
def Native.ofPure {σ : Type} (f : List Value → Except String Value) : Native σ :=
  fun args state => (f args, state)

/-- Native functions by name, in lower case and each name once. -/
structure FunctionTable (σ : Type) where
  entries : List (String × Native σ) := []

namespace FunctionTable

variable {σ : Type}

/-- Adds a function, in place of one that has the same name. -/
def insert (table : FunctionTable σ) (name : String) (function : Native σ) : FunctionTable σ :=
  let key := Text.lowercase name
  { entries := (key, function) :: table.entries.filter (·.1 != key) }

/-- The function with the given name. -/
def find? (table : FunctionTable σ) (name : String) : Option (Native σ) :=
  table.entries.lookup (Text.lowercase name)

/-- Whether there is a function with the given name. -/
def contains (table : FunctionTable σ) (name : String) : Bool :=
  (table.find? name).isSome

/-- The names in order. -/
def names (table : FunctionTable σ) : List String :=
  Order.sort (fun a b => compareOfLessAndEq a b) (table.entries.map (·.1))

/-- An overview of the registered names. -/
def describe (table : FunctionTable σ) : String :=
  "FunctionRegistry \x7b functions: [" ++ ", ".intercalate (table.names.map Text.quoted) ++
    "] \x7d"

end FunctionTable

end MixinSheet
