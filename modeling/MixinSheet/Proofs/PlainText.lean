import MixinSheet.Evaluation.Expression
import MixinSheet.Proofs.Sketch

/-!
# Plain expressions

Whatever needs no evaluation is passed on as it was written: an expression made of literals, lists
and calls of functions that are not registered has a value with the text of the expression. The
value need not have its structure, since a call that is passed on becomes a keyword.

## Key results

- `Expression.IsPlain`: literals, lists and calls of functions that are not registered
- `plain_expression_keeps_text`: a plain expression has a value with the same text
-/

namespace MixinSheet

variable {σ : Type}

namespace Expression

/-- Made of literals, lists and calls of functions that are not registered. -/
inductive IsPlain (functions : FunctionTable σ) : Expression → Prop
  | literal (value : Value) (span : Span) : IsPlain functions (.literal value span)
  | list (separator : Separator) (span : Span) {items : List Expression}
    (hitems : ∀ item ∈ items, IsPlain functions item) :
    IsPlain functions (.list separator items span)
  | call {name : String} (span : Span) (hname : functions.contains name = false)
    {args : List Expression} (hargs : ∀ arg ∈ args, IsPlain functions arg) :
    IsPlain functions (.call name args span)

variable (settings : Settings σ) (scopes : Scopes) (frame : FrameId)

/-- The expression has a value with its own text, and no native function is called for it. -/
def KeepsText (expression : Expression) : Prop :=
  ∀ host, ∃ value after, expression.evaluate settings scopes frame host = (.ok value, after) ∧
    after.natives = host.natives ∧ value.text = expression.text

variable {settings scopes frame}

/-- Expressions in a row keep their texts if each of them does. -/
private theorem evaluateAll_keepsText {expressions : List Expression}
    (h : ∀ expression ∈ expressions, expression.KeepsText settings scopes frame) (host : Host σ) :
    ∃ values after, evaluateAll settings scopes frame expressions host = (.ok values, after) ∧
      after.natives = host.natives ∧ Value.texts values = texts expressions := by
  induction expressions generalizing host with
  | nil => exact ⟨[], host, rfl, rfl, rfl⟩
  | cons expression rest ih =>
    obtain ⟨hfirst, hrest⟩ := List.forall_mem_cons.1 h
    -- hosts are passed from one expression to the next with their natives unchanged
    obtain ⟨value, between, hrun, hnatives, htext⟩ := hfirst host
    obtain ⟨values, after, hrun', hnatives', htexts⟩ := ih hrest between
    refine ⟨value :: values, after, ?_, hnatives'.trans hnatives, ?_⟩
    · rw [evaluateAll, HostM.bind_apply, hrun]
      dsimp only
      rw [HostM.bind_apply, hrun']
      rfl
    · rw [Value.texts, texts, htext, htexts]

/-- A call of a function that is not registered becomes a keyword with the text of the call. -/
private theorem callFunction_of_not_contains {name : String}
    (hname : settings.functions.contains name = false) (expression : Expression)
    (args : List Value) (host : Host σ) :
    ∃ value after, expression.callFunction settings name args host = (.ok value, after) ∧
      after.natives = host.natives ∧
      value.text = name ++ "(" ++ ", ".intercalate (Value.texts args) ++ ")" := by
  have hfind : settings.functions.find? name = none := by
    simpa [FunctionTable.contains] using hname
  unfold callFunction
  rw [hfind]
  exact ⟨_, _, rfl, rfl, rfl⟩

/-- A plain expression keeps its text. -/
private theorem IsPlain.keepsText {expression : Expression}
    (h : expression.IsPlain settings.functions) : expression.KeepsText settings scopes frame := by
  intro host
  -- plain expressions are literals, lists of them and calls of no known function
  induction h generalizing host with
  | literal value span => exact ⟨value, host, rfl, rfl, rfl⟩
  | @list separator span items _ ih =>
    obtain ⟨values, after, hrun, hnatives, htexts⟩ := evaluateAll_keepsText ih host
    refine ⟨.list separator values, after, ?_, hnatives, ?_⟩
    · rw [evaluate, HostM.bind_apply, hrun]
      rfl
    · rw [Value.text, text, htexts]
  | @call name span hname args _ ih =>
    obtain ⟨values, between, hrun, hnatives, htexts⟩ := evaluateAll_keepsText ih host
    obtain ⟨value, after, hcall, hnatives', htext⟩ :=
      callFunction_of_not_contains hname (.call name args span) values between
    refine ⟨value, after, ?_, hnatives'.trans hnatives, ?_⟩
    · rw [evaluate, HostM.bind_apply, hrun]
      exact hcall
    · rw [htext, text, htexts]

end Expression

/-- A plain expression has a value in every frame and every state of the native functions, which it
leaves alone, and the text of the value is the text of the expression. -/
theorem plain_expression_keeps_text (settings : Settings σ) (scopes : Scopes) (frame : FrameId)
    (host : Host σ) (expression : Expression) (h : expression.IsPlain settings.functions) :
    ∃ value after, expression.evaluate settings scopes frame host = (.ok value, after) ∧
      after.natives = host.natives ∧ value.text = expression.text :=
  h.keepsText host

namespace Background

/-- One function is registered, which refuses every call. -/
def settings : Settings Nat where
  options := {}
  functions := { entries := [("unit", fun _ count => (.error "no number", count + 1))] }

/-- Lists inside of calls inside of a list. -/
def layers : Expression :=
  .list .comma [
    .call "url" [.literal (.quoted "a b.png" '"') default] default,
    .call "linear" [.list .space [Sketch.keyword "to", Sketch.keyword "left"] default,
      .call "var" [Sketch.keyword "--edge"] default] default] default

/-- The layers call no function that is known. -/
private theorem isPlain_layers : layers.IsPlain settings.functions := by
  have hliteral : ∀ value span, Expression.IsPlain settings.functions (.literal value span) :=
    .literal
  refine .list _ _ (List.forall_mem_cons.2 ⟨?_, List.forall_mem_singleton.2 ?_⟩)
  · exact .call _ rfl (List.forall_mem_singleton.2 (hliteral _ _))
  · refine .call _ rfl (List.forall_mem_cons.2 ⟨?_, List.forall_mem_singleton.2 ?_⟩)
    · exact .list _ _ (List.forall_mem_cons.2 ⟨hliteral _ _,
        List.forall_mem_singleton.2 (hliteral _ _)⟩)
    · exact .call _ rfl (List.forall_mem_singleton.2 (hliteral _ _))

end Background

/-- A function that is known but not called, and calls of others inside of lists. -/
theorem plain_expression_keeps_text_layers :
    Background.layers.IsPlain Background.settings.functions ∧
    Background.layers.text = "url(\"a b.png\"), linear(to left, var(--edge))" ∧
    ∃ value after, Background.layers.evaluate Background.settings .initial Scopes.root
        { natives := 0 } = (.ok value, after) ∧
      after.natives = 0 ∧ value.text = Background.layers.text :=
  ⟨Background.isPlain_layers, rfl, plain_expression_keeps_text Background.settings .initial
    Scopes.root { natives := 0 } Background.layers Background.isPlain_layers⟩

end MixinSheet
