import MixinSheet.Evaluation.Sheet
import Mathlib.Logic.Function.Iterate

/-!
# Runs step by step

`EvalM.run` gives the outcome of a program at once. Here a program is run one step at a time: a
configuration is what is left to do and the moment that was reached, and `Config.next` does the next
step. A mixin call is replaced by its own program and counts as a step, so nothing bounds how many
calls are nested and a run of the machine need not end by the way it is defined.

A moment also keeps what has happened to the frames so far. No step looks at this record; it is what
"the block that a frame was made for" means.

## Key definitions

- `Config.next`: one step of the machine
- `Stylesheet.momentAt`: the moment of a run after some number of steps
- `Config.Reaches`: the machine gets from one configuration to another
-/

namespace MixinSheet

open Evaluation

variable {σ α β : Type}

/-- Something that has happened to a frame. -/
inductive Mark where
  /-- The frame was made for a block. -/
  | entered (frame : FrameId) (block : Block)
  /-- The definitions of a block were registered in the frame. -/
  | hoisted (frame : FrameId) (block : Block)

/-- What a step does to frames that is worth a mark. -/
def Step.marks : Step σ β → State σ → List Mark
  | .enter _ block, state => [.entered state.scopes.next block]
  | .hoist frame block, _ => [.hoisted frame block]
  | _, _ => []

/-- A point of a run. -/
structure Moment (σ : Type) where
  state : State σ
  /-- What has happened to the frames, the latest first. -/
  past : List Mark

/-- The moment after a step. -/
def Moment.after (m : Moment σ) (first : Step σ β) : Moment σ where
  state := (first.apply m.state).2
  past := first.marks m.state ++ m.past

/-- What is left of a run and the point it has reached. -/
structure Config (σ α : Type) : Type 1 where
  program : EvalM σ α
  moment : Moment σ

/-- One step of a run; a run that is done stays as it is. -/
def Config.next (settings : Settings σ) : Config σ α → Config σ α
  | ⟨.done outcome, m⟩ => ⟨.done outcome, m⟩
  | ⟨.step first next, m⟩ => ⟨next (first.apply m.state).1, m.after first⟩
  | ⟨.call invocation next, m⟩ => ⟨(runCall settings invocation).followedBy next, m⟩

/-- The run of a stylesheet before its first step. The root frame is there for its block. -/
def Stylesheet.start (sheet : Stylesheet) (settings : Settings σ) (natives : σ) :
    Config σ (List FlatRule) where
  program := runSheet settings sheet
  moment := { state := .initial natives, past := [.entered Scopes.root sheet.block] }

/-- The run of a stylesheet after `n` steps. -/
def Stylesheet.configAt (sheet : Stylesheet) (settings : Settings σ) (natives : σ) (n : Nat) :
    Config σ (List FlatRule) :=
  (Config.next settings)^[n] (sheet.start settings natives)

/-- The point that the run of a stylesheet has reached after `n` steps. -/
def Stylesheet.momentAt (sheet : Stylesheet) (settings : Settings σ) (natives : σ) (n : Nat) :
    Moment σ :=
  (sheet.configAt settings natives n).moment

/-- The state of the run of a stylesheet after `n` steps. -/
def Stylesheet.stateAt (sheet : Stylesheet) (settings : Settings σ) (natives : σ) (n : Nat) :
    State σ :=
  (sheet.momentAt settings natives n).state

namespace EvalM

/-- What comes last can be taken together with what comes before it. -/
private theorem followedBy_assoc {γ : Type} (act : EvalM σ α) (f : Except Failure α → EvalM σ β)
    (g : Except Failure β → EvalM σ γ) :
    (act.followedBy f).followedBy g = act.followedBy fun outcome => (f outcome).followedBy g := by
  induction act with
  | done outcome => rfl
  | step first next ih =>
    simp only [followedBy]
    congr 1
    funext answer
    exact ih answer
  | call invocation next ih =>
    simp only [followedBy]
    congr 1
    funext outcome
    exact ih outcome

/-- With nothing behind it, a program is the program alone. -/
private theorem followedBy_done (act : EvalM σ α) : act.followedBy .done = act := by
  induction act with
  | done outcome => rfl
  | step first next ih =>
    simp only [followedBy]
    congr 1
    funext answer
    exact ih answer
  | call invocation next ih =>
    simp only [followedBy]
    congr 1
    funext outcome
    exact ih outcome

/-- To give the result of a program on is the program. -/
private theorem bind_pure_eq (act : EvalM σ α) : act >>= pure = act := by
  have hdone : onSuccess (pure : α → EvalM σ α) = .done := by
    funext outcome
    cases outcome <;> rfl
  change act.followedBy (onSuccess pure) = act
  rw [hdone, followedBy_done]

/-- Programs in a row can be grouped in any way. -/
private theorem bind_bind_eq {γ : Type} (act : EvalM σ α) (f : α → EvalM σ β) (g : β → EvalM σ γ) :
    act >>= f >>= g = act >>= fun a => f a >>= g := by
  change (act.followedBy (onSuccess f)).followedBy (onSuccess g) = act.followedBy _
  rw [followedBy_assoc]
  congr 1
  funext outcome
  cases outcome <;> rfl

instance : LawfulMonad (EvalM σ) :=
  LawfulMonad.mk' (EvalM σ) bind_pure_eq (fun _ _ => rfl) bind_bind_eq

end EvalM

namespace Config

variable (settings : Settings σ)

/-- The machine gets from one configuration to another. -/
def Reaches (c c' : Config σ α) : Prop :=
  ∃ n, (next settings)^[n] c = c'

variable {settings}

/-- No step has to be taken. -/
theorem Reaches.refl (c : Config σ α) : Reaches settings c c :=
  ⟨0, rfl⟩

/-- One step can be taken. -/
theorem Reaches.next (c : Config σ α) : Reaches settings c (c.next settings) :=
  ⟨1, rfl⟩

/-- Steps add up. -/
theorem Reaches.trans {c c' c'' : Config σ α} (h : Reaches settings c c')
    (h' : Reaches settings c' c'') : Reaches settings c c'' := by
  obtain ⟨n, rfl⟩ := h
  obtain ⟨n', rfl⟩ := h'
  exact ⟨n' + n, Function.iterate_add_apply _ n' n c⟩

/-- The machine comes to one end only. -/
theorem Reaches.done_unique {c : Config σ α} {outcome outcome' : Except Failure α}
    {m m' : Moment σ} (h : Reaches settings c ⟨.done outcome, m⟩)
    (h' : Reaches settings c ⟨.done outcome', m'⟩) :
    (⟨.done outcome, m⟩ : Config σ α) = ⟨.done outcome', m'⟩ := by
  obtain ⟨n, hn⟩ := h
  obtain ⟨n', hn'⟩ := h'
  -- whichever comes first stays there
  have hstays : (Config.next settings)^[n'] ((Config.next settings)^[n] c) =
      ⟨.done outcome, m⟩ := by
    rw [hn]
    exact Function.iterate_fixed rfl n'
  have hstays' : (Config.next settings)^[n] ((Config.next settings)^[n'] c) =
      ⟨.done outcome', m'⟩ := by
    rw [hn']
    exact Function.iterate_fixed rfl n
  rw [← hstays, ← hstays', ← Function.iterate_add_apply, ← Function.iterate_add_apply,
    Nat.add_comm]

/-- A program with something behind it takes the same steps until it is done. -/
theorem Reaches.followedBy {c c' : Config σ α} (h : Reaches settings c c')
    (f : Except Failure α → EvalM σ β) :
    Reaches settings ⟨c.program.followedBy f, c.moment⟩ ⟨c'.program.followedBy f, c'.moment⟩ := by
  obtain ⟨n, rfl⟩ := h
  induction n generalizing c with
  | zero => exact .refl _
  | succ n ih =>
    rw [Function.iterate_succ_apply]
    refine Reaches.trans ?_ ih
    obtain ⟨program, m⟩ := c
    -- one step of the first part is one step of the whole
    cases program with
    | done outcome => exact .refl _
    | step first next => exact .next ⟨.step first fun answer => (next answer).followedBy f, m⟩
    | call invocation next =>
      have hnext : Reaches settings ⟨(EvalM.call invocation next).followedBy f, m⟩ _ := .next _
      simp only [EvalM.followedBy, Config.next] at hnext ⊢
      rwa [EvalM.followedBy_assoc]

end Config

end MixinSheet
