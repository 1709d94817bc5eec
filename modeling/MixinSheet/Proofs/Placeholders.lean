import Mathlib.Data.List.Forall2
import MixinSheet.Function.Builtin

/-!
# The placeholders of a format string

The scan of a template is compared with a rule that does not scan: a placeholder of a text is the
leftmost place where digits stand between braces, and the placeholders after it are those of the
text that follows it. The rule takes a text apart in one way only, and the scan finds it. The text
of an argument goes into the result as it is, since only the template is taken apart.

## Key results

- `Template.Splits`: the rule, and `Template.Splits.unique`: it has one outcome
- `Template.splits_scan`: the scan takes a template apart by the rule
- `Template.index?_eq_some_iff`: which argument the digits of a placeholder name
- `format_string_fills_once`: when a format string is refused, and what it gives otherwise
-/

namespace MixinSheet

namespace Template

/-! ## The rule -/

/-- A placeholder stands in the text: digits of some script between braces. -/
structure Occurs (text before digits after : List Char) : Prop where
  eq : text = before ++ '{' :: (digits ++ '}' :: after)
  nonempty : digits ≠ []
  decimal : ∀ c ∈ digits, Text.isDecimalDigit c = true

/-- The pieces of a text. Its leftmost placeholder is one, the characters before it stand for
themselves, and the text after it is taken apart in the same way. -/
inductive Splits : List Char → List Piece → Prop
  | plain {text : List Char} (hnone : ∀ before digits after, ¬ Occurs text before digits after) :
    Splits text (text.map .char)
  | placeholder {text before digits after : List Char} {pieces : List Piece}
    (hoccurs : Occurs text before digits after)
    (hleftmost : ∀ before' digits' after', Occurs text before' digits' after' →
      before.length ≤ before'.length)
    (hafter : Splits after pieces) :
    Splits text (before.map .char ++ .placeholder digits :: pieces)

/-- A closing brace is no digit. -/
private theorem not_isDecimalDigit_close : Text.isDecimalDigit '}' = false := rfl

/-- An opening brace is no digit. -/
private theorem not_isDecimalDigit_open : Text.isDecimalDigit '{' = false := rfl

/-- Digits end where they do: what follows them is no digit. -/
private theorem digits_append_inj {digits digits' rest rest' : List Char} {c c' : Char}
    (hdigits : ∀ d ∈ digits, Text.isDecimalDigit d = true)
    (hdigits' : ∀ d ∈ digits', Text.isDecimalDigit d = true)
    (hc : Text.isDecimalDigit c = false) (hc' : Text.isDecimalDigit c' = false)
    (h : digits ++ c :: rest = digits' ++ c' :: rest') :
    digits = digits' ∧ c = c' ∧ rest = rest' := by
  -- the first character that is no digit ends both runs of digits
  induction digits generalizing digits' with
  | nil =>
    cases digits' with
    | nil => simpa using h
    | cons d' ds' =>
      rw [List.nil_append, List.cons_append, List.cons.injEq] at h
      rw [h.1, hdigits' d' List.mem_cons_self] at hc
      exact nomatch hc
  | cons d ds ih =>
    cases digits' with
    | nil =>
      rw [List.nil_append, List.cons_append, List.cons.injEq] at h
      rw [← h.1, hdigits d List.mem_cons_self] at hc'
      exact nomatch hc'
    | cons d' ds' =>
      rw [List.cons_append, List.cons_append, List.cons.injEq] at h
      obtain ⟨rfl, hrest⟩ := h
      have hds := fun c hmem => hdigits c (List.mem_cons_of_mem _ hmem)
      have hds' := fun c hmem => hdigits' c (List.mem_cons_of_mem _ hmem)
      obtain ⟨rfl, hends⟩ := ih hds hds' hrest
      exact ⟨rfl, hends⟩

/-- Where a placeholder starts says which one it is. -/
theorem Occurs.unique {text before before' digits digits' after after' : List Char}
    (h : Occurs text before digits after) (h' : Occurs text before' digits' after')
    (hlength : before.length = before'.length) :
    before = before' ∧ digits = digits' ∧ after = after' := by
  obtain ⟨rfl, hrest⟩ := List.append_inj (h.eq.symm.trans h'.eq) hlength
  obtain ⟨rfl, -, rfl⟩ := digits_append_inj h.decimal h'.decimal not_isDecimalDigit_close
    not_isDecimalDigit_close (List.cons.inj hrest).2
  exact ⟨rfl, rfl, rfl⟩

/-- A text is taken apart in one way only. -/
theorem Splits.unique {text : List Char} {pieces pieces' : List Piece} (h : Splits text pieces)
    (h' : Splits text pieces') : pieces = pieces' := by
  -- both splits take the leftmost placeholder first
  induction h generalizing pieces' with
  | plain hnone =>
    cases h' with
    | plain => rfl
    | placeholder hoccurs' => exact absurd hoccurs' (hnone _ _ _)
  | placeholder hoccurs hleftmost _ ih =>
    cases h' with
    | plain hnone' => exact absurd hoccurs (hnone' _ _ _)
    | placeholder hoccurs' hleftmost' hafter' =>
      -- so the text before it has one length
      have hlength := Nat.le_antisymm (hleftmost _ _ _ hoccurs') (hleftmost' _ _ _ hoccurs)
      obtain ⟨rfl, rfl, rfl⟩ := hoccurs.unique hoccurs' hlength
      rw [ih hafter']

/-! ## The scan -/

/-- A character at which no placeholder starts is a piece of its own. -/
theorem Splits.cons {c : Char} {text : List Char} {pieces : List Piece} (h : Splits text pieces)
    (hstart : ∀ digits after, ¬ Occurs (c :: text) [] digits after) :
    Splits (c :: text) (.char c :: pieces) := by
  -- a placeholder of the longer text is one of the shorter text, one place further on
  have htail : ∀ {before digits after}, Occurs (c :: text) before digits after →
      ∃ before', before = c :: before' ∧ Occurs text before' digits after := by
    intro before digits after hoccurs
    cases before with
    | nil => exact absurd hoccurs (hstart digits after)
    | cons d before' =>
      obtain ⟨rfl, htext⟩ := List.cons.inj hoccurs.eq
      exact ⟨before', rfl, htext, hoccurs.nonempty, hoccurs.decimal⟩
  cases h with
  | plain hnone =>
    refine @Splits.plain (c :: text) fun before digits after hoccurs => ?_
    obtain ⟨before', -, hoccurs'⟩ := htail hoccurs
    exact hnone before' digits after hoccurs'
  | @placeholder _ before digits after pieces hoccurs hleftmost hafter =>
    have hoccurs' : Occurs (c :: text) (c :: before) digits after :=
      ⟨congrArg (c :: ·) hoccurs.eq, hoccurs.nonempty, hoccurs.decimal⟩
    refine .placeholder hoccurs' (fun before' digits' after' hother => ?_) hafter
    obtain ⟨before'', rfl, hother'⟩ := htail hother
    exact Nat.succ_le_succ (hleftmost before'' digits' after' hother')

/-- A placeholder starts with a brace. -/
private theorem Occurs.eq_open {c : Char} {text digits after : List Char}
    (h : Occurs (c :: text) [] digits after) : c = '{' :=
  (List.cons.inj h.eq).1

/-- Digits in front of a text are taken as they are. -/
private theorem Splits.digits_append {digits text : List Char} {pieces : List Piece}
    (h : Splits text pieces) (hdigits : ∀ d ∈ digits, Text.isDecimalDigit d = true) :
    Splits (digits ++ text) (digits.map .char ++ pieces) := by
  induction digits with
  | nil => exact h
  | cons d ds ih =>
    obtain ⟨hd, hds⟩ := List.forall_mem_cons.1 hdigits
    refine (ih hds).cons fun digits' after hoccurs => ?_
    rw [hoccurs.eq_open, not_isDecimalDigit_open] at hd
    exact nomatch hd

/-- The text that has been read since the last piece. -/
def pendingText : Option (List Char) → List Char
  | none => []
  | some digits => '{' :: digits

/-- Only digits are read after a brace that may open a placeholder. -/
def Pending : Option (List Char) → Prop
  | none => True
  | some digits => ∀ d ∈ digits, Text.isDecimalDigit d = true

/-- If digits after a brace are followed by anything but a brace that closes them, the brace and
the digits stand for themselves. -/
private theorem Splits.abandon {digits rest : List Char} {c : Char} {pieces : List Piece}
    (h : Splits (c :: rest) pieces) (hdigits : ∀ d ∈ digits, Text.isDecimalDigit d = true)
    (hc : Text.isDecimalDigit c = false) (hclose : ¬ (c = '}' ∧ digits ≠ [])) :
    Splits ('{' :: (digits ++ c :: rest)) (.char '{' :: (digits.map .char ++ pieces)) := by
  refine (h.digits_append hdigits).cons fun digits' after hoccurs => hclose ?_
  have hrest := (List.cons.inj hoccurs.eq).2
  obtain ⟨rfl, rfl, -⟩ :=
    digits_append_inj hdigits hoccurs.decimal hc not_isDecimalDigit_close hrest
  exact ⟨rfl, hoccurs.nonempty⟩

/-- The scan takes what is pending and the rest of a template apart by the rule. -/
theorem splits_scan (pending : Option (List Char)) (text : List Char) (hpending : Pending pending) :
    Splits (pendingText pending ++ text) (scan pending text) := by
  induction text generalizing pending with
  | nil =>
    cases pending with
    | none => exact @Splits.plain [] fun before digits after h => by simpa using h.eq
    | some digits =>
      -- no brace closes the digits
      have hnone : ∀ before digits' after, ¬ Occurs ('{' :: digits) before digits' after := by
        intro before digits' after h
        have hmem : '}' ∈ '{' :: digits := by rw [h.eq]; simp
        obtain hbrace | hdigit := List.mem_cons.1 hmem
        · exact nomatch hbrace
        · exact nomatch hpending _ hdigit
      simpa [scan, pendingText] using Splits.plain hnone
  | cons c rest ih =>
    -- a character outside of a placeholder: it may open one, or it stands for itself
    have houtside : Splits (c :: rest)
        (if c = '{' then scan (some []) rest else .char c :: scan none rest) := by
      split
      · next hopen =>
        subst hopen
        exact ih (some []) (List.forall_mem_nil _)
      · next hopen =>
        exact (ih none trivial).cons fun digits after hoccurs => hopen hoccurs.eq_open
    cases pending with
    | none =>
      rw [scan]
      exact houtside
    | some digits =>
      rw [scan]
      split
      · next hc =>
        have hmore : Pending (some (digits ++ [c])) :=
          List.forall_mem_append.2 ⟨hpending, List.forall_mem_singleton.2 hc⟩
        simpa [pendingText] using ih _ hmore
      · next hc =>
        split
        · next hclose =>
          obtain ⟨rfl, hne⟩ := hclose
          have hoccurs : Occurs ('{' :: (digits ++ '}' :: rest)) [] digits rest :=
            ⟨rfl, hne, hpending⟩
          exact .placeholder hoccurs (fun _ _ _ _ => Nat.zero_le _) (ih none trivial)
        · next hclose =>
          exact houtside.abandon hpending (Bool.eq_false_iff.2 hc) hclose

/-! ## The arguments that are named -/

/-- The digits name an argument: they are ASCII digits, and their number fits into 64 bits. -/
structure Names (digits : List Char) (index : Nat) : Prop where
  ascii : ∀ c ∈ digits, c.isDigit = true
  value : index = Nat.ofDigitChars 10 digits 0
  bound : index < UInt64.size

/-- The value of digits is the number that they stand for. -/
private theorem digitsValue?_eq_some_iff {start value : Nat} {digits : List Char} :
    digitsValue? start digits = some value ↔
      (∀ c ∈ digits, c.isDigit = true) ∧ value = Nat.ofDigitChars 10 digits start := by
  induction digits generalizing start with
  | nil => simp [digitsValue?, eq_comm (a := start)]
  | cons c rest ih =>
    rw [digitsValue?, Nat.ofDigitChars_cons, List.forall_mem_cons]
    cases hc : c.isDigit with
    | true => simp [ih]
    | false => simp

/-- The index of a placeholder is the argument that it names. -/
theorem index?_eq_some_iff {digits : List Char} {index : Nat} :
    index? digits = some index ↔ Names digits index := by
  rw [index?, Option.filter_eq_some_iff, digitsValue?_eq_some_iff, decide_eq_true_iff]
  constructor
  · rintro ⟨⟨hascii, hvalue⟩, hbound⟩
    exact ⟨hascii, hvalue, hbound⟩
  · rintro ⟨hascii, hvalue, hbound⟩
    exact ⟨⟨hascii, hvalue⟩, hbound⟩

/-- A placeholder names an argument that is not among the first `count`. -/
def Piece.Misses (count index : Nat) : Piece → Prop
  | .char _ => False
  | .placeholder digits => Names digits index ∧ count ≤ index

/-- The first piece that names an argument which is not among the first `count` names `index`. -/
def FirstMiss (count index : Nat) (pieces : List Piece) : Prop :=
  ∃ before piece after, pieces = before ++ piece :: after ∧ piece.Misses count index ∧
    ∀ earlier ∈ before, ∀ other, ¬ earlier.Misses count other

variable {count index : Nat} {piece : Piece} {pieces : List Piece}

/-- The first piece may be the one that misses its argument. -/
theorem FirstMiss.head (h : piece.Misses count index) : FirstMiss count index (piece :: pieces) :=
  ⟨[], piece, pieces, rfl, h, List.forall_mem_nil _⟩

/-- Pieces that miss nothing may come first. -/
theorem FirstMiss.tail (hpiece : ∀ other, ¬ piece.Misses count other)
    (h : FirstMiss count index pieces) : FirstMiss count index (piece :: pieces) := by
  obtain ⟨before, missing, after, rfl, hmissing, hbefore⟩ := h
  exact ⟨piece :: before, missing, after, rfl, hmissing, List.forall_mem_cons.2 ⟨hpiece, hbefore⟩⟩

/-- Whether a piece is missed can be read off its number. -/
private theorem firstMissing?_cons (count : Nat) (piece : Piece) (pieces : List Piece) :
    (∃ index, piece.Misses count index ∧ firstMissing? count (piece :: pieces) = some index) ∨
      (∀ index, ¬ piece.Misses count index) ∧
        firstMissing? count (piece :: pieces) = firstMissing? count pieces := by
  cases piece with
  | char c => exact .inr ⟨fun _ hmiss => hmiss, rfl⟩
  | placeholder digits =>
    rw [firstMissing?]
    -- a placeholder whose digits name no index misses nothing
    cases hindex : index? digits with
    | none =>
      refine .inr ⟨fun index hmiss => ?_, rfl⟩
      rw [index?_eq_some_iff.2 hmiss.1] at hindex
      exact nomatch hindex
    | some index =>
      have hnames := index?_eq_some_iff.1 hindex
      by_cases hcount : count ≤ index
      · exact .inl ⟨index, ⟨hnames, hcount⟩, if_pos hcount⟩
      · -- the digits name one index only, and there is an argument for it
        refine .inr ⟨fun other hmiss => hcount ?_, if_neg hcount⟩
        rw [hnames.value, ← hmiss.1.value]
        exact hmiss.2

/-- What is found to be missing is the first miss. -/
private theorem firstMiss_of_firstMissing? (h : firstMissing? count pieces = some index) :
    FirstMiss count index pieces := by
  induction pieces with
  | nil => exact nomatch h
  | cons piece pieces ih =>
    obtain ⟨other, hmiss, hfirst⟩ | ⟨hpiece, hrest⟩ := firstMissing?_cons count piece pieces
    · obtain rfl : other = index := Option.some.inj (hfirst.symm.trans h)
      exact .head hmiss
    · exact (ih (hrest.symm.trans h)).tail hpiece

/-- If nothing is found to be missing, no piece misses its argument. -/
private theorem not_misses_of_firstMissing? (h : firstMissing? count pieces = none) :
    ∀ piece ∈ pieces, ∀ index, ¬ piece.Misses count index := by
  induction pieces with
  | nil => exact List.forall_mem_nil _
  | cons piece pieces ih =>
    obtain ⟨other, -, hfirst⟩ | ⟨hpiece, hrest⟩ := firstMissing?_cons count piece pieces
    · exact nomatch hfirst.symm.trans h
    · exact List.forall_mem_cons.2 ⟨hpiece, ih (hrest.symm.trans h)⟩

/-! ## The text that is put in -/

/-- What becomes of a piece: a character is kept, a placeholder gives way to the argument that it
names, and one that names none is left out. -/
inductive Piece.Becomes (args : List String) : Piece → List Char → Prop
  | char (c : Char) : Becomes args (.char c) [c]
  | argument {digits : List Char} {index : Nat} {text : String} (hnames : Names digits index)
    (harg : args[index]? = some text) : Becomes args (.placeholder digits) text.toList
  | nothing {digits : List Char} (hnames : ∀ index, ¬ Names digits index) :
    Becomes args (.placeholder digits) []

/-- Each piece is filled on its own. -/
private theorem fill_cons (args : List String) (piece : Piece) (pieces : List Piece)
    (h : ∀ index, ¬ piece.Misses args.length index) :
    ∃ text, piece.Becomes args text ∧ fill args (piece :: pieces) = text ++ fill args pieces := by
  cases piece with
  | char c => exact ⟨[c], .char c, rfl⟩
  | placeholder digits =>
    rw [fill]
    -- digits that name no index leave nothing in the text
    cases hindex : index? digits with
    | none =>
      refine ⟨[], .nothing fun index hnames => ?_, rfl⟩
      rw [index?_eq_some_iff.2 hnames] at hindex
      exact nomatch hindex
    | some index =>
      have hnames := index?_eq_some_iff.1 hindex
      -- no index is missed, so there is an argument
      have hlt : index < args.length := Nat.lt_of_not_le fun hcount => h index ⟨hnames, hcount⟩
      have harg : args[index]? = some args[index] := List.getElem?_eq_getElem hlt
      refine ⟨args[index].toList, .argument hnames harg, ?_⟩
      rw [Option.bind_some, harg, Option.getD_some]

/-- If no argument is missing, the result is made of what becomes of the pieces. -/
private theorem fill_eq_flatten (args : List String)
    (h : ∀ piece ∈ pieces, ∀ index, ¬ piece.Misses args.length index) :
    ∃ texts, List.Forall₂ (Piece.Becomes args) pieces texts ∧ fill args pieces = texts.flatten := by
  induction pieces with
  | nil => exact ⟨[], .nil, rfl⟩
  | cons piece pieces ih =>
    obtain ⟨hpiece, hpieces⟩ := List.forall_mem_cons.1 h
    obtain ⟨text, hbecomes, hfill⟩ := fill_cons args piece pieces hpiece
    obtain ⟨texts, htexts, hrest⟩ := ih hpieces
    exact ⟨text :: texts, .cons hbecomes htexts, by rw [hfill, hrest, List.flatten_cons]⟩

end Template

open Template

/-- A format string is taken apart at its placeholders, from left to right and in one way only. The
call is refused if and only if a placeholder names an argument that is not there; the message then
has the number of the first one and the number of arguments. Otherwise the result is a keyword: each
placeholder gives way to the text of the argument that it names, or to nothing if its digits name no
argument, and every other character is kept. -/
theorem format_string_fills_once (template : Value) (args : List Value) :
    ∃ pieces, Splits template.unquoted.toList pieces ∧
      (∀ pieces', Splits template.unquoted.toList pieces' → pieces' = pieces) ∧
      ((∃ message, Builtin.formatString (template :: args) = .error message) ↔
        ∃ piece ∈ pieces, ∃ index, piece.Misses args.length index) ∧
      (∀ message, Builtin.formatString (template :: args) = .error message →
        ∃ index, FirstMiss args.length index pieces ∧
          message = "placeholder \x7b" ++ Nat.repr index ++ "\x7d has no argument (" ++
            Nat.repr args.length ++ " supplied)") ∧
      ((∀ piece ∈ pieces, ∀ index, ¬ piece.Misses args.length index) →
        ∃ texts, List.Forall₂ (Piece.Becomes (args.map Value.unquoted)) pieces texts ∧
          Builtin.formatString (template :: args) =
            .ok (.keyword (String.ofList texts.flatten))) := by
  have hsplits : Splits template.unquoted.toList (Template.pieces template.unquoted) :=
    splits_scan none _ trivial
  refine ⟨_, hsplits, fun pieces' h => h.unique hsplits, ?_⟩
  -- the first missing index decides between the text and the message
  cases hmissing : firstMissing? args.length (Template.pieces template.unquoted) with
  | none =>
    have hnone := not_misses_of_firstMissing? hmissing
    have hlength : (args.map Value.unquoted).length = args.length := List.length_map _
    obtain ⟨texts, htexts, hfill⟩ := fill_eq_flatten (args.map Value.unquoted) (hlength ▸ hnone)
    have hrun : Builtin.formatString (template :: args) =
        .ok (.keyword (String.ofList texts.flatten)) := by
      simp only [Builtin.formatString, hmissing, Value.unquotedAll_eq_map, hfill]
    rw [hrun]
    refine ⟨?_, ?_, fun _ => ⟨texts, htexts, rfl⟩⟩
    · constructor
      · rintro ⟨message, h⟩
        exact nomatch h
      · rintro ⟨piece, hpiece, index, hmiss⟩
        exact absurd hmiss (hnone piece hpiece index)
    · intro message h
      exact nomatch h
  | some index =>
    -- the message names the first index without an argument
    have hfirst := firstMiss_of_firstMissing? hmissing
    have ⟨before, piece, after, hpieces, hmiss, _⟩ := hfirst
    have hmem : piece ∈ Template.pieces template.unquoted := by simp [hpieces]
    have hrun : Builtin.formatString (template :: args) =
        .error ("placeholder \x7b" ++ Nat.repr index ++ "\x7d has no argument (" ++
          Nat.repr args.length ++ " supplied)") := by
      simp only [Builtin.formatString, hmissing]
    rw [hrun]
    refine ⟨⟨fun _ => ⟨piece, hmem, index, hmiss⟩, fun _ => ⟨_, rfl⟩⟩, ?_, fun hnone => ?_⟩
    · intro message h
      exact ⟨index, hfirst, (Except.error.inj h).symm⟩
    · exact absurd hmiss (hnone piece hmem index)

end MixinSheet
