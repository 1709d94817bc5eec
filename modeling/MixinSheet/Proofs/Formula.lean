import MixinSheet.Proofs.Positions

/-!
# The text of a formula determines the formula

A formula is made of variables, operations, negations and calls of functions. Its text has only the
parentheses that the precedences require, and they are enough: a reader that goes from left to
right, lets multiplication and division bind more strongly than addition and subtraction and groups
operators of equal precedence to the left gets back the formula, but for its spans. So no two
formulas have the same text.

The reader climbs the precedences. `readAt level` reads an operand and then goes on with `extend`,
which takes in operators that bind at least as strongly as `level`. Reading the text of a formula is
thus the same as going on with the formula as the left operand of what follows.

## Key results

- `Expression.IsFormula`: variables, operations, negations and calls
- `Formula.read`: the reader
- `Formula.Readable.readAt_append`: what is read where the text of a formula stands
- `formula_text_determines_formula`: formulas with equal texts are equal without their spans
-/

namespace MixinSheet

namespace Formula

/-! ## Names -/

/-- A character of a name: a letter, a digit, `_` or `-`, or one that is not ASCII. -/
def isNameChar (c : Char) : Bool :=
  c.isAlphanum || c == '_' || c == '-' || 128 ≤ c.toNat

/-- A character that the name of a function may start with. -/
def isNameStart (c : Char) : Bool :=
  c.isAlpha || c == '_'

/-- Whether a variable has an ordinary name: `@` and at least one character of a name. -/
def isVariableName (name : String) : Bool :=
  match name.toList with
  | '@' :: c :: rest => (c :: rest).all isNameChar
  | _ => false

/-- Whether a function has an ordinary name: a letter or `_`, and then characters of a name. -/
def isFunctionName (name : String) : Bool :=
  match name.toList with
  | c :: rest => isNameStart c && rest.all isNameChar
  | [] => false

end Formula

open Formula

/-- Made of variables, operations, negations and calls, all with ordinary names. -/
inductive Expression.IsFormula : Expression → Prop
  | reference {name : String} (span : Span) (hname : isVariableName name = true) :
    IsFormula (.reference name span)
  | operation (op : Operator) (span : Span) {lhs rhs : Expression} (hlhs : lhs.IsFormula)
    (hrhs : rhs.IsFormula) : IsFormula (.operation op lhs rhs span)
  | negate (span : Span) {operand : Expression} (hoperand : operand.IsFormula) :
    IsFormula (.negate operand span)
  | call {name : String} (span : Span) (hname : isFunctionName name = true)
    {args : List Expression} (hargs : ∀ arg ∈ args, arg.IsFormula) :
    IsFormula (.call name args span)

namespace Formula

/-! ## The reader -/

/-- An operator with a blank on both sides. -/
def operator? : List Char → Option (Operator × List Char)
  | ' ' :: '+' :: ' ' :: rest => some (.add, rest)
  | ' ' :: '-' :: ' ' :: rest => some (.subtract, rest)
  | ' ' :: '*' :: ' ' :: rest => some (.multiply, rest)
  | ' ' :: '/' :: ' ' :: rest => some (.divide, rest)
  | _ => none

/-- Reading an operator takes characters. -/
private theorem length_lt_of_operator? {s rest : List Char} {op : Operator}
    (h : operator? s = some (op, rest)) : rest.length < s.length := by
  unfold operator? at h
  split at h <;> cases h <;> simp only [List.length_cons] <;> omega

/-- What comes after a prefix and one more character is shorter. -/
private theorem length_lt_of_dropWhile {p : Char → Bool} {s rest : List Char} {c : Char}
    (h : s.dropWhile p = c :: rest) : rest.length < s.length := by
  have hle := (List.dropWhile_sublist p (l := s)).length_le
  rw [h, List.length_cons] at hle
  omega

/-- Goes on with what is left of `s`. A reader always leaves less than it was given; that this is
checked here makes it plain that reading ends. -/
def andThen {α β : Type} (s : List Char) (first : Option (α × List Char))
    (next : α → (rest : List Char) → rest.length < s.length → Option β) : Option β :=
  match first with
  | some (a, rest) => if h : rest.length < s.length then next a rest h else none
  | none => none

mutual

/-- Reads an operand: a negation, a formula in parentheses, a variable or a call. -/
def readOperand (s : List Char) : Option (Expression × List Char) :=
  match s with
  | [] => none
  | c :: rest =>
    if c = '-' then
      (readOperand rest).map fun (operand, rest) => (.negate operand default, rest)
    else if c = '(' then
      match readAt 1 rest with
      | some (inner, ')' :: rest) => some (inner, rest)
      | _ => none
    else if c = '@' then
      some (.reference (String.ofList (c :: rest.takeWhile isNameChar)) default,
        rest.dropWhile isNameChar)
    else if isNameStart c then
      match h : rest.dropWhile isNameChar with
      | '(' :: args =>
        have := length_lt_of_dropWhile h
        (readArgs args).map fun (args, after) =>
          (.call (String.ofList (c :: rest.takeWhile isNameChar)) args default, after)
      | _ => none
    else
      none
termination_by (s.length, 0)

/-- Reads an operand and all operators after it that bind at least as strongly as `level`. -/
def readAt (level : Nat) (s : List Char) : Option (Expression × List Char) :=
  andThen s (readOperand s) fun left rest _ => extend level left rest
termination_by (s.length, 1)

/-- Goes on after the operand `left`. What is to the right of an operator binds more strongly than
the operator. -/
def extend (level : Nat) (left : Expression) (s : List Char) : Option (Expression × List Char) :=
  match h : operator? s with
  | some (op, rest) =>
    have := length_lt_of_operator? h
    if level ≤ op.precedence then
      andThen s (readAt (op.precedence + 1) rest) fun right rest _ =>
        extend level (.operation op left right default) rest
    else
      some (left, s)
  | none => some (left, s)
termination_by (s.length, 0)

/-- Reads one or more arguments and the parenthesis after them. -/
def readSomeArgs (s : List Char) : Option (List Expression × List Char) :=
  andThen s (readAt 1 s) fun first rest h =>
    match rest with
    | ')' :: rest => some ([first], rest)
    | ',' :: ' ' :: rest =>
      have : rest.length < s.length := by
        simp only [List.length_cons] at h
        omega
      (readSomeArgs rest).map fun (others, rest) => (first :: others, rest)
    | _ => none
termination_by (s.length, 2)

/-- Reads any number of arguments and the parenthesis after them. -/
def readArgs (s : List Char) : Option (List Expression × List Char) :=
  if s.head? = some ')' then some ([], s.tail) else readSomeArgs s
termination_by (s.length, 3)

end

/-- Reads a text that is a formula as a whole. -/
def read (text : String) : Option Expression :=
  match readAt 1 text.toList with
  | some (expression, []) => some expression
  | _ => none

/-! ## What the reader does, step by step -/

/-- Reading goes on if something was taken. -/
private theorem andThen_some {α β : Type} {s rest : List Char} (h : rest.length < s.length) (a : α)
    (next : α → (rest : List Char) → rest.length < s.length → Option β) :
    andThen s (some (a, rest)) next = next a rest h := by
  simp only [andThen, h, ↓reduceDIte]

/-- An operand can be extended by operators from any level on. -/
private theorem readAt_of_readOperand {s rest : List Char} {left : Expression}
    (h : readOperand s = some (left, rest)) (hrest : rest.length < s.length) (level : Nat) :
    readAt level s = extend level left rest := by
  rw [readAt, h, andThen_some hrest]

/-- No operand is empty. -/
private theorem readOperand_nil : readOperand [] = none := by
  rw [readOperand]

/-- A minus sign in front of an operand negates it. -/
private theorem readOperand_negation {s rest : List Char} {operand : Expression}
    (h : readOperand s = some (operand, rest)) :
    readOperand ('-' :: s) = some (.negate operand default, rest) := by
  rw [readOperand, h]
  rfl

/-- An operand in brackets is an operand. -/
private theorem readOperand_group {s rest : List Char} {inner : Expression}
    (h : readAt 1 s = some (inner, ')' :: rest)) :
    readOperand ('(' :: s) = some (inner, rest) := by
  rw [readOperand, h]
  rfl

/-- An operand that starts with an at sign is a variable. -/
private theorem readOperand_variable (s : List Char) :
    readOperand ('@' :: s) =
      some (.reference (String.ofList ('@' :: s.takeWhile isNameChar)) default,
        s.dropWhile isNameChar) := by
  rw [readOperand]
  rfl

/-- An operator that binds strongly enough takes the operand before it and what is read after it. -/
private theorem extend_operator {s right rest : List Char} {op : Operator} {level : Nat}
    {operand : Expression} (hop : operator? s = some (op, right)) (hlevel : level ≤ op.precedence)
    (hread : readAt (op.precedence + 1) right = some (operand, rest))
    (hrest : rest.length < s.length) (left : Expression) :
    extend level left s = extend level (.operation op left operand default) rest := by
  rw [extend]
  split
  · next op' right' hop' =>
    rw [hop] at hop'
    cases hop'
    rw [if_pos hlevel, hread, andThen_some hrest]
  · next hnone =>
    rw [hop] at hnone
    exact nomatch hnone

/-- An operator that does not bind strongly enough is left. -/
private theorem extend_eq_some {s : List Char} {level : Nat}
    (h : ∀ op rest, operator? s = some (op, rest) → op.precedence < level) (left : Expression) :
    extend level left s = some (left, s) := by
  rw [extend]
  split
  · next op rest hop =>
    have hlt := h op rest hop
    rw [if_neg (by omega)]
  · rfl

/-- The last argument is followed by a bracket. -/
private theorem readSomeArgs_last {s rest : List Char} {first : Expression}
    (h : readAt 1 s = some (first, ')' :: rest)) (hrest : (')' :: rest).length < s.length) :
    readSomeArgs s = some ([first], rest) := by
  rw [readSomeArgs, h]
  exact andThen_some hrest _ _

/-- An argument that is not the last one is followed by a comma. -/
private theorem readSomeArgs_more {s more rest : List Char} {first : Expression}
    {others : List Expression} (h : readAt 1 s = some (first, ',' :: ' ' :: more))
    (hmore : (',' :: ' ' :: more).length < s.length)
    (hothers : readSomeArgs more = some (others, rest)) :
    readSomeArgs s = some (first :: others, rest) := by
  rw [readSomeArgs, h, andThen_some hmore]
  simp only [hothers, Option.map_some]

/-- There may be no arguments. -/
private theorem readArgs_nil (rest : List Char) : readArgs (')' :: rest) = some ([], rest) := by
  rw [readArgs]
  rfl

/-- Nothing that can be read starts with a closing parenthesis. -/
private theorem readArgs_of_readSomeArgs {s rest : List Char} {args : List Expression}
    (h : readSomeArgs s = some (args, rest)) : readArgs s = some (args, rest) := by
  rw [readArgs, if_neg, h]
  intro hclose
  obtain ⟨s, rfl⟩ : ∃ s', s = ')' :: s' := List.head?_eq_some_iff.1 hclose
  have hoperand : readOperand (')' :: s) = none := by
    rw [readOperand]
    rfl
  rw [readSomeArgs, readAt, hoperand] at h
  exact nomatch h

/-- What may stand after a name. -/
def Ends (rest : List Char) : Prop :=
  ∀ c ∈ rest.head?, isNameChar c = false

/-- A name ends where the text does. -/
private theorem ends_nil : Ends [] :=
  fun _ hc => nomatch hc

/-- A name ends before a character that no name has. -/
private theorem ends_cons {c : Char} (h : isNameChar c = false) (rest : List Char) :
    Ends (c :: rest) := by
  intro d hd
  cases hd
  exact h

/-- A name is read up to its end. -/
private theorem takeWhile_name {name rest : List Char} (hname : ∀ c ∈ name, isNameChar c = true)
    (hrest : Ends rest) : (name ++ rest).takeWhile isNameChar = name := by
  rw [List.takeWhile_append_of_pos hname]
  cases rest with
  | nil => simp
  | cons c rest => simp [hrest c rfl]

/-- What comes after a name is left. -/
private theorem dropWhile_name {name rest : List Char} (hname : ∀ c ∈ name, isNameChar c = true)
    (hrest : Ends rest) : (name ++ rest).dropWhile isNameChar = rest := by
  rw [List.dropWhile_append_of_pos hname]
  cases rest with
  | nil => rfl
  | cons c rest => simp [hrest c rfl]

/-- A call starts with a character that no other operand starts with. -/
private theorem readOperand_call {c : Char} {name s rest : List Char} {args : List Expression}
    (hstart : isNameStart c = true) (hname : ∀ c ∈ name, isNameChar c = true)
    (hargs : readArgs s = some (args, rest)) :
    readOperand (c :: (name ++ '(' :: s)) =
      some (.call (String.ofList (c :: name)) args default, rest) := by
  -- a name starts with none of the signs that start another operand
  have hminus : c ≠ '-' := by rintro rfl; exact absurd hstart (by decide)
  have hopen : c ≠ '(' := by rintro rfl; exact absurd hstart (by decide)
  have hat : c ≠ '@' := by rintro rfl; exact absurd hstart (by decide)
  have hends : Ends ('(' :: s) := ends_cons rfl s
  have hdrop := dropWhile_name hname hends
  rw [readOperand, if_neg hminus, if_neg hopen, if_neg hat, if_pos hstart,
    takeWhile_name hname hends]
  -- after the name comes the bracket that makes it a call
  split
  · next s' heq =>
    rw [hdrop] at heq
    cases heq
    rw [hargs]
    rfl
  · next hne => exact (hne s hdrop).elim

/-! ## Reading the text of a formula -/

/-- What may stand after an expression of the given precedence: no character that would belong to a
name, and no operator that would take away the last operand. -/
structure Follows (precedence : Nat) (rest : List Char) : Prop where
  ends : Ends rest
  precedence_le : ∀ op after, operator? rest = some (op, after) → op.precedence ≤ precedence

/-- An operator is read with the spaces around it. -/
private theorem operator?_symbol (op : Operator) (rest : List Char) :
    operator? (' ' :: (op.symbol.toList ++ ' ' :: rest)) = some (op, rest) := by
  cases op <;> rfl

/-- An operator may follow an operand that binds at least as strongly. -/
private theorem follows_symbol {op : Operator} {precedence : Nat} (h : op.precedence ≤ precedence)
    (rest : List Char) : Follows precedence (' ' :: (op.symbol.toList ++ ' ' :: rest)) where
  ends := ends_cons rfl _
  precedence_le op' after hop := by
    rw [operator?_symbol] at hop
    cases hop
    exact h

/-- Every expression has a precedence. -/
private theorem one_le_precedence (expression : Expression) : 1 ≤ expression.precedence := by
  cases expression with
  | operation op => cases op <;> simp [Expression.precedence, Operator.precedence]
  | _ => simp [Expression.precedence]

/-- Brackets stand around a text. -/
private theorem toList_parenthesized (text : String) (rest : List Char) :
    (Expression.parenthesized true text).toList ++ rest = '(' :: (text.toList ++ ')' :: rest) := by
  simp [Expression.parenthesized]

/-- The text of the expression is read as the expression. -/
structure Readable (expression : Expression) : Prop where
  /-- An expression that is not an operation is read as an operand. -/
  readOperand_append : 3 ≤ expression.precedence → ∀ rest, Ends rest →
    readOperand (expression.text.toList ++ rest) = some (expression.unplaced, rest)
  /-- Any expression becomes the left operand of what follows. -/
  readAt_append : ∀ level rest, level ≤ expression.precedence →
    Follows expression.precedence rest →
    readAt level (expression.text.toList ++ rest) = extend level expression.unplaced rest

namespace Readable

variable {expression : Expression}

/-- An operand is readable at every level. -/
private theorem of_operand (h : ∀ rest, Ends rest →
    readOperand (expression.text.toList ++ rest) = some (expression.unplaced, rest)) :
    Readable expression where
  readOperand_append _ := h
  readAt_append level rest _ hfollows := by
    have hpos : 0 < expression.text.toList.length := by
      rw [List.length_pos_iff]
      intro hempty
      have hread := h [] ends_nil
      rw [hempty, List.append_nil, readOperand_nil] at hread
      exact nomatch hread
    refine readAt_of_readOperand (h rest hfollows.ends) ?_ level
    rw [List.length_append]
    omega

/-- Where no operator follows, the expression is all that is read. -/
private theorem readAt_eq_some (h : Readable expression) {rest : List Char} (hends : Ends rest)
    (hnone : operator? rest = none) :
    readAt 1 (expression.text.toList ++ rest) = some (expression.unplaced, rest) := by
  have hnot : ∀ op after, operator? rest ≠ some (op, after) := by simp [hnone]
  rw [h.readAt_append 1 rest (one_le_precedence expression)
    ⟨hends, fun op after hop => (hnot op after hop).elim⟩]
  exact extend_eq_some (fun op after hop => (hnot op after hop).elim) _

/-- A readable formula has a text. -/
private theorem length_pos (h : Readable expression) : 0 < expression.text.toList.length := by
  rw [List.length_pos_iff]
  intro hempty
  have hread := h.readAt_eq_some ends_nil rfl
  rw [hempty, List.append_nil, readAt, readOperand_nil] at hread
  exact nomatch hread

/-- A readable formula can be read in brackets. -/
private theorem readOperand_group (h : Readable expression) (rest : List Char) :
    readOperand ('(' :: (expression.text.toList ++ ')' :: rest)) =
      some (expression.unplaced, rest) :=
  Formula.readOperand_group (h.readAt_eq_some (ends_cons rfl rest) rfl)

/-- An expression in parentheses can be followed by any operator. -/
private theorem readAt_parenthesized (h : Readable expression) {needed : Bool} {level : Nat}
    {rest : List Char}
    (hbare : needed = false → level ≤ expression.precedence ∧ Follows expression.precedence rest) :
    readAt level ((Expression.parenthesized needed expression.text).toList ++ rest) =
      extend level expression.unplaced rest := by
  cases needed with
  | false =>
    obtain ⟨hlevel, hfollows⟩ := hbare rfl
    exact h.readAt_append level rest hlevel hfollows
  | true =>
    rw [toList_parenthesized]
    refine readAt_of_readOperand (h.readOperand_group rest) ?_ level
    simp only [List.length_cons, List.length_append]
    omega

/-- A readable formula can be read as an operand once it has brackets where it needs them. -/
private theorem readOperand_parenthesized (h : Readable expression) {rest : List Char}
    (hends : Ends rest) :
    readOperand ((Expression.parenthesized (expression.precedence < 3) expression.text).toList ++
      rest) = some (expression.unplaced, rest) := by
  by_cases hlt : expression.precedence < 3
  · rw [decide_eq_true hlt, toList_parenthesized]
    exact h.readOperand_group rest
  · rw [decide_eq_false hlt]
    exact h.readOperand_append (by omega) rest hends

/-- The operator is one that may follow its left operand, and the right operand ends before anything
that may follow the operation. -/
theorem operation (op : Operator) (span : Span) {lhs rhs : Expression} (hlhs : Readable lhs)
    (hrhs : Readable rhs) : Readable (.operation op lhs rhs span) where
  readOperand_append hprecedence := by
    cases op <;> exact absurd hprecedence (by simp [Expression.precedence, Operator.precedence])
  readAt_append level rest hlevel hfollows := by
    change level ≤ op.precedence at hlevel
    change Follows op.precedence rest at hfollows
    -- once the left operand is read the text goes on with `after`, and with `right` after the
    -- operator
    let right := (Expression.parenthesized (rhs.precedence ≤ op.precedence) rhs.text).toList ++ rest
    let after := ' ' :: (op.symbol.toList ++ ' ' :: right)
    have htext : (Expression.operation op lhs rhs span).text.toList ++ rest =
        (Expression.parenthesized (lhs.precedence < op.precedence) lhs.text).toList ++ after := by
      simp [Expression.text, after, right]
    have hleft : readAt level ((Expression.parenthesized (lhs.precedence < op.precedence)
        lhs.text).toList ++ after) = extend level lhs.unplaced after := by
      refine hlhs.readAt_parenthesized fun hbare => ?_
      -- on the left equal precedence is enough, on the right it is not
      have hle : op.precedence ≤ lhs.precedence := by simpa using hbare
      exact ⟨hlevel.trans hle, follows_symbol hle right⟩
    have hright : readAt (op.precedence + 1) right = some (rhs.unplaced, rest) := by
      have hextend : readAt (op.precedence + 1) right =
          extend (op.precedence + 1) rhs.unplaced rest := by
        refine hrhs.readAt_parenthesized fun hbare => ?_
        have hlt : op.precedence < rhs.precedence := by simpa using hbare
        refine ⟨hlt, hfollows.ends, fun other rest' hother => ?_⟩
        exact (hfollows.precedence_le other rest' hother).trans hlt.le
      rw [hextend]
      -- operators of equal precedence are left to the next step, so they group to the left
      refine extend_eq_some (fun other rest' hother => ?_) _
      have hle := hfollows.precedence_le other rest' hother
      omega
    have hlength : rest.length < after.length := by
      simp only [after, right, List.length_cons, List.length_append]
      omega
    rw [htext, hleft]
    exact extend_operator (operator?_symbol op right) hlevel hright hlength lhs.unplaced

/-- The negation of a readable formula is readable. -/
theorem negate (span : Span) {operand : Expression} (h : Readable operand) :
    Readable (.negate operand span) := by
  refine .of_operand fun rest hends => ?_
  have htext : (Expression.negate operand span).text.toList ++ rest = '-' ::
      ((Expression.parenthesized (operand.precedence < 3) operand.text).toList ++ rest) := by
    simp [Expression.text]
  rw [htext]
  exact readOperand_negation (h.readOperand_parenthesized hends)

/-- A variable is readable. -/
theorem reference {name : String} (span : Span) (hname : isVariableName name = true) :
    Readable (.reference name span) := by
  refine .of_operand fun rest hends => ?_
  unfold isVariableName at hname
  split at hname
  · next c chars hchars =>
    have hall : ∀ c' ∈ c :: chars, isNameChar c' = true := List.all_eq_true.1 hname
    have htext : (Expression.reference name span).text.toList = '@' :: c :: chars := hchars
    rw [htext, List.cons_append, readOperand_variable, takeWhile_name hall hends,
      dropWhile_name hall hends, ← hchars, String.ofList_toList]
    rfl
  · exact nomatch hname

/-- Arguments that are readable are read one after the other. -/
private theorem readSomeArgs_append {args : List Expression} (hne : args ≠ [])
    (h : ∀ arg ∈ args, Readable arg) (rest : List Char) :
    readSomeArgs ((", ".intercalate (Expression.texts args)).toList ++ ')' :: rest) =
      some (Expression.unplacedAll args, rest) := by
  -- the arguments are read one after the other, each up to its comma or to the closing bracket
  induction args with
  | nil => exact absurd rfl hne
  | cons arg more ih =>
    obtain ⟨harg, hmore⟩ := List.forall_mem_cons.1 h
    have hpos := harg.length_pos
    cases more with
    | nil =>
      have hends : Ends (')' :: rest) := ends_cons rfl rest
      rw [Expression.texts, Expression.texts, String.intercalate_singleton]
      refine readSomeArgs_last (harg.readAt_eq_some hends rfl) ?_
      rw [List.length_append]
      omega
    | cons next others =>
      -- what comes after the first argument and its comma
      let after :=
        (", ".intercalate (Expression.texts (next :: others))).toList ++ ')' :: rest
      have htext : (", ".intercalate (Expression.texts (arg :: next :: others))).toList ++
          ')' :: rest = arg.text.toList ++ ',' :: ' ' :: after := by
        simp [Expression.texts, String.intercalate_cons_cons, after]
      have hends : Ends (',' :: ' ' :: after) := ends_cons rfl _
      rw [htext]
      refine readSomeArgs_more (harg.readAt_eq_some hends rfl) ?_ (ih (List.cons_ne_nil _ _) hmore)
      rw [List.length_append]
      omega

/-- A call with readable arguments is readable. -/
theorem call {name : String} (span : Span) (hname : isFunctionName name = true)
    {args : List Expression} (hargs : ∀ arg ∈ args, Readable arg) :
    Readable (.call name args span) := by
  refine .of_operand fun rest _ => ?_
  -- the arguments up to the closing bracket
  have hread : readArgs ((", ".intercalate (Expression.texts args)).toList ++ ')' :: rest) =
      some (Expression.unplacedAll args, rest) := by
    cases args with
    | nil => exact readArgs_nil rest
    | cons arg more =>
      exact readArgs_of_readSomeArgs (readSomeArgs_append (List.cons_ne_nil arg more) hargs rest)
  -- a name is its first letter and further name characters
  unfold isFunctionName at hname
  split at hname
  · next c chars hchars =>
    obtain ⟨hstart, hall⟩ := Bool.and_eq_true_iff.1 hname
    have htext : (Expression.call name args span).text.toList ++ rest = c :: (chars ++ '(' ::
        ((", ".intercalate (Expression.texts args)).toList ++ ')' :: rest)) := by
      simp [Expression.text, hchars]
    rw [htext, readOperand_call hstart (List.all_eq_true.1 hall) hread, ← hchars,
      String.ofList_toList]
    rfl
  · exact nomatch hname

end Readable

/-- Every formula is readable. -/
private theorem readable_of_isFormula {expression : Expression} (h : expression.IsFormula) :
    Readable expression := by
  induction h with
  | reference span hname => exact .reference span hname
  | operation op span _ _ hlhs hrhs => exact .operation op span hlhs hrhs
  | negate span _ hoperand => exact .negate span hoperand
  | call span hname _ hargs => exact .call span hname hargs

/-- The reader gives back a formula, but for its spans. -/
private theorem read_text {expression : Expression} (h : expression.IsFormula) :
    read expression.text = some expression.unplaced := by
  have hread := (readable_of_isFormula h).readAt_eq_some ends_nil rfl
  rw [List.append_nil] at hread
  rw [read, hread]

end Formula

/-- Formulas have the same text only if they are the same without their spans, and a reader that
knows nothing but the precedences of the operators and groups to the left gets a formula back from
its text. -/
theorem formula_text_determines_formula {expression other : Expression}
    (h : expression.IsFormula) (hother : other.IsFormula) :
    (expression.text = other.text ↔ expression.unplaced = other.unplaced) ∧
      Formula.read expression.text = some expression.unplaced := by
  refine ⟨⟨fun htext => ?_, fun hunplaced => ?_⟩, Formula.read_text h⟩
  · have hread : some expression.unplaced = some other.unplaced := by
      rw [← Formula.read_text h, ← Formula.read_text hother, htext]
    exact Option.some.inj hread
  · rw [← expression.text_unplaced, ← other.text_unplaced, hunplaced]

namespace Formula

/-- A span in some file. -/
def spanIn (file : UInt64) : Span :=
  { file := ⟨file⟩, range := default }

/-- A difference with a product on its right, where parentheses stand only around the differences
inside of it. -/
def difference (file : UInt64) : Expression :=
  .operation .subtract (.reference "@a" (spanIn file))
    (.operation .multiply
      (.negate (.operation .subtract (.reference "@b-c" (spanIn file))
        (.call "f_1" [.reference "@x" (spanIn file), .call "g" [] (spanIn file)] (spanIn file))
        (spanIn file)) (spanIn file))
      (.operation .subtract (.reference "@b" (spanIn file)) (.reference "@c" (spanIn file))
        (spanIn file)) (spanIn file)) (spanIn file)

/-- The difference is a formula in any file. -/
private theorem isFormula_difference (file : UInt64) : (difference file).IsFormula := by
  have hvariable : ∀ name, isVariableName name = true →
      Expression.IsFormula (.reference name (spanIn file)) := fun _ => .reference _
  refine .operation _ _ (hvariable "@a" rfl) (.operation _ _ (.negate _ ?_) ?_)
  · refine .operation _ _ (hvariable "@b-c" rfl) (.call _ rfl ?_)
    exact List.forall_mem_cons.2 ⟨hvariable "@x" rfl,
      List.forall_mem_singleton.2 (.call _ rfl (List.forall_mem_nil _))⟩
  · exact .operation _ _ (hvariable "@b" rfl) (hvariable "@c" rfl)

end Formula

/-- Two differences in different files have the same text and are the same but for their spans. -/
theorem formula_text_determines_formula_difference :
    (Formula.difference 1).IsFormula ∧ (Formula.difference 2).IsFormula ∧
    (Formula.difference 1).text = "@a - -(@b-c - f_1(@x, g())) * (@b - @c)" ∧
    ((Formula.difference 1).text = (Formula.difference 2).text ↔
      (Formula.difference 1).unplaced = (Formula.difference 2).unplaced) ∧
    Formula.read (Formula.difference 1).text = some (Formula.difference 1).unplaced := by
  have h := Formula.isFormula_difference 1
  have h' := Formula.isFormula_difference 2
  exact ⟨h, h', rfl, formula_text_determines_formula h h'⟩

end MixinSheet
