import MixinSheet.Proofs.Reading

/-!
# Round trips of stylesheets

Values, expressions and nodes hold doubles at any depth, and they are read by recursion on the
height of what is read. Both show in the same way: a tree is read back if all of its doubles are
finite, from any height that is great enough.

## Key results

- `Value.isFinite`, `Expression.isFinite`, `Node.isFinite`: all doubles in a tree are finite
- `Value.read_congr`, `Expression.read_congr`, `Node.read_congr`: the height makes no difference
- `Value.read_toJson`, `Expression.read_toJson`, `Node.read_toJson`: what is read back
- `Value.isFinite_of_read`, `Expression.isFinite_of_read`, `Node.isFinite_of_read`: no reader makes
  a double that is not finite
- `json_round_trips`: every type of the exchange format is read back
-/

namespace MixinSheet

/-! ## Finite doubles -/

/-- All components of the colour are finite. -/
def Color.isFinite (color : Color) : Bool :=
  Number.isFinite color.red && Number.isFinite color.green && Number.isFinite color.blue &&
    Number.isFinite color.alpha

namespace Value

mutual

/-- All doubles in the value are finite. -/
def isFinite : Value → Bool
  | .number n => Number.isFinite n
  | .dimension n _ => Number.isFinite n
  | .color c => c.isFinite
  | .quoted .. | .keyword _ => true
  | .list _ items => areFinite items

/-- All doubles in some values are finite. -/
def areFinite : List Value → Bool
  | [] => true
  | value :: rest => value.isFinite && areFinite rest

end

end Value

namespace Expression

mutual

/-- All doubles in the expression are finite. -/
def isFinite : Expression → Bool
  | .literal value _ => value.isFinite
  | .reference .. => true
  | .operation _ lhs rhs _ => lhs.isFinite && rhs.isFinite
  | .negate operand _ => operand.isFinite
  | .list _ items _ => areFinite items
  | .call _ args _ => areFinite args

/-- All doubles in some expressions are finite. -/
def areFinite : List Expression → Bool
  | [] => true
  | expression :: rest => expression.isFinite && areFinite rest

end

end Expression

/-- All doubles in the parameter are finite. -/
def Parameter.isFinite (param : Parameter) : Bool :=
  param.default.all Expression.isFinite && param.guard.all Expression.isFinite

namespace Node

mutual

/-- All doubles in the node are finite. -/
def isFinite : Node → Bool
  | .ruleset _ body _ => areFinite body
  | .mixin _ params body _ => params.all Parameter.isFinite && areFinite body
  | .call c => Expression.areFinite c.args
  | .declaration d => d.value.isFinite
  | .assignment a => a.value.isFinite

/-- All doubles in a block are finite. -/
def areFinite : List Node → Bool
  | [] => true
  | node :: rest => node.isFinite && areFinite rest

end

end Node

/-- All doubles in the stylesheet are finite. -/
def Stylesheet.isFinite (sheet : Stylesheet) : Bool :=
  Node.areFinite sheet.nodes

/-! ## Values -/

/-- A colour is read back just when its channels are finite. -/
theorem Color.ofJson?_toJson (color : Color) :
    ofJson? color.toJson = if color.isFinite then some color else none := by
  simp [ofJson?, toJson, Json.required, List.lookup_cons, Json.bind_ite_some, isFinite, ite_and]

/-- A colour that is read has finite channels. -/
private theorem Color.isFinite_of_ofJson? {json : Json} {color : Color}
    (h : ofJson? json = some color) : color.isFinite = true := by
  simp only [ofJson?, Option.bind_eq_bind, Option.bind_eq_some_iff, Option.pure_def,
    Option.some.injEq] at h
  obtain ⟨fields, -, red, hred, green, hgreen, blue, hblue, alpha, halpha, rfl⟩ := h
  have hfinite : ∀ {key : String} {x : Float}, Json.required fields key Json.float? = some x →
      Number.isFinite x = true :=
    Json.of_required fun _ _ => Json.isFinite_of_float?
  simp [isFinite, hfinite hred, hfinite hgreen, hfinite hblue, hfinite halpha]

namespace Value

private theorem toJsonAll_eq_map (values : List Value) : toJsonAll values = values.map toJson := by
  induction values with
  | nil => rfl
  | cons value rest ih => rw [toJsonAll, ih, List.map_cons]

private theorem areFinite_eq_all (values : List Value) :
    areFinite values = values.all isFinite := by
  induction values with
  | nil => rfl
  | cons value rest ih => rw [areFinite, ih, List.all_cons]

/-- The height from which a value is read makes no difference if it is great enough. -/
theorem read_congr {height height' : Nat} {json : Json} (h : json.height ≤ height)
    (h' : json.height ≤ height') : read height json = read height' json := by
  induction height generalizing height' json with
  | zero => exact absurd h (Nat.not_le.2 json.height_pos)
  | succ height ih =>
    obtain ⟨height', rfl⟩ := Json.exists_eq_succ_of_height_le h'
    rw [read, read]
    split
    case h_6 content hcontent =>
      have hlower := Json.height_lt_of_variant? hcontent
      -- only the items of a list are values again
      have hitems : ∀ part, part.height < content.height →
          Json.list? (read height) part = Json.list? (read height') part := fun part hpart =>
        Json.list?_congr fun item hitem => ih (by omega) (by omega)
      refine Option.bind_congr fun fields hfields => Option.bind_congr fun separator _ => ?_
      rw [Json.required_congr hfields hitems]
    all_goals rfl

/-- A value is read back if it is finite, from any height that is great enough. -/
theorem read_toJson (value : Value) {height : Nat} (h : value.toJson.height ≤ height) :
    read height value.toJson = if value.isFinite then some value else none := by
  -- the induction follows the reader, which goes down by one level of JSON at a time
  induction height generalizing value with
  | zero => exact absurd h (Nat.not_le.2 value.toJson.height_pos)
  | succ height ih =>
    cases value with
    | number n =>
      rw [toJson, isFinite]
      simp [read, Json.tagged, Json.variant?, Json.bind_ite_some]
    | dimension n unit =>
      rw [toJson, isFinite]
      simp [read, Json.tagged, Json.variant?, Json.required, List.lookup_cons, Json.bind_ite_some]
    | color c =>
      rw [toJson, isFinite]
      simp [read, Json.tagged, Json.variant?, Color.ofJson?_toJson, Json.bind_ite_some]
    | quoted text quote =>
      rw [toJson, isFinite]
      simp [read, Json.tagged, Json.variant?, Json.required, List.lookup_cons]
    | keyword text =>
      rw [toJson, isFinite]
      simp [read, Json.tagged, Json.variant?]
    | list separator items =>
      simp only [toJson, toJsonAll_eq_map, Json.tagged, Json.height, Json.heightFields,
        Json.heightField] at h
      have hitems := Json.list?_map_of_height ih items (by omega)
      rw [toJson, toJsonAll_eq_map, isFinite, areFinite_eq_all]
      simp [read, Json.tagged, Json.variant?, Json.required, List.lookup_cons, hitems,
        Json.bind_ite_some]

/-- A value is read back just when every number in it is finite. -/
theorem ofJson?_toJson (value : Value) :
    ofJson? value.toJson = if value.isFinite then some value else none :=
  read_toJson value (Nat.le_refl _)

/-- Only finite values are read. -/
theorem isFinite_of_read {height : Nat} {json : Json} {value : Value}
    (h : read height json = some value) : value.isFinite = true := by
  -- one level of the height for each level of the value
  induction height generalizing json value with
  | zero => cases h
  | succ height ih =>
    rw [read] at h
    split at h <;> simp only [Option.bind_eq_bind, Option.bind_eq_some_iff, Option.pure_def,
      Option.some.injEq, reduceCtorEq] at h
    · -- numbers, dimensions and colours hold the numbers that are checked on reading
      obtain ⟨n, hn, rfl⟩ := h
      exact Json.isFinite_of_float? hn
    · obtain ⟨fields, -, n, hn, unit, -, rfl⟩ := h
      exact Json.of_required (fun _ _ => Json.isFinite_of_float?) hn
    · obtain ⟨c, hc, rfl⟩ := h
      exact Color.isFinite_of_ofJson? hc
    · obtain ⟨fields, -, text, -, quote, -, rfl⟩ := h
      rfl
    · obtain ⟨text, -, rfl⟩ := h
      rfl
    · -- the items of a list are read one level lower
      obtain ⟨fields, -, separator, -, items, hitems, rfl⟩ := h
      rw [isFinite, areFinite_eq_all, List.all_eq_true]
      exact Json.of_required (fun _ _ => Json.of_list? fun _ _ => ih) hitems

end Value

/-! ## Expressions -/

namespace Expression

private theorem areFinite_eq_all (expressions : List Expression) :
    areFinite expressions = expressions.all isFinite := by
  induction expressions with
  | nil => rfl
  | cons expression rest ih => rw [areFinite, ih, List.all_cons]

private theorem toJsonAll_eq_map (expressions : List Expression) :
    toJsonAll expressions = expressions.map toJson := by
  induction expressions with
  | nil => rfl
  | cons expression rest ih => rw [toJsonAll, ih, List.map_cons]

/-- The height from which an expression is read makes no difference if it is great enough. -/
theorem read_congr {height height' : Nat} {json : Json} (h : json.height ≤ height)
    (h' : json.height ≤ height') : read height json = read height' json := by
  induction height generalizing height' json with
  | zero => exact absurd h (Nat.not_le.2 json.height_pos)
  | succ height ih =>
    obtain ⟨height', rfl⟩ := Json.exists_eq_succ_of_height_le h'
    rw [read, read]
    refine Option.bind_congr fun fields hfields => Option.bind_congr fun span _ =>
      Option.bind_congr fun kind hkind => ?_
    -- whatever stands under the kind is at least two levels lower
    have hlower : ∀ {tag content}, kind = (tag, some content) →
        content.height < json.height := by
      rintro tag content rfl
      obtain ⟨part, hpart, hcontent⟩ := Option.bind_eq_some_iff.1 hkind
      have hpart := Json.height_lt_of_mem_record? hfields (List.mem_of_lookup_eq_some hpart)
      exact Nat.lt_trans (Json.height_lt_of_variant? hcontent) hpart
    have hagree : ∀ part, part.height < json.height → read height part = read height' part :=
      fun part hpart => ih (by omega) (by omega)
    have hagreeAll : ∀ part, part.height < json.height →
        Json.list? (read height) part = Json.list? (read height') part := fun part hpart =>
      Json.list?_congr fun item hitem => hagree item (by omega)
    -- the kinds with operands inside: operations, negations, lists and calls
    split
    case h_3 content =>
      have hcontent := hlower rfl
      refine Option.bind_congr fun fields hfields => Option.bind_congr fun op _ => ?_
      have hpart : ∀ key, Json.required fields key (read height) =
          Json.required fields key (read height') :=
        Json.required_congr hfields fun part hpart => hagree part (by omega)
      rw [hpart, hpart]
    case h_4 content => rw [hagree content (hlower rfl)]
    case h_5 content =>
      have hcontent := hlower rfl
      refine Option.bind_congr fun fields hfields => Option.bind_congr fun separator _ => ?_
      rw [Json.required_congr hfields fun part hpart => hagreeAll part (by omega)]
    case h_6 content =>
      have hcontent := hlower rfl
      refine Option.bind_congr fun fields hfields => Option.bind_congr fun name _ => ?_
      rw [Json.required_congr hfields fun part hpart => hagreeAll part (by omega)]
    all_goals rfl

/-- An expression is read back if it is finite, from any height that is great enough. -/
theorem read_toJson (expression : Expression) {height : Nat}
    (h : expression.toJson.height ≤ height) :
    read height expression.toJson = if expression.isFinite then some expression else none := by
  induction height generalizing expression with
  | zero => exact absurd h (Nat.not_le.2 expression.toJson.height_pos)
  | succ height ih =>
    -- the parts are lower than the expression, so the height that is left suffices for them
    cases expression with
    | literal value span =>
      rw [toJson, isFinite]
      simp [read, formed, Json.tagged, Json.variant?, Json.required, List.lookup_cons,
        Value.ofJson?_toJson, Json.bind_ite_some]
    | reference name span =>
      rw [toJson, isFinite]
      simp [read, formed, Json.tagged, Json.variant?, Json.required, List.lookup_cons]
    | operation op lhs rhs span =>
      simp only [toJson, formed, Json.tagged, Json.height, Json.heightFields, Json.heightField] at h
      have hlhs := ih lhs (by omega)
      have hrhs := ih rhs (by omega)
      rw [toJson, isFinite]
      simp [read, formed, Json.tagged, Json.variant?, Json.required, List.lookup_cons, hlhs, hrhs,
        Json.bind_ite_some, ite_and]
    | negate operand span =>
      simp only [toJson, formed, Json.tagged, Json.height, Json.heightFields, Json.heightField] at h
      have hoperand := ih operand (by omega)
      rw [toJson, isFinite]
      simp [read, formed, Json.tagged, Json.variant?, Json.required, List.lookup_cons, hoperand,
        Json.bind_ite_some]
    | list separator items span =>
      simp only [toJson, toJsonAll_eq_map, formed, Json.tagged, Json.height, Json.heightFields,
        Json.heightField] at h
      have hitems := Json.list?_map_of_height ih items (by omega)
      rw [toJson, toJsonAll_eq_map, isFinite, areFinite_eq_all]
      simp [read, formed, Json.tagged, Json.variant?, Json.required, List.lookup_cons, hitems,
        Json.bind_ite_some]
    | call name args span =>
      simp only [toJson, toJsonAll_eq_map, formed, Json.tagged, Json.height, Json.heightFields,
        Json.heightField] at h
      have hargs := Json.list?_map_of_height ih args (by omega)
      rw [toJson, toJsonAll_eq_map, isFinite, areFinite_eq_all]
      simp [read, formed, Json.tagged, Json.variant?, Json.required, List.lookup_cons, hargs,
        Json.bind_ite_some]

/-- An expression is read back just when every number in it is finite. -/
theorem ofJson?_toJson (expression : Expression) :
    ofJson? expression.toJson = if expression.isFinite then some expression else none :=
  read_toJson expression (Nat.le_refl _)

/-- Only finite expressions are read. -/
theorem isFinite_of_read {height : Nat} {json : Json} {expression : Expression}
    (h : read height json = some expression) : expression.isFinite = true := by
  induction height generalizing json expression with
  | zero => cases h
  | succ height ih =>
    -- the kind of the expression says what else is read
    simp only [read, Option.bind_eq_bind, Option.bind_eq_some_iff] at h
    obtain ⟨fields, -, span, -, kind, -, h⟩ := h
    split at h <;> simp only [Option.bind_eq_some_iff, Option.pure_def, Option.some.injEq,
      reduceCtorEq] at h
    · obtain ⟨value, hvalue, rfl⟩ := h
      exact Value.isFinite_of_read hvalue
    · obtain ⟨name, -, rfl⟩ := h
      rfl
    · -- operands, items and arguments were read one level lower
      obtain ⟨fields, -, op, -, lhs, hlhs, rhs, hrhs, rfl⟩ := h
      rw [isFinite, Json.of_required (fun _ _ => ih) hlhs, Json.of_required (fun _ _ => ih) hrhs]
      rfl
    · obtain ⟨operand, hoperand, rfl⟩ := h
      rw [isFinite]
      exact ih hoperand
    · obtain ⟨fields, -, separator, -, items, hitems, rfl⟩ := h
      rw [isFinite, areFinite_eq_all, List.all_eq_true]
      exact Json.of_required (fun _ _ => Json.of_list? fun _ _ => ih) hitems
    · obtain ⟨fields, -, name, -, args, hargs, rfl⟩ := h
      rw [isFinite, areFinite_eq_all, List.all_eq_true]
      exact Json.of_required (fun _ _ => Json.of_list? fun _ _ => ih) hargs

end Expression

/-! ## Statements -/

/-- No expression is written as null, so an optional one is told from one left out. -/
private theorem Expression.toJson_ne_null (expression : Expression) :
    expression.toJson ≠ .null := by
  cases expression <;> rw [toJson] <;> exact Json.noConfusion

/-- A parameter is read back just when its pattern and its default are finite. -/
theorem Parameter.ofJson?_toJson (param : Parameter) :
    ofJson? param.toJson = if param.isFinite then some param else none := by
  obtain ⟨name, default, guard⟩ := param
  have hname : Json.nullable Json.string? (.ofOption .string name) = some name := by
    cases name <;> rfl
  have hvalue := Json.nullable_ofOption Expression.toJson_ne_null Expression.ofJson?_toJson
  rw [isFinite]
  simp [ofJson?, toJson, Json.optional_eq, List.lookup_cons, hname, hvalue, Json.bind_ite_some,
    ite_and]

/-- A parameter that is read has a finite pattern and a finite default. -/
private theorem Parameter.isFinite_of_ofJson? {json : Json} {param : Parameter}
    (h : ofJson? json = some param) : param.isFinite = true := by
  simp only [ofJson?, Option.bind_eq_bind, Option.bind_eq_some_iff, Option.pure_def,
    Option.some.injEq] at h
  obtain ⟨fields, -, name, -, default, hdefault, guard, hguard, rfl⟩ := h
  have hread : ∀ json e, Expression.ofJson? json = some e → e.isFinite = true :=
    fun _ _ => Expression.isFinite_of_read
  rw [isFinite, Bool.and_eq_true, Option.all_eq_true, Option.all_eq_true]
  exact ⟨Json.of_optional hread hdefault, Json.of_optional hread hguard⟩

/-- A call is read back just when its arguments are finite. -/
theorem Call.ofJson?_toJson (call : Call) :
    ofJson? call.toJson = if Expression.areFinite call.args then some call else none := by
  rw [Expression.areFinite_eq_all]
  simp [ofJson?, toJson, Json.required, List.lookup_cons, Json.list?_map Element.ofJson?_toJson,
    Expression.toJsonAll_eq_map, Json.list?_map_finite Expression.ofJson?_toJson,
    Json.bind_ite_some]

/-- A declaration is read back just when its value is finite. -/
theorem Declaration.ofJson?_toJson (declaration : Declaration) :
    ofJson? declaration.toJson =
      if declaration.value.isFinite then some declaration else none := by
  simp [ofJson?, toJson, Json.required, List.lookup_cons, Expression.ofJson?_toJson,
    Json.bind_ite_some]

/-- An assignment is read back just when its value is finite. -/
theorem Assignment.ofJson?_toJson (assignment : Assignment) :
    ofJson? assignment.toJson =
      if assignment.value.isFinite then some assignment else none := by
  simp [ofJson?, toJson, Json.required, List.lookup_cons, Expression.ofJson?_toJson,
    Json.bind_ite_some]

namespace Node

private theorem areFinite_eq_all (nodes : List Node) : areFinite nodes = nodes.all isFinite := by
  induction nodes with
  | nil => rfl
  | cons node rest ih => rw [areFinite, ih, List.all_cons]

private theorem toJsonAll_eq_map (nodes : List Node) : toJsonAll nodes = nodes.map toJson := by
  induction nodes with
  | nil => rfl
  | cons node rest ih => rw [toJsonAll, ih, List.map_cons]

/-- The height from which a node is read makes no difference if it is great enough. -/
theorem read_congr {height height' : Nat} {json : Json} (h : json.height ≤ height)
    (h' : json.height ≤ height') : read height json = read height' json := by
  induction height generalizing height' json with
  | zero => exact absurd h (Nat.not_le.2 json.height_pos)
  | succ height ih =>
    obtain ⟨height', rfl⟩ := Json.exists_eq_succ_of_height_le h'
    have hagree : ∀ part, part.height < json.height →
        Json.list? (read height) part = Json.list? (read height') part := fun part hpart =>
      Json.list?_congr fun item hitem => ih (by omega) (by omega)
    rw [read, read]
    -- only the bodies of rulesets and mixins are nodes again
    split
    case h_1 content hcontent =>
      have hlower := Json.height_lt_of_variant? hcontent
      refine Option.bind_congr fun fields hfields => Option.bind_congr fun selectors _ => ?_
      rw [Json.required_congr hfields fun part hpart => hagree part (by omega)]
    case h_2 content hcontent =>
      have hlower := Json.height_lt_of_variant? hcontent
      refine Option.bind_congr fun fields hfields => Option.bind_congr fun name _ =>
        Option.bind_congr fun params _ => ?_
      rw [Json.required_congr hfields fun part hpart => hagree part (by omega)]
    all_goals rfl

/-- A node is read back if it is finite, from any height that is great enough. -/
theorem read_toJson (node : Node) {height : Nat} (h : node.toJson.height ≤ height) :
    read height node.toJson = if node.isFinite then some node else none := by
  induction height generalizing node with
  | zero => exact absurd h (Nat.not_le.2 node.toJson.height_pos)
  | succ height ih =>
    -- bodies are read one level lower; the other parts have readers of their own
    cases node with
    | ruleset selectors body span =>
      simp only [toJson, toJsonAll_eq_map, Json.tagged, Json.height, Json.heightFields,
        Json.heightField] at h
      have hbody := Json.list?_map_of_height ih body (by omega)
      rw [toJson, toJsonAll_eq_map, isFinite, areFinite_eq_all]
      simp [read, Json.tagged, Json.variant?, Json.required, List.lookup_cons,
        Json.list?_map Selector.ofJson?_toJson, hbody, Json.bind_ite_some]
    | mixin name params body span =>
      simp only [toJson, toJsonAll_eq_map, Json.tagged, Json.height, Json.heightFields,
        Json.heightField] at h
      have hbody := Json.list?_map_of_height ih body (by omega)
      rw [toJson, toJsonAll_eq_map, isFinite, areFinite_eq_all]
      simp [read, Json.tagged, Json.variant?, Json.required, List.lookup_cons,
        Json.list?_map_finite Parameter.ofJson?_toJson, hbody, Json.bind_ite_some, ite_and]
    | call c =>
      rw [toJson, isFinite]
      simp [read, Json.tagged, Json.variant?, Call.ofJson?_toJson, Json.bind_ite_some]
    | declaration d =>
      rw [toJson, isFinite]
      simp [read, Json.tagged, Json.variant?, Declaration.ofJson?_toJson, Json.bind_ite_some]
    | assignment a =>
      rw [toJson, isFinite]
      simp [read, Json.tagged, Json.variant?, Assignment.ofJson?_toJson, Json.bind_ite_some]

/-- A node is read back just when every number in it is finite. -/
theorem ofJson?_toJson (node : Node) :
    ofJson? node.toJson = if node.isFinite then some node else none :=
  read_toJson node (Nat.le_refl _)

/-- Only finite nodes are read. -/
theorem isFinite_of_read {height : Nat} {json : Json} {node : Node}
    (h : read height json = some node) : node.isFinite = true := by
  have hexpression : ∀ json e, Expression.ofJson? json = some e → e.isFinite = true :=
    fun _ _ => Expression.isFinite_of_read
  induction height generalizing json node with
  | zero => cases h
  | succ height ih =>
    rw [read] at h
    -- calls, declarations and assignments hold no nodes, so their readers are opened here
    split at h <;> simp only [Call.ofJson?, Declaration.ofJson?, Assignment.ofJson?,
      Option.bind_eq_bind, Option.bind_eq_some_iff, Option.pure_def, Option.some.injEq,
      reduceCtorEq] at h
    · obtain ⟨fields, -, selectors, -, body, hbody, span, -, rfl⟩ := h
      rw [isFinite, areFinite_eq_all, List.all_eq_true]
      exact Json.of_required (fun _ _ => Json.of_list? fun _ _ => ih) hbody
    · obtain ⟨fields, -, name, -, params, hparams, body, hbody, span, -, rfl⟩ := h
      rw [isFinite, areFinite_eq_all, Bool.and_eq_true, List.all_eq_true, List.all_eq_true]
      exact ⟨Json.of_required
          (fun _ _ => Json.of_list? fun _ _ => Parameter.isFinite_of_ofJson?) hparams,
        Json.of_required (fun _ _ => Json.of_list? fun _ _ => ih) hbody⟩
    · obtain ⟨c, ⟨fields, -, path, -, args, hargs, parenthesized, -, span, -, rfl⟩, rfl⟩ := h
      rw [isFinite, Expression.areFinite_eq_all, List.all_eq_true]
      exact Json.of_required (fun _ _ => Json.of_list? hexpression) hargs
    · obtain ⟨d, ⟨fields, -, property, -, value, hvalue, important, -, span, -, rfl⟩, rfl⟩ := h
      exact Json.of_required hexpression hvalue
    · obtain ⟨a, ⟨fields, -, name, -, value, hvalue, span, -, rfl⟩, rfl⟩ := h
      exact Json.of_required hexpression hvalue

end Node

/-- A sheet is read back just when every number in it is finite. -/
theorem Stylesheet.ofJson?_toJson (sheet : Stylesheet) :
    ofJson? sheet.toJson = if sheet.isFinite then some sheet else none := by
  rw [isFinite, Node.areFinite_eq_all]
  simp [ofJson?, toJson, Json.required, Node.toJsonAll_eq_map,
    Json.list?_map_finite Node.ofJson?_toJson, Json.bind_ite_some]

/-- Every number in a sheet that is read is finite. -/
private theorem Stylesheet.isFinite_of_ofJson? {json : Json} {sheet : Stylesheet}
    (h : ofJson? json = some sheet) : sheet.isFinite = true := by
  simp only [ofJson?, Option.bind_eq_bind, Option.bind_eq_some_iff, Option.pure_def,
    Option.some.injEq] at h
  obtain ⟨fields, -, nodes, hnodes, rfl⟩ := h
  rw [isFinite, Node.areFinite_eq_all, List.all_eq_true]
  exact Json.of_required (fun _ _ => Json.of_list? fun _ _ => Node.isFinite_of_read) hnodes

/-! ## The exchange format -/

/-- Every type of the exchange format is read back from what is written of it. Numbers are the only
reason not to be: a value with a double that is infinite or not a number is refused. -/
theorem json_round_trips :
    Json.RoundTrips Stylesheet.toJson Stylesheet.ofJson? Stylesheet.isFinite ∧
    Json.RoundTrips Node.toJson Node.ofJson? Node.isFinite ∧
    Json.RoundTrips Expression.toJson Expression.ofJson? Expression.isFinite ∧
    Json.RoundTrips Parameter.toJson Parameter.ofJson? Parameter.isFinite ∧
    Json.RoundTrips Selector.toJson Selector.ofJson? (fun _ => true) ∧
    Json.RoundTrips Element.toJson Element.ofJson? (fun _ => true) ∧
    Json.RoundTrips Value.toJson Value.ofJson? Value.isFinite ∧
    Json.RoundTrips Color.toJson Color.ofJson? Color.isFinite ∧
    Json.RoundTrips Operator.toJson Operator.ofJson? (fun _ => true) ∧
    Json.RoundTrips Span.toJson Span.ofJson? (fun _ => true) ∧
    Json.RoundTrips Catalog.toJson Catalog.ofJson? (fun _ => true) ∧
    Json.RoundTrips Options.toJson Options.ofJson? (fun _ => true) ∧
    Json.RoundTrips Diagnostic.toJson Diagnostic.ofJson? (fun _ => true) :=
  ⟨.of_finite Stylesheet.ofJson?_toJson fun _ _ => Stylesheet.isFinite_of_ofJson?,
    .of_finite Node.ofJson?_toJson fun _ _ => Node.isFinite_of_read,
    .of_finite Expression.ofJson?_toJson fun _ _ => Expression.isFinite_of_read,
    .of_finite Parameter.ofJson?_toJson fun _ _ => Parameter.isFinite_of_ofJson?,
    .of_always Selector.ofJson?_toJson,
    .of_always Element.ofJson?_toJson,
    .of_finite Value.ofJson?_toJson fun _ _ => Value.isFinite_of_read,
    .of_finite Color.ofJson?_toJson fun _ _ => Color.isFinite_of_ofJson?,
    .of_always Operator.ofJson?_toJson,
    .of_always Span.ofJson?_toJson,
    .of_always Catalog.ofJson?_toJson,
    .of_always Options.ofJson?_toJson,
    .of_always Diagnostic.ofJson?_toJson⟩

-- what is settled here includes what was written as arrays, from which options may be missing
example : Location.ofJson? (.array [.integer 1, .integer 2, .integer 3]) = some ⟨1, 2, 3⟩ := rfl

example : Options.ofJson? (.array [.integer 8]) = some { maxCallDepth := 8 } := rfl

end MixinSheet
