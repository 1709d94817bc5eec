import Mathlib.Logic.Basic
import MixinSheet.Json.Diagnostic
import MixinSheet.Json.Options
import MixinSheet.Json.Sheet
import MixinSheet.Proofs.Lists

/-!
# Reading what was written

Every type that is exchanged as JSON has a writer and a reader. What they have to do with each other
is said by `Json.RoundTrips`: JSON has no infinities and no NaN, so a value can be read back if its
numbers are finite, and is refused otherwise. Whatever a reader accepts, however it was written, is
a value that can be written and read again.

This module has the parts that hold no numbers but words: positions, source files, selectors,
options and diagnostics.

## Key results

- `Json.RoundTrips`: what a writer and a reader of the same type have in common
- `Json.list?_map`: lists are read back item by item
- `Span.ofJson?_toJson`, `Selector.ofJson?_toJson`, `Catalog.ofJson?_toJson`,
  `Diagnostic.ofJson?_toJson`: values without numbers are always read back
-/

namespace MixinSheet

namespace Json

variable {α : Type}

/-- A value whose numbers are finite is read back, any other is refused, and every value that is
read from somewhere is read back as well. -/
structure RoundTrips (write : α → Json) (read : Json → Option α) (finite : α → Bool) : Prop where
  restores : ∀ a, finite a = true → read (write a) = some a
  refuses : ∀ a, finite a = false → read (write a) = none
  settles : ∀ json a, read json = some a → read (write a) = some a

namespace RoundTrips

variable {write : α → Json} {read : Json → Option α} {finite : α → Bool}

/-- It is enough to know what is read back and that only finite values are read. -/
theorem of_finite (hwrite : ∀ a, read (write a) = if finite a then some a else none)
    (hread : ∀ json a, read json = some a → finite a = true) : RoundTrips write read finite where
  restores a ha := by rw [hwrite, if_pos ha]
  refuses a ha := by rw [hwrite, if_neg (by simp [ha])]
  settles json a h := by rw [hwrite, if_pos (hread json a h)]

/-- Without numbers, everything is read back. -/
theorem of_always (h : ∀ a, read (write a) = some a) : RoundTrips write read fun _ => true :=
  .of_finite h fun _ _ _ => rfl

end RoundTrips

/-! ## Single values -/

/-- A word is read back as it was written. -/
@[simp] theorem word?_ofWord (word : UInt64) : (ofWord word).word? = some word := by
  have hsize : word.toNat < UInt64.size := word.toNat_lt_size
  simp [ofWord, word?, hsize]

@[simp] theorem string?_string (text : String) : (string text).string? = some text := rfl

@[simp] theorem bool?_bool (value : Bool) : (bool value).bool? = some value := rfl

/-- A text of one character is read back as that character. -/
@[simp] theorem char?_singleton (c : Char) :
    (string (String.singleton c)).char? = some c := by
  simp [char?]

/-- A double is read back if it is finite. -/
@[simp] theorem float?_ofFloat (x : Float) :
    (ofFloat x).float? = if Number.isFinite x then some x else none := by
  unfold ofFloat
  split
  · next hfinite => simp [float?, Option.filter, hfinite]
  · rfl

/-- Only finite doubles are read. -/
theorem isFinite_of_float? {json : Json} {x : Float} (h : json.float? = some x) :
    Number.isFinite x = true := by
  cases json with
  | integer n =>
    rw [float?, Option.filter_eq_some_iff] at h
    exact h.2
  | real y =>
    rw [float?, Option.filter_eq_some_iff] at h
    exact h.2
  | null | bool | string | array | object => cases h

/-! ## Heights -/

/-- Nothing has height zero. -/
theorem height_pos (json : Json) : 0 < json.height := by
  cases json <;> exact Nat.succ_pos _

/-- So a height that is great enough has one level to go down. -/
theorem exists_eq_succ_of_height_le {json : Json} {height : Nat} (h : json.height ≤ height) :
    ∃ lower, height = lower + 1 :=
  Nat.exists_eq_succ_of_ne_zero (Nat.ne_of_gt (Nat.lt_of_lt_of_le json.height_pos h))

/-- An item is not higher than the highest one. -/
private theorem height_le_heightItems {json : Json} {items : List Json} (h : json ∈ items) :
    json.height ≤ heightItems items := by
  induction items with
  | nil => cases h
  | cons item rest ih =>
    rw [heightItems]
    rcases List.mem_cons.1 h with rfl | hrest
    · omega
    · have := ih hrest
      omega

/-- A field is not higher than the highest one. -/
private theorem height_le_heightFields {field : String × Json} {fields : List (String × Json)}
    (h : field ∈ fields) : field.2.height ≤ heightFields fields := by
  induction fields with
  | nil => cases h
  | cons first rest ih =>
    rw [heightFields, heightField]
    rcases List.mem_cons.1 h with rfl | hrest
    · omega
    · have := ih hrest
      omega

/-- What stands under a key is lower than the record. -/
theorem height_lt_of_mem_record? {keys : List String} {json : Json} {fields : List (String × Json)}
    (h : json.record? keys = some fields) {field : String × Json} (hfield : field ∈ fields) :
    field.2.height < json.height := by
  cases json with
  | object all =>
    rw [record?, Option.ite_none_right_eq_some, Option.some.injEq] at h
    obtain ⟨-, rfl⟩ := h
    exact Nat.lt_succ_of_le (height_le_heightFields hfield)
  | array items =>
    rw [record?, Option.ite_none_right_eq_some, Option.some.injEq] at h
    obtain ⟨-, rfl⟩ := h
    exact Nat.lt_succ_of_le (height_le_heightItems (List.of_mem_zip hfield).2)
  | null | bool | integer | real | string => cases h

/-- What stands under a tag is lower than the whole. -/
theorem height_lt_of_variant? {json content : Json} {tag : String}
    (h : json.variant? = some (tag, some content)) : content.height < json.height := by
  unfold variant? at h
  split at h
  · cases h
  · cases h
    simp [height, heightFields, heightField]
  · cases h

/-! ## Fields and lists -/

/-- An object is a record when none of the keys asked for stands in it twice. -/
@[simp] theorem record?_object (keys : List String) (fields : List (String × Json)) :
    (object fields).record? keys =
      if keys.all fun key => fields.countP (·.1 == key) ≤ 1 then some fields else none := rfl

/-- A part that is read back under a condition, and what follows it. -/
theorem bind_ite_some {β : Type} {p : Prop} [Decidable p] (a : α) (next : α → Option β) :
    (if p then some a else none).bind next = if p then next a else none := by
  split <;> rfl

/-- A list is read element by element, from the left. -/
private theorem list?_cons (read : Json → Option α) (json : Json) (rest : List Json) :
    list? read (.array (json :: rest)) =
      (read json).bind fun a => (list? read (.array rest)).bind fun later => some (a :: later) :=
  rfl

section Lists

variable {write : α → Json} {read : Json → Option α} {finite : α → Bool}

/-- An array is read back if each of its items is. -/
private theorem list?_map_of_mem {items : List α}
    (h : ∀ a ∈ items, read (write a) = if finite a then some a else none) :
    list? read (.array (items.map write)) = if items.all finite then some items else none := by
  induction items with
  | nil => rfl
  | cons item rest ih =>
    obtain ⟨hitem, hrest⟩ := List.forall_mem_cons.1 h
    simp [list?_cons, hitem, ih hrest, bind_ite_some, ite_and]

/-- A list is read back just when each of its elements is finite. -/
theorem list?_map_finite (h : ∀ a, read (write a) = if finite a then some a else none)
    (items : List α) :
    list? read (.array (items.map write)) = if items.all finite then some items else none :=
  list?_map_of_mem fun a _ => h a

/-- It is enough that items of the height that is left are read back. -/
theorem list?_map_of_height {height : Nat}
    (hread : ∀ a, (write a).height ≤ height → read (write a) = if finite a then some a else none)
    (items : List α) (h : heightItems (items.map write) ≤ height) :
    list? read (.array (items.map write)) = if items.all finite then some items else none := by
  refine list?_map_of_mem fun a ha => hread a ?_
  exact Nat.le_trans (height_le_heightItems (List.mem_map_of_mem ha)) h

/-- An array is read back if its items always are. -/
theorem list?_map (h : ∀ a, read (write a) = some a) (items : List α) :
    list? read (.array (items.map write)) = some items := by
  have hfinite : ∀ a, read (write a) = if (fun _ => true) a then some a else none := h
  rw [list?_map_finite hfinite, if_pos (by simp)]

end Lists

/-- Reads a value that may be null. -/
def nullable (read : Json → Option α) : Json → Option (Option α)
  | .null => some none
  | json => (read json).map some

/-- A field that may be left out is read as absent when its key is missing, and otherwise may be
null. -/
theorem optional_eq (fields : List (String × Json)) (key : String) (read : Json → Option α) :
    optional fields key read = (fields.lookup key).elim (some none) (nullable read) := by
  unfold optional
  cases fields.lookup key with
  | none => rfl
  | some json => cases json <;> rfl

@[simp] theorem nullable_null (read : Json → Option α) : nullable read .null = some none := rfl

/-- What is not null is read by the reader itself. -/
private theorem nullable_of_ne {json : Json} (h : json ≠ .null) (read : Json → Option α) :
    nullable read json = (read json).map some := by
  cases json with
  | null => exact absurd rfl h
  | bool | integer | real | string | array | object => rfl

/-- What can be read, unlike null, is not taken for a missing value. -/
private theorem nullable_eq_some {read : Json → Option α} (hnull : read .null = none) {json : Json}
    {a : α} (h : read json = some a) : nullable read json = some (some a) := by
  have hne : json ≠ .null := by
    rintro rfl
    rw [hnull] at h
    cases h
  rw [nullable_of_ne hne, h, Option.map_some]

@[simp] theorem nullable_string (text : String) :
    nullable string? (.string text) = some (some text) := rfl

/-- An optional value is read back if it is missing or finite. -/
theorem nullable_ofOption {write : α → Json} {read : Json → Option α} {finite : α → Bool}
    (hne : ∀ a, write a ≠ .null) (h : ∀ a, read (write a) = if finite a then some a else none)
    (value : Option α) :
    nullable read (.ofOption write value) = if value.all finite then some value else none := by
  cases value with
  | none => rfl
  | some a =>
    change nullable read (write a) = if finite a then _ else _
    rw [nullable_of_ne (hne a), h]
    split <;> rfl

/-! ## Readers that agree -/

/-- Readers that agree on the parts of a record read the same under each key. -/
theorem required_congr {keys : List String} {json : Json} {fields : List (String × Json)}
    (hfields : json.record? keys = some fields) {read read' : Json → Option α}
    (h : ∀ part, part.height < json.height → read part = read' part) (key : String) :
    required fields key read = required fields key read' := by
  refine Option.bind_congr fun part hpart => h part ?_
  exact height_lt_of_mem_record? hfields (List.mem_of_lookup_eq_some hpart)

/-- Readers that agree on the items of an array read the same list. -/
theorem list?_congr {json : Json} {read read' : Json → Option α}
    (h : ∀ item, item.height < json.height → read item = read' item) :
    list? read json = list? read' json := by
  refine Option.bind_congr fun items hitems => ?_
  -- only an array is a list
  obtain rfl : json = .array items := by
    cases json with
    | array all =>
      cases hitems
      rfl
    | null | bool | integer | real | string | object => cases hitems
  -- its elements are lower than the array
  have hmem : ∀ item ∈ items, read item = read' item := fun item hitem =>
    h item (Nat.lt_succ_of_le (height_le_heightItems hitem))
  clear h hitems
  induction items with
  | nil => rfl
  | cons item rest ih =>
    obtain ⟨hitem, hrest⟩ := List.forall_mem_cons.1 hmem
    rw [readAll, readAll, hitem, ih hrest]

/-! ## What is true of everything that is read -/

section Properties

variable {read : Json → Option α} {p : α → Prop} {fields : List (String × Json)} {key : String}

/-- What holds of everything a reader returns holds of a required field read with it. -/
theorem of_required (hread : ∀ json a, read json = some a → p a) {a : α}
    (h : required fields key read = some a) : p a := by
  obtain ⟨json, -, hjson⟩ := Option.bind_eq_some_iff.1 h
  exact hread json a hjson

/-- It holds of an optional field, where there is one. -/
theorem of_optional (hread : ∀ json a, read json = some a → p a) {value : Option α}
    (h : optional fields key read = some value) : ∀ a ∈ value, p a := by
  unfold optional at h
  split at h
  · cases h
    simp
  · cases h
    simp
  · next json _ _ =>
    obtain ⟨a, ha, rfl⟩ := Option.map_eq_some_iff.1 h
    simpa using hread json a ha

/-- It holds of every element of a list. -/
theorem of_list? (hread : ∀ json a, read json = some a → p a) {json : Json} {values : List α}
    (h : list? read json = some values) : ∀ a ∈ values, p a := by
  obtain ⟨items, -, hitems⟩ := Option.bind_eq_some_iff.1 h
  clear h
  induction items generalizing values with
  | nil =>
    cases hitems
    simp
  | cons item rest ih =>
    simp only [readAll, Option.bind_eq_bind, Option.bind_eq_some_iff, Option.pure_def,
      Option.some.injEq] at hitems
    obtain ⟨a, ha, later, hlater, rfl⟩ := hitems
    exact List.forall_mem_cons.2 ⟨hread item a ha, ih hlater⟩

end Properties

end Json

/-! ## Positions and source files -/

/-- A location is read back as it was written. -/
@[simp] theorem Location.ofJson?_toJson (location : Location) :
    ofJson? location.toJson = some location := by
  simp [ofJson?, toJson, Json.required, List.lookup_cons]

/-- A range is read back as it was written. -/
@[simp] theorem Range.ofJson?_toJson (range : Range) : ofJson? range.toJson = some range := by
  simp [ofJson?, toJson, Json.required, List.lookup_cons]

/-- A span is read back as it was written. -/
@[simp] theorem Span.ofJson?_toJson (span : Span) : ofJson? span.toJson = some span := by
  simp [ofJson?, toJson, Json.required, List.lookup_cons]

@[simp] theorem Json.nullable_span (span : Span) :
    nullable Span.ofJson? span.toJson = some (some span) :=
  nullable_eq_some rfl (Span.ofJson?_toJson span)

/-- The line index of a file is read back as it was written. -/
theorem LineIndex.ofJson?_toJson (index : LineIndex) : ofJson? index.toJson = some index := by
  simp [ofJson?, toJson, Json.required, List.lookup_cons, Json.list?_map Json.word?_ofWord]

/-- A file is read back as it was written. -/
theorem FileEntry.ofJson?_toJson (file : FileEntry) : ofJson? file.toJson = some file := by
  obtain ⟨path, content, index⟩ := file
  have hindex : ∀ index : LineIndex,
      Json.nullable LineIndex.ofJson? index.toJson = some (some index) :=
    fun index => Json.nullable_eq_some rfl index.ofJson?_toJson
  cases content <;> cases index <;>
    simp [ofJson?, toJson, Json.required, Json.optional_eq, Json.fieldIfSome, List.lookup_cons,
      hindex]

/-- A whole catalog of files is read back as it was written. -/
theorem Catalog.ofJson?_toJson (catalog : Catalog) : ofJson? catalog.toJson = some catalog := by
  simp [ofJson?, toJson, Json.required, Json.list?_map FileEntry.ofJson?_toJson]

/-! ## Selectors, operators and options -/

/-- A combinator is read back as it was written. -/
@[simp] theorem Combinator.ofJson?_toJson (combinator : Combinator) :
    ofJson? combinator.toJson = some combinator := by
  cases combinator <;> rfl

/-- An operator is read back as it was written. -/
@[simp] theorem Operator.ofJson?_toJson (op : Operator) : ofJson? op.toJson = some op := by
  cases op <;> rfl

/-- A separator is read back as it was written. -/
@[simp] theorem Separator.ofJson?_toJson (separator : Separator) :
    ofJson? separator.toJson = some separator := by
  cases separator <;> rfl

/-- An element of a selector is read back as it was written. -/
theorem Element.ofJson?_toJson (element : Element) : ofJson? element.toJson = some element := by
  simp [ofJson?, toJson, Json.required, List.lookup_cons]

/-- A selector is read back as it was written. -/
theorem Selector.ofJson?_toJson (selector : Selector) :
    ofJson? selector.toJson = some selector := by
  simp [ofJson?, toJson, Json.required, List.lookup_cons, Json.list?_map Element.ofJson?_toJson]

/-- The options of a run are read back as they were written. -/
theorem Options.ofJson?_toJson (options : Options) : ofJson? options.toJson = some options := by
  -- both keys are known, and each is found
  change (Json.word? (.ofWord options.maxCallDepth)).bind
    (fun depth => some { options with maxCallDepth := depth }) = some options
  rw [Json.word?_ofWord, Option.bind_some]

/-! ## Diagnostics -/

/-- A severity is read back as it was written. -/
@[simp] theorem Severity.ofJson?_toJson (severity : Severity) :
    ofJson? severity.toJson = some severity := by
  cases severity <;> rfl

/-- The role of a detail is read back as it was written. -/
@[simp] theorem DetailRole.ofJson?_toJson (role : DetailRole) :
    ofJson? role.toJson = some role := by
  cases role <;> rfl

/-- The text or place of a detail is read back as it was written. -/
@[simp] theorem Content.ofJson?_toJson (content : Content) :
    ofJson? content.toJson = some content := by
  cases content <;> rfl

/-- A detail is read back as it was written. -/
theorem Detail.ofJson?_toJson (detail : Detail) : ofJson? detail.toJson = some detail := by
  obtain ⟨kind, content, location⟩ := detail
  cases location <;>
    simp [ofJson?, toJson, Json.required, Json.optional_eq, Json.fieldIfSome, List.lookup_cons]

/-- A whole diagnostic is read back as it was written. -/
theorem Diagnostic.ofJson?_toJson (diagnostic : Diagnostic) :
    ofJson? diagnostic.toJson = some diagnostic := by
  obtain ⟨code, title, severity, problem, details, hints, location⟩ := diagnostic
  have hproblem : ∀ content : Content,
      Json.nullable Content.ofJson? content.toJson = some (some content) :=
    fun content => Json.nullable_eq_some rfl content.ofJson?_toJson
  cases code <;> cases problem <;> cases location <;>
    simp [ofJson?, toJson, Json.required, Json.optional_eq, Json.fieldIfSome, Json.ofOption,
      List.lookup_cons, hproblem, Json.list?_map Detail.ofJson?_toJson,
      Json.list?_map Content.ofJson?_toJson]

end MixinSheet
