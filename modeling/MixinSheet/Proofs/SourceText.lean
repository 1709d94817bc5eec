import MixinSheet.Proofs.LineColumn
import MixinSheet.Source.Catalog

/-!
# Source text of positions

A catalog gives the text of the row on which a span starts, and the text that the span covers. The
rows of a file are its whole content, and the text of a span within a row is a part of that row. The
first is read off the line index and the second off the offsets of the span, so the two agree only
because the index and the offsets do.

A row and a column that the file does not have are refused, unless the column is so large that its
offset is no word: then the sum of the column and the start of the row is reported as an overflow.

## Key results

- `Catalog.Holds.rowText_eq`: the text of the row of a span
- `IsRow.cut?_add`: a part of a row is a part of the text
- `rows_cover_source`: the rows of a file are its content, and spans are parts of rows
- `positions_outside_are_refused`: what becomes of positions that a file does not have
-/

namespace MixinSheet

open Utf8

/-! ## Rows as texts -/

/-- The rows of a text, joined by line breaks, are the text. -/
private theorem Text.intercalate_rows (content : String) :
    "\n".intercalate (rows content) = content := by
  rw [← String.toList_inj, String.toList_intercalate, rows, List.map_map]
  have hid : String.toList ∘ String.ofList = id := funext fun text => String.toList_ofList
  rw [hid, List.map_id]
  exact List.intercalate_splitOn '\n'

/-- A row holds no line break. -/
private theorem Text.not_mem_of_mem_rows {content line : String} (h : line ∈ rows content) :
    '\n' ∉ line.toList := by
  obtain ⟨chars, hmem, rfl⟩ := List.mem_map.1 h
  obtain ⟨row, hrow⟩ := List.getElem?_of_mem hmem
  obtain ⟨before, after, hsplit⟩ := IsRow.exists_of_getElem? hrow
  rw [String.toList_ofList]
  exact hsplit.unbroken

namespace IsRow

variable {content : String} {before line after : List Char} {row : Nat}

/-- The bytes between the start and the end of a row are its text. -/
private theorem cut?_eq (h : IsRow content.toList row before line after) :
    cut? content (byteLength before) (byteLength before + byteLength line) =
      some (String.ofList line) := by
  rw [cut?_eq_some_iff, String.toList_ofList]
  exact ⟨before, after, h.text_eq, rfl, rfl⟩

/-- A part of a row is the same part of the text, moved by what comes before the row. -/
theorem cut?_add (h : IsRow content.toList row before line after) {start stop : Nat}
    (hle : start ≤ stop) (hstop : stop ≤ byteLength line) :
    cut? content (byteLength before + start) (byteLength before + stop) =
      cut? (String.ofList line) start stop := by
  cases hcut : cut? (String.ofList line) start stop with
  | some part =>
    obtain ⟨head, tail, hline, rfl, rfl⟩ := cut?_eq_some_iff.1 hcut
    rw [String.toList_ofList] at hline
    rw [cut?_eq_some_iff]
    refine ⟨before ++ head, tail ++ after, ?_, byteLength_append .., ?_⟩
    · rw [h.text_eq, hline]
      simp only [List.append_assoc]
    · rw [byteLength_append, Nat.add_assoc]
  | none =>
    -- an end inside of a character of the row is inside of that character of the text
    rw [cut?_eq_none_iff hle (by rwa [String.toList_ofList]), String.toList_ofList] at hcut
    have hlength := h.byteLength_eq
    rw [cut?_eq_none_iff (by omega) (by omega), h.text_eq]
    have hmove (n : Nat) (hinside : InsideChar line n) :
        InsideChar (before ++ (line ++ after)) (byteLength before + n) :=
      (hinside.append_right after).append_left before rfl
    exact hcut.imp (hmove start) (hmove stop)

end IsRow

/-! ## Catalogs -/

namespace Catalog

/-- Adds files one after another. -/
def addAll (catalog : Catalog) (files : List (String × Option String)) : Catalog :=
  files.foldl (fun catalog file => (catalog.add file.1 file.2).2) catalog

/-- The content of the file with a number is known, and its lines are indexed. -/
def Holds (catalog : Catalog) (id : FileNumber) (content : String) : Prop :=
  ∃ path, catalog.file? id =
    some { path, content := some content, index := some (LineIndex.ofContent content) }

/-- A file that has just been added is held under the number it was given. -/
private theorem holds_add {catalog : Catalog} (hroom : catalog.files.size < UInt64.size)
    (path content : String) :
    (catalog.add path (some content)).2.Holds (catalog.add path (some content)).1 content := by
  refine ⟨path, ?_⟩
  simp only [file?, add, UInt64.toNat_ofNat_of_lt' hroom, Array.getElem?_push_size, Option.map_some]

/-- A file that is held stays so when others are added. -/
theorem Holds.add {catalog : Catalog} {id : FileNumber} {content : String}
    (h : catalog.Holds id content) (path : String) (other : Option String) :
    (catalog.add path other).2.Holds id content := by
  obtain ⟨path', hfile⟩ := h
  refine ⟨path', ?_⟩
  obtain ⟨hlt, -⟩ := Array.getElem?_eq_some_iff.1 hfile
  show (catalog.files.push _)[id.index.toNat]? = _
  rw [Array.getElem?_push_lt hlt, ← hfile, file?, Array.getElem?_eq_getElem hlt]

/-- A file keeps its content whatever files are added later. -/
private theorem Holds.addAll {catalog : Catalog} {id : FileNumber} {content : String}
    (h : catalog.Holds id content) (files : List (String × Option String)) :
    (catalog.addAll files).Holds id content := by
  induction files generalizing catalog with
  | nil => exact h
  | cons file files ih => exact ih (h.add file.1 file.2)

variable {catalog : Catalog} {id : FileNumber} {content : String}

/-- The index of a file that is held is that of its content. -/
private theorem Holds.index?_eq (h : catalog.Holds id content) :
    catalog.index? id = some (LineIndex.ofContent content) := by
  obtain ⟨path, hfile⟩ := h
  rw [index?, hfile]
  rfl

/-- The text of the row on which a span starts, if the file has that row. -/
theorem Holds.rowText_eq (h : catalog.Holds id content)
    (hsize : content.utf8ByteSize < UInt64.size) {span : Span} (hspan : span.file = id) :
    catalog.rowText span = .ok (Text.rows content)[span.range.start.row.toNat]? := by
  obtain ⟨path, hfile⟩ := h
  rw [rowText, hspan, hfile]
  show (LineIndex.ofContent content).boundsOf span.range.start.row.toNat >>= _ = _
  generalize span.range.start.row.toNat = row
  obtain hlt | hge := Nat.lt_or_ge row (LineIndex.ofContent content).rowCount
  · obtain ⟨before, line, after, hrow⟩ := LineIndex.exists_isRow hlt
    rw [hrow.boundsOf hsize, hrow.getElem?_rows, ← hrow.cut?_eq]
    simp only [bind, Except.bind, pure, Except.pure, hrow.toNat_start hsize, hrow.toNat_stop hsize]
  · rw [LineIndex.boundsOf_eq_none hge, List.getElem?_eq_none]
    · rfl
    · rwa [← LineIndex.rowCount_ofContent]

/-- The text of a span is cut from the content by its offsets. -/
private theorem Holds.textOf?_eq (h : catalog.Holds id content) {span : Span}
    (hspan : span.file = id) :
    catalog.textOf? span =
      cut? content span.range.start.offset.toNat span.range.stop.offset.toNat := by
  obtain ⟨path, hfile⟩ := h
  rw [textOf?, content?, hspan, hfile]
  rfl

/-- A span at a line and a column is looked up by the row and the column before them. -/
private theorem Holds.spanAt_eq (h : catalog.Holds id content) {line column : UInt64}
    (hline : line ≠ 0) (hcolumn : column ≠ 0) (length : UInt64) :
    catalog.spanAt id line column length = do
      let some start ← (LineIndex.ofContent content).locate (line - 1) (column - 1) | return none
      return some { file := id, range := ← Range.inRow start length } := by
  rw [spanAt, h.index?_eq]
  show (if line = 0 ∨ column = 0 then _ else _) = _
  exact if_neg (not_or.2 ⟨hline, hcolumn⟩)

/-- Lines and columns count from one, so none is numbered zero. -/
private theorem spanAt_eq_none {line column : UInt64} (h : line = 0 ∨ column = 0)
    (length : UInt64) : catalog.spanAt id line column length = .ok none := by
  rw [spanAt]
  cases catalog.index? id with
  | none => rfl
  | some index =>
    show (if line = 0 ∨ column = 0 then _ else _) = _
    exact if_pos h

/-- A span that is found starts at a location of the file and covers as many bytes as asked for. -/
private theorem Holds.exists_of_spanAt (h : catalog.Holds id content) {line column length : UInt64}
    {info : Span} (hinfo : catalog.spanAt id line column length = .ok (some info)) :
    line ≠ 0 ∧ column ≠ 0 ∧ info.file = id ∧
    (LineIndex.ofContent content).locate (line - 1) (column - 1) = .ok (some info.range.start) ∧
    info.range.stop.offset.toNat = info.range.start.offset.toNat + length.toNat := by
  by_cases hzero : line = 0 ∨ column = 0
  · rw [spanAt_eq_none hzero] at hinfo
    simp at hinfo
  · obtain ⟨hline, hcolumn⟩ := not_or.1 hzero
    rw [h.spanAt_eq hline hcolumn] at hinfo
    cases hlocate : (LineIndex.ofContent content).locate (line - 1) (column - 1) with
    | error => simp [hlocate, bind, Except.bind] at hinfo
    | ok found =>
      cases found with
      | none => simp [hlocate, bind, Except.bind, pure, Except.pure] at hinfo
      | some start =>
        rw [hlocate] at hinfo
        simp only [bind, Except.bind, pure, Except.pure, Range.inRow] at hinfo
        -- both the end and its column fit into a word
        cases hoffset : Word.add start.offset length with
        | error => simp [hoffset] at hinfo
        | ok offset =>
          cases hend : Word.add start.column length with
          | error => simp [hoffset, hend] at hinfo
          | ok stop =>
            simp only [hoffset, hend, Except.ok.injEq, Option.some.injEq] at hinfo
            subst hinfo
            exact ⟨hline, hcolumn, rfl, rfl, Word.toNat_add hoffset⟩

/-- The line and the column of a span that is found are those it was asked for. -/
private theorem Holds.line_column_of_spanAt (h : catalog.Holds id content)
    (hsize : content.utf8ByteSize < UInt64.size) {line column length : UInt64} {info : Span}
    (hinfo : catalog.spanAt id line column length = .ok (some info)) :
    info.line = .ok line ∧ info.column = .ok column := by
  obtain ⟨hline, hcolumn, -, hlocate, -⟩ := h.exists_of_spanAt hinfo
  obtain ⟨hrowEq, hcolumnEq, -⟩ := (LineIndex.locate_eq_some_iff hsize).1 hlocate
  rw [Span.line, Span.column, hrowEq, hcolumnEq]
  exact ⟨Word.add_sub_one hline, Word.add_sub_one hcolumn⟩

/-- The text of a span that is found is a part of the text of its row, if the row is long enough. -/
private theorem Holds.text_of_spanAt (h : catalog.Holds id content)
    (hsize : content.utf8ByteSize < UInt64.size) {line column length : UInt64} {info : Span}
    (hinfo : catalog.spanAt id line column length = .ok (some info)) :
    ∃ row, catalog.rowText info = .ok (some row) ∧
      (column.toNat - 1 + length.toNat ≤ row.utf8ByteSize →
        catalog.textOf? info =
          cut? row (column.toNat - 1) (column.toNat - 1 + length.toNat)) := by
  obtain ⟨-, hcolumn, hfile, hlocate, hstop⟩ := h.exists_of_spanAt hinfo
  obtain ⟨-, hcolumnEq, hin⟩ := (LineIndex.locate_eq_some_iff hsize).1 hlocate
  obtain ⟨before, text, after, hrow, hoffset, -⟩ := (Location.isIn_iff hsize).1 hin
  refine ⟨String.ofList text, by rw [h.rowText_eq hsize hfile, hrow.getElem?_rows], ?_⟩
  intro hend
  rw [utf8ByteSize_ofList] at hend
  -- the offsets of the span are its columns behind the start of the row
  have hcolumnNat : info.range.start.column.toNat = column.toNat - 1 := by
    have := Word.toNat_sub_one hcolumn
    rw [hcolumnEq]
    omega
  rw [h.textOf?_eq hfile, hstop, hoffset, hcolumnNat, Nat.add_assoc]
  exact hrow.cut?_add (by omega) hend

end Catalog

/-- The rows of a file in a catalog are its content: the text of each is known, none has a line
break, and joined by line breaks they are the content. A span that is found at a line and a column
has that line and that column; if it does not go past the end of its row, its text is that part of
the text of the row, and there is none only if an end of the span is inside of a character. All of
this still holds when files are added later. -/
theorem rows_cover_source (catalog : Catalog) (path content : String)
    (later : List (String × Option String)) (hroom : catalog.files.size < UInt64.size)
    (hsize : content.utf8ByteSize < UInt64.size) :
    let id := (catalog.add path (some content)).1
    let files := (catalog.add path (some content)).2.addAll later
    (files.index? id).map LineIndex.rowCount = some (Text.rows content).length ∧
    (∀ span : Span, span.file = id →
      files.rowText span = .ok (Text.rows content)[span.range.start.row.toNat]?) ∧
    (∀ row ∈ Text.rows content, '\n' ∉ row.toList) ∧
    "\n".intercalate (Text.rows content) = content ∧
    ∀ (line column length : UInt64) (info : Span),
      files.spanAt id line column length = .ok (some info) →
      info.line = .ok line ∧ info.column = .ok column ∧
      ∃ row, files.rowText info = .ok (some row) ∧
        (column.toNat - 1 + length.toNat ≤ row.utf8ByteSize →
          files.textOf? info =
            cut? row (column.toNat - 1) (column.toNat - 1 + length.toNat) ∧
          (files.textOf? info = none ↔ InsideChar row.toList (column.toNat - 1) ∨
            InsideChar row.toList (column.toNat - 1 + length.toNat))) := by
  intro id files
  -- files that are added later leave the content where it is
  have hholds : files.Holds id content := (Catalog.holds_add hroom path content).addAll later
  refine ⟨?_, fun span => hholds.rowText_eq hsize, fun row => Text.not_mem_of_mem_rows,
    Text.intercalate_rows content, ?_⟩
  · rw [hholds.index?_eq, Option.map_some, LineIndex.rowCount_ofContent]
  · -- the line and column are those that were asked for, and the text is cut from the row
    intro line column length info hinfo
    obtain ⟨hline, hcolumn⟩ := hholds.line_column_of_spanAt hsize hinfo
    obtain ⟨row, hrow, htext⟩ := hholds.text_of_spanAt hsize hinfo
    refine ⟨hline, hcolumn, row, hrow, fun hend => ⟨htext hend, ?_⟩⟩
    rw [htext hend]
    exact cut?_eq_none_iff (by omega) (by rwa [byteLength_toList])

namespace Accents

/-- A catalog with a file whose first row starts with a letter of two bytes, and one more file. -/
def files : Catalog :=
  ((Catalog.add {} "first" (some content)).2).addAll [("second", none)]

end Accents

/-- In the example the second column of the first row lies inside of a character, so the span there
has no text. -/
theorem rows_cover_source_accents :
    ({} : Catalog).files.size < UInt64.size ∧ Accents.content.utf8ByteSize < UInt64.size ∧
    "\n".intercalate ["é;", "", "à"] = Accents.content ∧ ∃ info,
      Accents.files.spanAt ⟨0⟩ 1 2 2 = .ok (some info) ∧ info.line = .ok 1 ∧ info.column = .ok 2 ∧
      Accents.files.rowText info = .ok (some "é;") ∧ Accents.files.textOf? info = none := by
  have hroom : ({} : Catalog).files.size < UInt64.size := by decide
  have hsize : Accents.content.utf8ByteSize < UInt64.size := by decide
  obtain ⟨-, -, -, hjoin, hspans⟩ :=
    rows_cover_source {} "first" Accents.content [("second", none)] hroom hsize
  obtain ⟨hline, hcolumn, row, hrow, htext⟩ := hspans 1 2 2
    { file := ⟨0⟩, range := { start := ⟨1, 0, 1⟩, stop := ⟨3, 0, 3⟩ } } rfl
  obtain rfl : "é;" = row := Option.some.inj (Except.ok.inj hrow)
  refine ⟨hroom, hsize, hjoin, _, rfl, hline, hcolumn, hrow, (htext (by decide)).2.2 (.inl ?_)⟩
  -- the second column is inside of the letter
  exact ⟨[], 'é', [';'], rfl, by decide, by decide⟩

/-! ## Positions outside of a file -/

namespace LineIndex

/-- A text has no such row, or the row is shorter. -/
def Outside (content : String) (row column : UInt64) : Prop :=
  (ofContent content).rowCount ≤ row.toNat ∨
    ∃ line, (Text.rows content)[row.toNat]? = some line ∧ line.utf8ByteSize < column.toNat

/-- Counted from the start of the row, the column is at an offset that is no word. -/
def Overflows (content : String) (row column : UInt64) : Prop :=
  ∃ start stop, (ofContent content).boundsOf row.toNat = .ok (some (start, stop)) ∧
    UInt64.size ≤ start.toNat + column.toNat

end LineIndex

namespace IsRow

open LineIndex

variable {content : String} {row : UInt64} {before line after : List Char}

/-- A column is outside of a row when it is larger than the row has bytes. -/
private theorem outside_iff (h : IsRow content.toList row.toNat before line after)
    (column : UInt64) : Outside content row column ↔ byteLength line < column.toNat := by
  have hrow : row.toNat < (ofContent content).rowCount := by
    rw [rowCount_ofContent]
    exact (List.getElem?_eq_some_iff.1 h.getElem?_rows).1
  rw [Outside, h.getElem?_rows]
  simp only [Option.some.injEq, exists_eq_left', utf8ByteSize_ofList]
  omega

/-- A position overflows when its offset does not fit a word. -/
private theorem overflows_iff (h : IsRow content.toList row.toNat before line after)
    (hsize : content.utf8ByteSize < UInt64.size) (column : UInt64) :
    Overflows content row column ↔ UInt64.size ≤ byteLength before + column.toNat := by
  rw [Overflows, h.boundsOf hsize]
  constructor
  · rintro ⟨start, stop, hbounds, hle⟩
    obtain ⟨rfl, rfl⟩ := Prod.mk.inj (Option.some.inj (Except.ok.inj hbounds))
    rwa [h.toNat_start hsize] at hle
  · intro hle
    exact ⟨_, _, rfl, by rwa [h.toNat_start hsize]⟩

end IsRow

namespace LineIndex

variable {content : String}

/-- A position whose offset is no word is reported, though the text has no such position. -/
private theorem locate_of_overflows {row column : UInt64}
    (hsize : content.utf8ByteSize < UInt64.size) (h : Overflows content row column) :
    (ofContent content).locate row column = .error .addition ∧ Outside content row column := by
  obtain hlt | hge := Nat.lt_or_ge row.toNat (ofContent content).rowCount
  · obtain ⟨before, line, after, hrow⟩ := exists_isRow hlt
    have hsum := (hrow.overflows_iff hsize column).1 h
    have hlength := hrow.utf8ByteSize_eq
    rw [hrow.locate_eq hsize, if_neg (by omega), hrow.outside_iff]
    exact ⟨rfl, by omega⟩
  · obtain ⟨start, stop, hbounds, -⟩ := h
    rw [boundsOf_eq_none hge] at hbounds
    simp at hbounds

/-- Any other position is found if the text has it, and refused if not. -/
private theorem locate_of_not_overflows {row column : UInt64}
    (hsize : content.utf8ByteSize < UInt64.size) (h : ¬ Overflows content row column) :
    ((ofContent content).locate row column = .ok none ↔ Outside content row column) ∧
    (¬ Outside content row column →
      ∃ location, (ofContent content).locate row column = .ok (some location)) := by
  obtain hlt | hge := Nat.lt_or_ge row.toNat (ofContent content).rowCount
  · obtain ⟨before, line, after, hrow⟩ := exists_isRow hlt
    rw [hrow.overflows_iff hsize column, Nat.not_le] at h
    rw [hrow.locate_eq hsize, if_pos h, hrow.outside_iff]
    by_cases hcolumn : byteLength line < column.toNat
    · simp [hcolumn]
    · simp [hcolumn]
  · rw [locate_eq_none hge]
    simp [Outside, hge]

end LineIndex

open LineIndex in
/-- A row and a column that a text does not have are refused, and all others are found, unless the
offset of the column is no word. Then the sum is reported, though the text has no such position. A
catalog answers alike for lines and columns. -/
theorem positions_outside_are_refused (content : String)
    (hsize : content.utf8ByteSize < UInt64.size) :
    (∀ row column : UInt64, ¬ Overflows content row column →
      ((ofContent content).locate row column = .ok none ↔ Outside content row column) ∧
      (¬ Outside content row column →
        ∃ location, (ofContent content).locate row column = .ok (some location))) ∧
    (∀ row column : UInt64, Overflows content row column →
      (ofContent content).locate row column = .error .addition ∧ Outside content row column) ∧
    ∀ (catalog : Catalog) (id : FileNumber) (line column length : UInt64),
      catalog.Holds id content →
      (line = 0 ∨ column = 0 → catalog.spanAt id line column length = .ok none) ∧
      (line ≠ 0 → column ≠ 0 →
        (¬ Overflows content (line - 1) (column - 1) → Outside content (line - 1) (column - 1) →
          catalog.spanAt id line column length = .ok none) ∧
        (Overflows content (line - 1) (column - 1) →
          catalog.spanAt id line column length = .error .addition)) := by
  refine ⟨fun row column => locate_of_not_overflows hsize,
    fun row column => locate_of_overflows hsize, ?_⟩
  intro catalog id line column length hholds
  refine ⟨fun hzero => Catalog.spanAt_eq_none hzero length, ?_⟩
  intro hline hcolumn
  rw [hholds.spanAt_eq hline hcolumn]
  -- the position of a span is located first, with rows and columns counted from zero
  constructor
  · intro hfits houtside
    have hnone := (locate_of_not_overflows hsize hfits).1.2 houtside
    simp only [hnone, bind, Except.bind, pure, Except.pure]
  · intro hover
    have herror := (locate_of_overflows hsize hover).1
    simp only [herror, bind, Except.bind]

open LineIndex in
/-- In the example a column past the end is refused, and one so far out that the sum overflows is an
error. -/
theorem positions_outside_are_refused_accents :
    Accents.content.utf8ByteSize < UInt64.size ∧
    (¬ Overflows Accents.content 2 3 ∧ Outside Accents.content 2 3 ∧
      (ofContent Accents.content).locate 2 3 = .ok none ∧
      Accents.files.spanAt ⟨0⟩ 3 4 1 = .ok none) ∧
    (Overflows Accents.content 2 18446744073709551615 ∧
      (ofContent Accents.content).locate 2 18446744073709551615 = .error .addition) := by
  have hsize : Accents.content.utf8ByteSize < UInt64.size := by decide
  have hbounds : (ofContent Accents.content).boundsOf 2 = .ok (some (5, 7)) := rfl
  have hfits : ¬ Overflows Accents.content 2 3 := by
    rintro ⟨start, stop, hstart, hle⟩
    obtain ⟨rfl, rfl⟩ := Prod.mk.inj (Option.some.inj (Except.ok.inj (hbounds.symm.trans hstart)))
    exact absurd hle (by decide)
  have houtside : Outside Accents.content 2 3 := .inr ⟨"à", rfl, by decide⟩
  have hover : Overflows Accents.content 2 18446744073709551615 := ⟨5, 7, hbounds, by decide⟩
  have hholds : Accents.files.Holds ⟨0⟩ Accents.content := ⟨"first", rfl⟩
  obtain ⟨hlocate, hreport, hspans⟩ := positions_outside_are_refused Accents.content hsize
  exact ⟨hsize, ⟨hfits, houtside, (hlocate 2 3 hfits).1.2 houtside,
    ((hspans Accents.files ⟨0⟩ 3 4 1 hholds).2 (by decide) (by decide)).1 hfits houtside⟩,
    hover, (hreport 2 _ hover).1⟩

open LineIndex in
/-- A column far past the end of the second row is reported as an overflow and not refused. -/
theorem column_past_row_overflows :
    Outside "a\nb" 1 18446744073709551615 ∧
    (ofContent "a\nb").locate 1 18446744073709551615 = .error .addition ∧
    (Catalog.add {} "first" (some "a\nb")).2.spanAt ⟨0⟩ 2 18446744073709551615 0 =
      .error .addition :=
  ⟨.inr ⟨"b", rfl, by decide⟩, rfl, rfl⟩

end MixinSheet
