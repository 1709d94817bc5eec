import MixinSheet.Proofs.Rows

/-!
# Lines and columns

A byte of a text has a row, the number of line feeds before it, and a column, the number of bytes
since the last of them. `Location.IsIn` says this of a location, counting bytes and with no regard
to line indices. The line index of a text finds these locations and no others, from the offset by
bisection and from the row and the column by the bounds of the row. So each way leads back to where
the other one started, and locations stand in the order of their offsets.

## Key results

- `LineIndex.rowOf_spec`: bisection finds the first line break that is not before an offset
- `Location.isIn_iff`: a location of a text takes it apart at a row
- `LineIndex.ofOffset_eq_some_iff`, `LineIndex.locate_eq_some_iff`: the locations that are found
- `line_index_round_trips`: both ways lead back, and in order
-/

namespace MixinSheet

open Utf8

/-! ## Bisection -/

namespace LineIndex

/-- The line breaks of an index are in order. -/
def Ordered (index : LineIndex) : Prop :=
  ∀ (i j : Nat) (a b : UInt64), i < j →
    index.breaks[i]? = some a → index.breaks[j]? = some b → a < b

/-- The line breaks of a content are in order. -/
private theorem ordered_ofContent {content : String} (hsize : content.utf8ByteSize < UInt64.size) :
    (ofContent content).Ordered := by
  intro i j a b hij ha hb
  rw [getElem?_breaks, Option.map_eq_some_iff] at ha hb
  obtain ⟨a, ha, rfl⟩ := ha
  obtain ⟨b, hb, rfl⟩ := hb
  obtain ⟨hi, hia⟩ := List.getElem?_eq_some_iff.1 ha
  obtain ⟨hj, hjb⟩ := List.getElem?_eq_some_iff.1 hb
  -- breaks are listed in the order of the text, and each of them fits a word
  have hlt := List.pairwise_iff_getElem.1 (pairwise_breaksFrom 0 content.toList) i j hi hj hij
  have hbound := (le_of_mem_breaksFrom (List.mem_of_getElem? hb)).2
  rw [byteLength_toList] at hbound
  rw [UInt64.lt_iff_toNat_lt, UInt64.toNat_ofNat_of_lt' (by omega),
    UInt64.toNat_ofNat_of_lt' (by omega)]
  omega

/-- Among the `size` breaks from `base` on is the last one that is not past an offset, unless all of
them are past it. -/
structure Brackets (index : LineIndex) (offset : UInt64) (base size : Nat) : Prop where
  nonempty : 0 < size
  bounded : base + size ≤ index.breaks.size
  reached : base = 0 ∨ ∀ brk, index.breaks[base]? = some brk → brk ≤ offset
  past : ∀ i brk, base + size ≤ i → index.breaks[i]? = some brk → offset < brk

/-- The upper half is taken if it starts with a break that is not past the offset. -/
private theorem Brackets.upper {index : LineIndex} {offset brk : UInt64} {base size : Nat}
    (h : index.Brackets offset base size) (hsize : 1 < size)
    (hbrk : index.breaks[base + size / 2]? = some brk) (hle : brk ≤ offset) :
    index.Brackets offset (base + size / 2) (size - size / 2) where
  nonempty := by omega
  bounded := by have := h.bounded; omega
  reached := .inr fun brk' hbrk' => by
    rw [hbrk] at hbrk'
    exact Option.some.inj hbrk' ▸ hle
  past := fun i brk' hi => h.past i brk' (by omega)

/-- The lower half is taken if the upper one starts with a break past the offset. -/
theorem Brackets.lower {index : LineIndex} {offset brk : UInt64} {base size : Nat}
    (h : index.Brackets offset base size) (hordered : index.Ordered) (hsize : 1 < size)
    (hbrk : index.breaks[base + size / 2]? = some brk) (hlt : offset < brk) :
    index.Brackets offset base (size - size / 2) where
  nonempty := by omega
  bounded := by have := h.bounded; omega
  reached := h.reached
  past := by
    intro i brk' hi hbrk'
    -- an odd number of breaks leaves one more below than above
    obtain rfl | hlater : base + size / 2 = i ∨ base + size / 2 < i := by omega
    · rw [hbrk] at hbrk'
      exact Option.some.inj hbrk' ▸ hlt
    · exact UInt64.lt_trans hlt (hordered _ _ _ _ hlater hbrk hbrk')

/-- Bisection narrows the breaks to one. -/
theorem Brackets.bisect {index : LineIndex} {offset : UInt64} {base size : Nat}
    (h : index.Brackets offset base size) (hordered : index.Ordered) :
    index.Brackets offset (index.bisect offset base size) 1 := by
  fun_induction LineIndex.bisect index offset base size with
  | case1 base size hsize =>
    -- one candidate is left
    have := h.nonempty
    obtain rfl : size = 1 := by omega
    exact h
  | case2 base size hsize middle past ih =>
    -- the middle is compared with the offset, and one half of the candidates is left
    have hmiddle : middle < index.breaks.size := by
      have := h.bounded
      omega
    have hbrk : index.breaks[middle]? = some index.breaks[middle] :=
      Array.getElem?_eq_getElem hmiddle
    have hpast : past = decide (offset < index.breaks[middle]) := by
      simp only [past, hbrk]
    apply ih
    rw [hpast]
    by_cases hlt : offset < index.breaks[middle]
    · rw [dif_pos (decide_eq_true hlt)]
      exact h.lower hordered (by omega) hbrk hlt
    · rw [dif_neg (mt of_decide_eq_true hlt)]
      exact h.upper (by omega) hbrk (UInt64.not_lt.1 hlt)

/-- The row of an offset is the number of line breaks before it: the break that ends the row before
is one of them, and the break that ends the row is not. -/
theorem rowOf_spec {index : LineIndex} (hordered : index.Ordered) (offset : UInt64) :
    index.rowOf offset ≤ index.breaks.size ∧
    (∀ row brk, index.rowOf offset = row + 1 → index.breaks[row]? = some brk → brk < offset) ∧
    (∀ brk, index.breaks[index.rowOf offset]? = some brk → offset ≤ brk) := by
  -- a text of one row has no breaks
  obtain hnone | hsome : index.breaks.size = 0 ∨ 0 < index.breaks.size := by omega
  · have hrow : index.rowOf offset = 0 := by
      have hempty : index.breaks[0]? = none := Array.getElem?_eq_none (by omega)
      rw [rowOf, hnone, bisect, if_pos (by omega)]
      simp only [hempty]
    rw [hrow]
    refine ⟨Nat.zero_le _, fun row brk hzero => by omega, fun brk hbrk => ?_⟩
    rw [Array.getElem?_eq_none (by omega)] at hbrk
    simp at hbrk
  · -- at first every break is a candidate
    have hall : index.Brackets offset 0 index.breaks.size :=
      ⟨hsome, by omega, .inl rfl, fun i brk hi hbrk => by
        rw [Array.getElem?_eq_none (by omega)] at hbrk
        simp at hbrk⟩
    have hone := hall.bisect hordered
    -- one break is left, and the row depends on which side of the offset it stands
    generalize hbase : index.bisect offset 0 index.breaks.size = base at hone
    have hbound := hone.bounded
    have hbrk : index.breaks[base]? = some index.breaks[base] :=
      Array.getElem?_eq_getElem (by omega)
    have hrow : index.rowOf offset = if index.breaks[base] < offset then base + 1 else base := by
      rw [rowOf, hbase]
      simp only [hbrk]
    rw [hrow]
    -- the break that is left stands before the offset, or the offset lies in its row
    by_cases hlt : index.breaks[base] < offset
    · rw [if_pos hlt]
      refine ⟨hbound, fun row brk heq hrowBrk => ?_, fun brk hafter => ?_⟩
      · obtain rfl : base = row := by omega
        rw [hbrk] at hrowBrk
        exact Option.some.inj hrowBrk ▸ hlt
      · exact UInt64.le_of_lt (hone.past _ _ (by omega) hafter)
    · rw [if_neg hlt]
      refine ⟨by omega, fun row brk heq hrowBrk => ?_, fun brk hafter => ?_⟩
      · subst heq
        have hreached := hone.reached.resolve_left (by omega) _ hbrk
        exact UInt64.lt_of_lt_of_le (hordered _ _ _ _ (by omega) hrowBrk hbrk) hreached
      · rw [hbrk] at hafter
        exact Option.some.inj hafter ▸ UInt64.not_lt.1 hlt

/-- Bisection finds the row that an offset is in. -/
private theorem exists_isRow_of_offset {content : String} {offset : UInt64}
    (hsize : content.utf8ByteSize < UInt64.size)
    (hoffset : offset.toNat ≤ content.utf8ByteSize) :
    ∃ before line after,
      IsRow content.toList ((ofContent content).rowOf offset) before line after ∧
      byteLength before ≤ offset.toNat ∧
      offset.toNat ≤ byteLength before + byteLength line := by
  obtain ⟨hle, hbefore, hafter⟩ := rowOf_spec (ordered_ofContent hsize) offset
  generalize (ofContent content).rowOf offset = row at hle hbefore hafter
  obtain ⟨before, line, after, hrow⟩ := exists_isRow (Nat.lt_succ_of_le hle)
  have hlength := hrow.utf8ByteSize_eq
  refine ⟨before, line, after, hrow, ?_, ?_⟩
  · -- the row starts behind the break before it, if there is one
    cases row with
    | zero =>
      rw [hrow.before_eq_nil]
      exact Nat.zero_le _
    | succ row =>
      obtain ⟨brk, hbrk, hstart⟩ := hrow.getElem?_breaksFrom
      have hlt := hbefore row (UInt64.ofNat brk) rfl (by rw [getElem?_breaks, hbrk]; rfl)
      rw [UInt64.lt_iff_toNat_lt, UInt64.toNat_ofNat_of_lt' (by omega)] at hlt
      omega
  · -- the row ends at the next break, or at the end of the text
    have hstop := hrow.getElem?_breaksFrom_getD
    cases hbrk : (breaksFrom 0 content.toList)[row]? with
    | none =>
      rw [hbrk, Option.getD_none, byteLength_toList] at hstop
      omega
    | some brk =>
      rw [hbrk, Option.getD_some] at hstop
      have hge := hafter (UInt64.ofNat brk) (by rw [getElem?_breaks, hbrk]; rfl)
      rw [UInt64.le_iff_toNat_le, UInt64.toNat_ofNat_of_lt' (by omega)] at hge
      omega

end LineIndex

/-! ## Rows and columns of bytes -/

/-- The number of line feeds among the first `offset` bytes. -/
def Utf8.rowAt (bytes : List UInt8) (offset : Nat) : Nat :=
  (bytes.take offset).count lineFeed

/-- The number of bytes after the last line feed among the first `offset` bytes. -/
def Utf8.columnAt (bytes : List UInt8) (offset : Nat) : Nat :=
  ((bytes.take offset).reverse.takeWhile (· != lineFeed)).length

/-- The location of a byte of a text, or of its end. -/
structure Location.IsIn (location : Location) (content : String) : Prop where
  offset_le : location.offset.toNat ≤ content.utf8ByteSize
  row_eq : location.row.toNat = rowAt content.toByteArray.data.toList location.offset.toNat
  column_eq : location.column.toNat = columnAt content.toByteArray.data.toList location.offset.toNat

namespace IsRow

variable {content : String} {before line after : List Char} {row : Nat}

/-- The bytes up to a column of a row are those before the row and the first ones of the row. -/
private theorem take_bytes (h : IsRow content.toList row before line after) {column : Nat}
    (hcolumn : column ≤ byteLength line) :
    content.toByteArray.data.toList.take (byteLength before + column) =
      bytes before ++ (bytes line).take column := by
  rw [← bytes_toList, h.text_eq, bytes_append, bytes_append, ← length_bytes before,
    List.take_length_add_append, List.take_append_of_le_length (by rwa [length_bytes])]

/-- No part of a row has a line feed. -/
private theorem not_mem_take (h : IsRow content.toList row before line after) (column : Nat) :
    lineFeed ∉ (bytes line).take column :=
  fun hmem => lineFeed_not_mem_bytes h.unbroken (List.mem_of_mem_take hmem)

/-- An offset inside a row belongs to this row. -/
private theorem rowAt_eq (h : IsRow content.toList row before line after) {column : Nat}
    (hcolumn : column ≤ byteLength line) :
    rowAt content.toByteArray.data.toList (byteLength before + column) = row := by
  rw [rowAt, h.take_bytes hcolumn, List.count_append, count_bytes, h.count_before,
    List.count_eq_zero.2 (h.not_mem_take column), Nat.add_zero]

/-- An offset inside a row has its distance from the start as its column. -/
private theorem columnAt_eq (h : IsRow content.toList row before line after) {column : Nat}
    (hcolumn : column ≤ byteLength line) :
    columnAt content.toByteArray.data.toList (byteLength before + column) = column := by
  have hline : ∀ byte ∈ ((bytes line).take column).reverse, (byte != lineFeed) = true := by
    intro byte hmem
    rw [bne_iff_ne]
    rintro rfl
    exact h.not_mem_take column (List.mem_reverse.1 hmem)
  -- backwards from the column, the row comes first and then the line feed before it
  have hbefore : (bytes before).reverse.takeWhile (· != lineFeed) = [] := by
    obtain rfl | ⟨init, rfl⟩ := h.before_ends
    · rfl
    · have hbreak : bytes ['\n'] = [lineFeed] := rfl
      simp [bytes_append, hbreak]
  rw [columnAt, h.take_bytes hcolumn, List.reverse_append, List.takeWhile_append_of_pos hline,
    hbefore, List.append_nil, List.length_reverse, List.length_take, length_bytes]
  omega

/-- A row has a number that is a word. -/
private theorem row_lt (h : IsRow content.toList row before line after)
    (hsize : content.utf8ByteSize < UInt64.size) : row < UInt64.size := by
  have hcount : (bytes before).count lineFeed ≤ (bytes before).length := List.count_le_length
  have hlength := h.utf8ByteSize_eq
  rw [count_bytes, h.count_before, length_bytes] at hcount
  omega

/-- Every column of a row has a location. -/
theorem isIn {location : Location}
    (h : IsRow content.toList location.row.toNat before line after)
    (hoffset : location.offset.toNat = byteLength before + location.column.toNat)
    (hcolumn : location.column.toNat ≤ byteLength line) : location.IsIn content where
  offset_le := by
    rw [← byteLength_toList, h.byteLength_eq]
    omega
  row_eq := by rw [hoffset, h.rowAt_eq hcolumn]
  column_eq := by rw [hoffset, h.columnAt_eq hcolumn]

end IsRow

namespace Location

variable {content : String} {location : Location}

/-- An offset has one location. -/
theorem IsIn.eq {other : Location} (h : location.IsIn content) (hother : other.IsIn content)
    (hoffset : location.offset = other.offset) : location = other := by
  have hrow : location.row = other.row := by
    rw [← UInt64.toNat_inj, h.row_eq, hother.row_eq, hoffset]
  have hcolumn : location.column = other.column := by
    rw [← UInt64.toNat_inj, h.column_eq, hother.column_eq, hoffset]
  cases location
  cases other
  simp_all

end Location

namespace LineIndex

variable {content : String}

/-- An offset past the end has no location. -/
private theorem ofOffset_eq_none {offset : UInt64} (hsize : content.utf8ByteSize < UInt64.size)
    (h : content.utf8ByteSize < offset.toNat) : (ofContent content).ofOffset offset = .ok none := by
  have hlt : (ofContent content).size < offset := by
    rwa [UInt64.lt_iff_toNat_lt, toNat_size hsize]
  rw [ofOffset, if_pos hlt]
  rfl

/-- Every offset up to the end of a text has a location. -/
private theorem exists_ofOffset {offset : UInt64} (hsize : content.utf8ByteSize < UInt64.size)
    (h : offset.toNat ≤ content.utf8ByteSize) :
    ∃ location, (ofContent content).ofOffset offset = .ok (some location) ∧
      location.offset = offset ∧ location.IsIn content := by
  -- the row that the search finds, with the offset in it
  obtain ⟨before, line, after, hrow, hstart, hstop⟩ := exists_isRow_of_offset hsize h
  have hstartNat := hrow.toNat_start hsize
  have hstartOf := hrow.startOf hsize
  have hrowLt := hrow.row_lt hsize
  generalize hrowOf : (ofContent content).rowOf offset = row at hrow hstartOf hrowLt
  have hsub : Word.sub offset (UInt64.ofNat (byteLength before)) =
      .ok (offset - UInt64.ofNat (byteLength before)) := by
    rw [Word.sub, if_pos (by rw [UInt64.le_iff_toNat_le, hstartNat]; exact hstart)]
  have hcolumn : (offset - UInt64.ofNat (byteLength before)).toNat =
      offset.toNat - byteLength before := by
    rw [Word.toNat_sub hsub, hstartNat]
  refine ⟨{ offset, row := UInt64.ofNat row,
            column := offset - UInt64.ofNat (byteLength before) }, ?_, rfl, ?_⟩
  · -- the offset is within the text, so it has a location
    have hge : ¬ (ofContent content).size < offset := by
      rw [UInt64.lt_iff_toNat_lt, toNat_size hsize]
      omega
    rw [ofOffset, if_neg hge]
    simp only [hrowOf, hstartOf, bind, Except.bind, pure, Except.pure, hsub]
  · -- the location has the row and column of its offset
    rw [← UInt64.toNat_ofNat_of_lt' hrowLt] at hrow
    apply hrow.isIn
    · show offset.toNat = byteLength before + (offset - UInt64.ofNat (byteLength before)).toNat
      omega
    · show (offset - UInt64.ofNat (byteLength before)).toNat ≤ byteLength line
      omega

/-- From an offset, the location of that offset is found. -/
theorem ofOffset_eq_some_iff {offset : UInt64} {location : Location}
    (hsize : content.utf8ByteSize < UInt64.size) :
    (ofContent content).ofOffset offset = .ok (some location) ↔
      location.offset = offset ∧ location.IsIn content := by
  constructor
  · intro hof
    -- only offsets within the text have a location
    obtain hlt | hle := Nat.lt_or_ge content.utf8ByteSize offset.toNat
    · rw [ofOffset_eq_none hsize hlt] at hof
      simp at hof
    · obtain ⟨found, hfound, hoffset, hin⟩ := exists_ofOffset hsize hle
      rw [hof] at hfound
      obtain rfl : location = found := by simpa using hfound
      exact ⟨hoffset, hin⟩
  · -- a location in the text is determined by its offset
    rintro ⟨rfl, hin⟩
    obtain ⟨found, hfound, hoffset, hfoundIn⟩ := exists_ofOffset hsize hin.offset_le
    rw [hfound, hfoundIn.eq hin hoffset]

end LineIndex

/-- A location of a text takes it apart at a row, with a column of the row. -/
theorem Location.isIn_iff {content : String} {location : Location}
    (hsize : content.utf8ByteSize < UInt64.size) :
    location.IsIn content ↔
      ∃ before line after, IsRow content.toList location.row.toNat before line after ∧
        location.offset.toNat = byteLength before + location.column.toNat ∧
        location.column.toNat ≤ byteLength line := by
  constructor
  · intro hin
    -- the row of the location is the one that its offset lies in
    obtain ⟨before, line, after, hrow, hstart, hstop⟩ :=
      LineIndex.exists_isRow_of_offset hsize hin.offset_le
    obtain ⟨column, hcolumn⟩ : ∃ column, location.offset.toNat = byteLength before + column :=
      ⟨location.offset.toNat - byteLength before, by omega⟩
    have hrowEq := hin.row_eq
    have hcolumnEq := hin.column_eq
    rw [hcolumn, hrow.rowAt_eq (by omega)] at hrowEq
    rw [hcolumn, hrow.columnAt_eq (by omega)] at hcolumnEq
    rw [← hrowEq] at hrow
    exact ⟨before, line, after, hrow, by omega, by omega⟩
  · rintro ⟨before, line, after, hrow, hoffset, hcolumn⟩
    exact hrow.isIn hoffset hcolumn

/-- A column of a row is looked up by adding it to where the row starts. -/
theorem IsRow.locate_eq {content : String} {row : UInt64} {before line after : List Char}
    (h : IsRow content.toList row.toNat before line after)
    (hsize : content.utf8ByteSize < UInt64.size) (column : UInt64) :
    (LineIndex.ofContent content).locate row column =
      if byteLength before + column.toNat < UInt64.size then
        .ok (if byteLength line < column.toNat then none
          else some { offset := UInt64.ofNat (byteLength before + column.toNat), row, column })
      else .error .addition := by
  rw [LineIndex.locate, h.boundsOf hsize]
  simp only [bind, Except.bind, pure, Except.pure]
  -- the offset is a sum of words, which may overflow
  by_cases hadd : byteLength before + column.toNat < UInt64.size
  · have hsum := Word.add_ofNat hadd
    rw [UInt64.ofNat_toNat] at hsum
    -- past the end of the row, no location is there
    have hpast : UInt64.ofNat (byteLength before + byteLength line) <
        UInt64.ofNat (byteLength before + column.toNat) ↔ byteLength line < column.toNat := by
      rw [UInt64.lt_iff_toNat_lt, h.toNat_stop hsize, UInt64.toNat_ofNat_of_lt' hadd]
      omega
    simp only [hsum, hpast, if_pos hadd]
  · rw [Word.add, h.toNat_start hsize, if_neg hadd, if_neg hadd]

namespace LineIndex

variable {content : String}

/-- A row past the last one has no locations. -/
theorem locate_eq_none {row : UInt64} (h : (ofContent content).rowCount ≤ row.toNat)
    (column : UInt64) : (ofContent content).locate row column = .ok none := by
  rw [locate, boundsOf_eq_none h]
  rfl

/-- From a row and a column, the location with that row and that column is found. -/
theorem locate_eq_some_iff {row column : UInt64} {location : Location}
    (hsize : content.utf8ByteSize < UInt64.size) :
    (ofContent content).locate row column = .ok (some location) ↔
      location.row = row ∧ location.column = column ∧ location.IsIn content := by
  constructor
  · intro hlocate
    -- the row exists, or nothing is located in it
    obtain hlt | hge := Nat.lt_or_ge row.toNat (ofContent content).rowCount
    · obtain ⟨before, line, after, hrow⟩ := exists_isRow hlt
      rw [hrow.locate_eq hsize] at hlocate
      split at hlocate
      · -- the sum is in range, and the column within its row
        rename_i hadd
        split at hlocate
        · simp at hlocate
        · rename_i hcolumn
          obtain rfl := Option.some.inj (Except.ok.inj hlocate)
          exact ⟨rfl, rfl, hrow.isIn (UInt64.toNat_ofNat_of_lt' hadd) (Nat.le_of_not_lt hcolumn)⟩
      · simp at hlocate
    · rw [locate_eq_none hge] at hlocate
      simp at hlocate
  · rintro ⟨rfl, rfl, hin⟩
    -- a location in the text has its column within its row
    obtain ⟨before, line, after, hrow, hoffset, hcolumn⟩ := (Location.isIn_iff hsize).1 hin
    have hbound := hin.offset_le
    rw [hrow.locate_eq hsize, if_pos (by omega), if_neg (by omega), ← hoffset, UInt64.ofNat_toNat]

end LineIndex

/-! ## Order -/

namespace Location

variable {content : String} {a b : Location}

/-- A later offset is in a later row, or further on in the same row. -/
private theorem IsIn.lt_of_offset_lt (ha : a.IsIn content) (hb : b.IsIn content)
    (hsize : content.utf8ByteSize < UInt64.size) (h : a.offset < b.offset) :
    a.row < b.row ∨ a.row = b.row ∧ a.column < b.column := by
  rw [UInt64.lt_iff_toNat_lt] at h
  simp only [UInt64.lt_iff_toNat_lt, ← UInt64.toNat_inj]
  -- rows count the breaks before an offset
  have hle : a.row.toNat ≤ b.row.toNat := by
    rw [ha.row_eq, hb.row_eq]
    exact (List.take_sublist_take_left (Nat.le_of_lt h)).count_le _
  obtain hlt | heq := Nat.lt_or_eq_of_le hle
  · exact .inl hlt
  · -- the same row starts at the same offset
    obtain ⟨before, line, after, hrow, hoffset, -⟩ := (isIn_iff hsize).1 ha
    obtain ⟨before', line', after', hrow', hoffset', -⟩ := (isIn_iff hsize).1 hb
    have hstart := hrow.startOf hsize
    rw [heq, hrow'.startOf hsize] at hstart
    have hstarts : UInt64.ofNat (byteLength before') = UInt64.ofNat (byteLength before) := by
      simpa using hstart
    rw [← UInt64.toNat_inj, hrow.toNat_start hsize, hrow'.toNat_start hsize] at hstarts
    exact .inr ⟨heq, by omega⟩

/-- The row and the column alone, as they are known without the text. -/
def withoutOffset (location : Location) : Location :=
  { location with offset := 0 }

/-- Locations of a text are in the order of their rows and columns. -/
theorem IsIn.compare_eq (ha : a.IsIn content) (hb : b.IsIn content)
    (hsize : content.utf8ByteSize < UInt64.size) :
    a.compare b = a.withoutOffset.compare b.withoutOffset := by
  show (Ord.compare a.offset b.offset).then
      ((Ord.compare a.row b.row).then (Ord.compare a.column b.column)) =
    (Ord.compare a.row b.row).then (Ord.compare a.column b.column)
  -- where offsets differ, rows and columns differ in the same direction
  cases hoffset : Ord.compare a.offset b.offset with
  | lt =>
    obtain hrow | ⟨hrow, hcolumn⟩ := ha.lt_of_offset_lt hb hsize (Std.compare_eq_lt.1 hoffset)
    · rw [Std.compare_eq_lt.2 hrow]
      rfl
    · rw [Std.compare_eq_iff_eq.2 hrow, Std.compare_eq_lt.2 hcolumn]
      rfl
  | eq => rfl
  | gt =>
    obtain hrow | ⟨hrow, hcolumn⟩ := hb.lt_of_offset_lt ha hsize (Std.compare_eq_gt.1 hoffset)
    · rw [Std.compare_eq_gt.2 hrow]
      rfl
    · rw [Std.compare_eq_iff_eq.2 hrow.symm, Std.compare_eq_gt.2 hcolumn]
      rfl

end Location

/-- The line index of a text whose length is a word gives every offset up to the end of the text its
row and column, and no other offset; it never fails. The row and the column lead back to the
location, and every location that is found for a row and a column is the one of its offset. Later
offsets have later rows, or later columns in the same row, so spans of one file are ordered alike
with and without their offsets. -/
theorem line_index_round_trips (content : String) (hsize : content.utf8ByteSize < UInt64.size) :
    (∀ offset : UInt64, content.utf8ByteSize < offset.toNat →
      (LineIndex.ofContent content).ofOffset offset = .ok none) ∧
    (∀ offset : UInt64, offset.toNat ≤ content.utf8ByteSize → ∃ location : Location,
      (LineIndex.ofContent content).ofOffset offset = .ok (some location) ∧
      location.offset = offset ∧
      location.row.toNat = rowAt content.toByteArray.data.toList offset.toNat ∧
      location.column.toNat = columnAt content.toByteArray.data.toList offset.toNat ∧
      (LineIndex.ofContent content).locate location.row location.column = .ok (some location)) ∧
    (∀ (row column : UInt64) (location : Location),
      (LineIndex.ofContent content).locate row column = .ok (some location) →
      location.row = row ∧ location.column = column ∧
      (LineIndex.ofContent content).ofOffset location.offset = .ok (some location)) ∧
    (∀ (offset offset' : UInt64) (a b : Location),
      (LineIndex.ofContent content).ofOffset offset = .ok (some a) →
      (LineIndex.ofContent content).ofOffset offset' = .ok (some b) →
      (offset < offset' → a.row < b.row ∨ a.row = b.row ∧ a.column < b.column) ∧
      ∀ (file : FileNumber) (stop stop' : Location),
        Span.compareStart ⟨file, a, stop⟩ ⟨file, b, stop'⟩ =
          Span.compareStart ⟨file, a.withoutOffset, stop⟩ ⟨file, b.withoutOffset, stop'⟩) := by
  refine ⟨fun offset => LineIndex.ofOffset_eq_none hsize, ?_, ?_, ?_⟩
  · -- from an offset to its row and column and back
    intro offset hle
    obtain ⟨location, hof, rfl, hin⟩ := LineIndex.exists_ofOffset hsize hle
    exact ⟨location, hof, rfl, hin.row_eq, hin.column_eq,
      (LineIndex.locate_eq_some_iff hsize).2 ⟨rfl, rfl, hin⟩⟩
  · -- from a row and column to their offset and back
    intro row column location hlocate
    obtain ⟨hrow, hcolumn, hin⟩ := (LineIndex.locate_eq_some_iff hsize).1 hlocate
    exact ⟨hrow, hcolumn, (LineIndex.ofOffset_eq_some_iff hsize).2 ⟨rfl, hin⟩⟩
  · -- the order of offsets is that of rows and columns
    intro offset offset' a b ha hb
    obtain ⟨rfl, hina⟩ := (LineIndex.ofOffset_eq_some_iff hsize).1 ha
    obtain ⟨rfl, hinb⟩ := (LineIndex.ofOffset_eq_some_iff hsize).1 hb
    refine ⟨hina.lt_of_offset_lt hinb hsize, fun file stop stop' => ?_⟩
    exact congrArg (Ordering.then _) (hina.compare_eq hinb hsize)

namespace Accents

/-- Three rows, the one in the middle empty; each of the letters takes two bytes. -/
def content : String := "é;\n\nà"

end Accents

/-- A character of two bytes, an empty row, and offsets in the first and the last row. -/
theorem line_index_round_trips_accents :
    Accents.content.utf8ByteSize < UInt64.size ∧ ∃ a b : Location,
      (LineIndex.ofContent Accents.content).ofOffset 3 = .ok (some a) ∧
      a.row.toNat = 0 ∧ a.column.toNat = 3 ∧
      (LineIndex.ofContent Accents.content).ofOffset 6 = .ok (some b) ∧
      b.row.toNat = 2 ∧ b.column.toNat = 1 ∧
      (LineIndex.ofContent Accents.content).locate b.row b.column = .ok (some b) ∧
      (a.row < b.row ∨ a.row = b.row ∧ a.column < b.column) := by
  have hsize : Accents.content.utf8ByteSize < UInt64.size := by decide
  obtain ⟨-, hfound, -, horder⟩ := line_index_round_trips Accents.content hsize
  obtain ⟨a, ha, -, harow, hacolumn, -⟩ := hfound 3 (by decide)
  obtain ⟨b, hb, -, hbrow, hbcolumn, hlocate⟩ := hfound 6 (by decide)
  have hrow : rowAt Accents.content.toByteArray.data.toList 3 = 0 := by decide
  have hcolumn : columnAt Accents.content.toByteArray.data.toList 3 = 3 := by decide
  have hrow' : rowAt Accents.content.toByteArray.data.toList 6 = 2 := by decide
  have hcolumn' : columnAt Accents.content.toByteArray.data.toList 6 = 1 := by decide
  exact ⟨hsize, a, b, ha, harow.trans hrow, hacolumn.trans hcolumn, hb, hbrow.trans hrow',
    hbcolumn.trans hcolumn', hlocate, (horder 3 6 a b ha hb).1 (by decide)⟩

end MixinSheet
