import MixinSheet.Proofs.Bytes
import MixinSheet.Source.LineIndex

/-!
# Rows of a text

The line breaks of a text divide it into rows. A line index knows a row only by the offsets of the
line breaks around it; here the text is taken apart at the row, and the offsets turn out to be the
lengths of the parts. Whatever is said of rows elsewhere is said of these parts.

Offsets are words, so all of this needs a text whose length is one.

## Key results

- `IsRow`: a text taken apart at one of its rows
- `IsRow.exists_of_getElem?`, `IsRow.getElem?_splitOn`: the rows of a text are what takes it apart
- `IsRow.boundsOf`: a line index gives the offsets at which the row starts and ends
- `LineIndex.boundsOf_eq_none`: and nothing for a row that is not there
-/

namespace MixinSheet

open Utf8

/-- The rows of a text, without the line breaks between them. -/
def Text.rows (content : String) : List String :=
  (content.toList.splitOn '\n').map String.ofList

/-- A text taken apart at a row: what comes before it, the row without its line break, and what
comes after it. -/
structure IsRow (text : List Char) (row : Nat) (before line after : List Char) : Prop where
  text_eq : text = before ++ (line ++ after)
  count_before : before.count '\n' = row
  before_ends : before = [] ∨ ∃ init, before = init ++ ['\n']
  unbroken : '\n' ∉ line
  after_starts : after = [] ∨ ∃ rest, after = '\n' :: rest

namespace IsRow

variable {text before line after : List Char} {row : Nat}

/-- Nothing stands before the first row of a text. -/
theorem before_eq_nil (h : IsRow text 0 before line after) : before = [] := by
  obtain hnil | ⟨init, rfl⟩ := h.before_ends
  · exact hnil
  · have hcount := h.count_before
    simp at hcount

/-- Any later row has a line break right before it, and the row number counts the breaks before
that. -/
private theorem exists_init (h : IsRow text (row + 1) before line after) :
    ∃ init, before = init ++ ['\n'] ∧ init.count '\n' = row := by
  have hcount := h.count_before
  obtain rfl | ⟨init, rfl⟩ := h.before_ends
  · simp at hcount
  · refine ⟨init, rfl, ?_⟩
    simpa [List.count_append] using hcount

/-- A line break in front makes a row the next one. -/
private theorem cons_break (h : IsRow text row before line after) :
    IsRow ('\n' :: text) (row + 1) ('\n' :: before) line after where
  text_eq := by rw [h.text_eq, List.cons_append]
  count_before := by rw [List.count_cons_self, h.count_before]
  before_ends := by
    obtain rfl | ⟨init, rfl⟩ := h.before_ends
    · exact .inr ⟨[], rfl⟩
    · exact .inr ⟨'\n' :: init, rfl⟩
  unbroken := h.unbroken
  after_starts := h.after_starts

/-- Another character in front belongs to the first row. -/
private theorem cons_first {c : Char} (h : IsRow text 0 before line after) (hc : c ≠ '\n') :
    IsRow (c :: text) 0 [] (c :: line) after where
  text_eq := by rw [h.text_eq, h.before_eq_nil, List.nil_append, List.nil_append, List.cons_append]
  count_before := rfl
  before_ends := .inl rfl
  unbroken := fun hmem => (List.mem_cons.1 hmem).elim (fun heq => hc heq.symm) h.unbroken
  after_starts := h.after_starts

/-- Another character in front leaves the later rows as they are. -/
private theorem cons_later {c : Char} (h : IsRow text (row + 1) before line after) (hc : c ≠ '\n') :
    IsRow (c :: text) (row + 1) (c :: before) line after where
  text_eq := by rw [h.text_eq, List.cons_append]
  count_before := by rw [List.count_cons_of_ne hc, h.count_before]
  before_ends := by
    obtain ⟨init, rfl, -⟩ := h.exists_init
    exact .inr ⟨c :: init, rfl⟩
  unbroken := h.unbroken
  after_starts := h.after_starts

/-- Every row of a text takes it apart. -/
theorem exists_of_getElem? (h : (text.splitOn '\n')[row]? = some line) :
    ∃ before after, IsRow text row before line after := by
  induction text generalizing row line with
  | nil =>
    rw [List.splitOn_nil, List.getElem?_singleton] at h
    obtain ⟨rfl, hline⟩ : row = 0 ∧ [] = line := by simpa using h
    subst hline
    exact ⟨[], [], rfl, rfl, .inl rfl, List.not_mem_nil, .inl rfl⟩
  | cons c text ih =>
    rw [List.splitOn_cons_eq_if_modifyHead] at h
    -- a line break ends the first row; any other character belongs to it
    by_cases hc : c = '\n'
    · subst hc
      rw [if_pos (beq_self_eq_true '\n')] at h
      cases row with
      | zero =>
        obtain rfl : [] = line := Option.some.inj h
        exact ⟨[], '\n' :: text, rfl, rfl, .inl rfl, List.not_mem_nil, .inr ⟨text, rfl⟩⟩
      | succ row =>
        obtain ⟨before, after, hrow⟩ := ih h
        exact ⟨'\n' :: before, after, hrow.cons_break⟩
    · -- the character is put in front of the first row, and later rows move by one character
      rw [if_neg (by simpa using hc), List.getElem?_modifyHead] at h
      cases row with
      | zero =>
        obtain ⟨first, hfirst, rfl⟩ := Option.map_eq_some_iff.1 h
        obtain ⟨before, after, hrow⟩ := ih hfirst
        exact ⟨[], after, hrow.cons_first hc⟩
      | succ row =>
        obtain ⟨before, after, hrow⟩ := ih h
        exact ⟨c :: before, after, hrow.cons_later hc⟩

/-- The bytes of a text are those before a row, in it and after it. -/
theorem byteLength_eq (h : IsRow text row before line after) :
    byteLength text = byteLength before + (byteLength line + byteLength after) := by
  rw [h.text_eq, byteLength_append, byteLength_append]

end IsRow

/-- A text has one row more than it has line breaks. -/
private theorem length_splitOn (text : List Char) :
    (text.splitOn '\n').length = text.count '\n' + 1 := by
  induction text with
  | nil => rfl
  | cons c text ih =>
    rw [List.splitOn_cons_eq_if_modifyHead, List.count_cons]
    split <;> simp [ih]

/-- The row at which a text is taken apart is one of its rows. -/
theorem IsRow.getElem?_splitOn {text before line after : List Char} {row : Nat}
    (h : IsRow text row before line after) : (text.splitOn '\n')[row]? = some line := by
  -- what starts with the row has it as its first row
  have hfirst : ((line ++ after).splitOn '\n')[0]? = some line := by
    obtain rfl | ⟨rest, rfl⟩ := h.after_starts
    · rw [List.append_nil, List.splitOn_eq_singleton h.unbroken]
      rfl
    · rw [List.splitOn_append_cons_self_of_not_mem h.unbroken]
      rfl
  cases row with
  | zero => rwa [h.text_eq, h.before_eq_nil, List.nil_append]
  | succ row =>
    -- the row comes after a line break, and after as many rows as its number says
    obtain ⟨init, rfl, hcount⟩ := h.exists_init
    have hlength : (init.splitOn '\n').length = row + 1 := by rw [length_splitOn, hcount]
    rw [h.text_eq, List.append_assoc, List.singleton_append, List.splitOn_append_cons_self,
      List.getElem?_append_right (Nat.le_of_eq hlength), hlength, Nat.sub_self, hfirst]

/-! ## Line breaks -/

namespace LineIndex

/-- The line breaks of a text and its continuation, where the second part starts after the first. -/
private theorem breaksFrom_append (offset : Nat) (text more : List Char) :
    breaksFrom offset (text ++ more) =
      breaksFrom offset text ++ breaksFrom (offset + byteLength text) more := by
  induction text generalizing offset with
  | nil => simp [breaksFrom, byteLength]
  | cons c text ih =>
    simp only [List.cons_append, breaksFrom, byteLength, ih, ← Nat.add_assoc]
    split <;> simp

/-- There is one offset for each line break. -/
private theorem length_breaksFrom (offset : Nat) (text : List Char) :
    (breaksFrom offset text).length = text.count '\n' := by
  induction text generalizing offset with
  | nil => rfl
  | cons c text ih =>
    simp only [breaksFrom, List.count_cons, beq_iff_eq]
    split <;> simp [ih]

/-- A text without a line break has no offsets. -/
private theorem breaksFrom_eq_nil {text : List Char} (h : '\n' ∉ text) (offset : Nat) :
    breaksFrom offset text = [] := by
  rw [← List.length_eq_zero_iff, length_breaksFrom, List.count_eq_zero]
  exact h

/-- The offset of a line break lies within the text. -/
theorem le_of_mem_breaksFrom {offset brk : Nat} {text : List Char}
    (h : brk ∈ breaksFrom offset text) : offset ≤ brk ∧ brk < offset + byteLength text := by
  induction text generalizing offset with
  | nil => simp [breaksFrom] at h
  | cons c text ih =>
    have hc : 0 < c.utf8Size := c.utf8Size_pos
    -- a break that comes later lies in the rest of the text
    have hlater : brk ∈ breaksFrom (offset + c.utf8Size) text →
        offset ≤ brk ∧ brk < offset + byteLength (c :: text) := by
      intro hmem
      have := ih hmem
      simp only [byteLength]
      omega
    simp only [breaksFrom] at h
    split at h
    · obtain rfl | hmem := List.mem_cons.1 h
      · simp only [byteLength]
        omega
      · exact hlater hmem
    · exact hlater h

/-- The line breaks of a text are found in order. -/
theorem pairwise_breaksFrom (offset : Nat) (text : List Char) :
    (breaksFrom offset text).Pairwise (· < ·) := by
  induction text generalizing offset with
  | nil => exact .nil
  | cons c text ih =>
    simp only [breaksFrom]
    split
    · refine .cons (fun brk hmem => ?_) (ih _)
      have := (le_of_mem_breaksFrom hmem).1
      have hc : 0 < c.utf8Size := c.utf8Size_pos
      omega
    · exact ih _

end LineIndex

namespace IsRow

open LineIndex

variable {text before line after : List Char} {row : Nat}

/-- The line breaks before a row and those after it are all the line breaks. -/
private theorem breaksFrom_eq (h : IsRow text row before line after) :
    breaksFrom 0 text =
      breaksFrom 0 before ++ breaksFrom (byteLength before + byteLength line) after := by
  rw [h.text_eq, breaksFrom_append, breaksFrom_append, breaksFrom_eq_nil h.unbroken,
    List.nil_append, Nat.zero_add]

/-- The row ends where its line break stands, or with the text. -/
theorem getElem?_breaksFrom_getD (h : IsRow text row before line after) :
    ((breaksFrom 0 text)[row]?).getD (byteLength text) = byteLength before + byteLength line := by
  have hlength : (breaksFrom 0 before).length = row := by
    rw [length_breaksFrom, h.count_before]
  rw [h.byteLength_eq, h.breaksFrom_eq, List.getElem?_append_right (Nat.le_of_eq hlength), hlength,
    Nat.sub_self]
  obtain rfl | ⟨rest, rfl⟩ := h.after_starts
  · rfl
  · simp [breaksFrom]

/-- A later row starts behind the line break of the row before it. -/
theorem getElem?_breaksFrom (h : IsRow text (row + 1) before line after) :
    ∃ brk, (breaksFrom 0 text)[row]? = some brk ∧ byteLength before = brk + 1 := by
  obtain ⟨init, rfl, hcount⟩ := h.exists_init
  have hlength : (breaksFrom 0 init).length = row := by rw [length_breaksFrom, hcount]
  refine ⟨byteLength init, ?_, ?_⟩
  · rw [h.breaksFrom_eq, breaksFrom_append, List.append_assoc,
      List.getElem?_append_right (Nat.le_of_eq hlength), hlength]
    simp [breaksFrom]
  · rw [byteLength_append]
    rfl

end IsRow

/-! ## The line index of a text -/

namespace LineIndex

/-- The `i`-th line break of an index, as a word. -/
theorem getElem?_breaks (content : String) (i : Nat) :
    (ofContent content).breaks[i]? = (breaksFrom 0 content.toList)[i]?.map UInt64.ofNat := by
  simp [ofContent]

/-- The size of a text that a word can hold is kept exactly. -/
theorem toNat_size {content : String} (hsize : content.utf8ByteSize < UInt64.size) :
    (ofContent content).size.toNat = content.utf8ByteSize := by
  rw [ofContent, byteLength_toList, UInt64.toNat_ofNat_of_lt' hsize]

/-- The index of a text knows as many rows as the text has. -/
theorem rowCount_ofContent (content : String) :
    (ofContent content).rowCount = (Text.rows content).length := by
  simp [rowCount, ofContent, Text.rows, length_breaksFrom, length_splitOn]

/-- A text has as many rows as its line index says. -/
theorem exists_isRow {content : String} {row : Nat} (h : row < (ofContent content).rowCount) :
    ∃ before line after, IsRow content.toList row before line after := by
  rw [rowCount_ofContent, Text.rows, List.length_map] at h
  obtain ⟨before, after, hrow⟩ := IsRow.exists_of_getElem? (List.getElem?_eq_getElem h)
  exact ⟨before, _, after, hrow⟩

/-- A row beyond the last one has no bounds. -/
theorem boundsOf_eq_none {content : String} {row : Nat}
    (h : (ofContent content).rowCount ≤ row) : (ofContent content).boundsOf row = .ok none := by
  obtain ⟨row, rfl⟩ : ∃ before, row = before + 1 := ⟨row - 1, by unfold rowCount at h; omega⟩
  have hnone : (ofContent content).breaks[row]? = none := by
    rw [Array.getElem?_eq_none_iff]
    unfold rowCount at h
    omega
  rw [boundsOf, startOf, hnone]
  rfl

end LineIndex

namespace IsRow

open LineIndex

variable {content : String} {before line after : List Char} {row : Nat}

/-- A row of a text in the list of its rows. -/
theorem getElem?_rows (h : IsRow content.toList row before line after) :
    (Text.rows content)[row]? = some (String.ofList line) := by
  rw [Text.rows, List.getElem?_map, h.getElem?_splitOn, Option.map_some]

/-- The size of a content in the parts that a row cuts it into. -/
theorem utf8ByteSize_eq (h : IsRow content.toList row before line after) :
    content.utf8ByteSize = byteLength before + (byteLength line + byteLength after) := by
  rw [← byteLength_toList, h.byteLength_eq]

/-- The start of a row is a word. -/
theorem toNat_start (h : IsRow content.toList row before line after)
    (hsize : content.utf8ByteSize < UInt64.size) :
    (UInt64.ofNat (byteLength before)).toNat = byteLength before := by
  have := h.utf8ByteSize_eq
  exact UInt64.toNat_ofNat_of_lt' (by omega)

/-- The end of a row is a word. -/
theorem toNat_stop (h : IsRow content.toList row before line after)
    (hsize : content.utf8ByteSize < UInt64.size) :
    (UInt64.ofNat (byteLength before + byteLength line)).toNat =
      byteLength before + byteLength line := by
  have := h.utf8ByteSize_eq
  exact UInt64.toNat_ofNat_of_lt' (by omega)

/-- A row starts after the bytes before it. -/
theorem startOf (h : IsRow content.toList row before line after)
    (hsize : content.utf8ByteSize < UInt64.size) :
    (ofContent content).startOf row = .ok (some (UInt64.ofNat (byteLength before))) := by
  cases row with
  | zero =>
    rw [h.before_eq_nil]
    rfl
  | succ row =>
    -- the row starts one byte after the break before it
    obtain ⟨brk, hbrk, hstart⟩ := h.getElem?_breaksFrom
    have hlength := h.utf8ByteSize_eq
    have hadd : Word.add (UInt64.ofNat brk) (UInt64.ofNat 1) = .ok (UInt64.ofNat (brk + 1)) :=
      Word.add_ofNat (by omega)
    rw [← hstart] at hadd
    rw [LineIndex.startOf, getElem?_breaks, hbrk]
    exact congrArg (Except.map some) hadd

/-- A line index gives the offsets at which a row starts and ends. -/
theorem boundsOf (h : IsRow content.toList row before line after)
    (hsize : content.utf8ByteSize < UInt64.size) :
    (ofContent content).boundsOf row = .ok (some (UInt64.ofNat (byteLength before),
      UInt64.ofNat (byteLength before + byteLength line))) := by
  have hstop : ((ofContent content).breaks[row]?).getD (ofContent content).size =
      UInt64.ofNat (byteLength before + byteLength line) := by
    rw [getElem?_breaks, ofContent, Option.getD_map, h.getElem?_breaksFrom_getD]
  rw [LineIndex.boundsOf, h.startOf hsize, ← hstop]
  rfl

end IsRow

end MixinSheet
