import MixinSheet.Text.Utf8

/-!
# The bytes of a text

A text is written as bytes, one to four for a character. The byte of a line feed stands for a line
break and for nothing else, so that line breaks can be counted among the bytes without knowing where
characters begin.

A part of a text can be cut out where both of its ends fall between two characters. An end that
falls inside of a character is the only reason why a part of the text cannot be cut out.

## Key results

- `Utf8.bytes_toList`: the bytes of a text are those of its characters
- `Utf8.count_bytes`: there are as many line feeds among the bytes as line breaks in the text
- `Utf8.cut?_eq_some_iff`: what is cut out of a text
- `Utf8.cut?_eq_none_iff`: when nothing can be cut out
-/

namespace MixinSheet.Utf8

/-- The bytes of a list of characters. -/
def bytes (text : List Char) : List UInt8 :=
  text.flatMap String.utf8EncodeChar

/-- Texts in a row have their bytes in a row. -/
theorem bytes_append (text more : List Char) : bytes (text ++ more) = bytes text ++ bytes more :=
  List.flatMap_append

/-- The bytes of the first character come first. -/
private theorem bytes_cons (c : Char) (text : List Char) :
    bytes (c :: text) = String.utf8EncodeChar c ++ bytes text :=
  List.flatMap_cons

/-- The bytes of a text are those that it is stored as. -/
theorem bytes_toList (content : String) :
    bytes content.toList = content.toByteArray.data.toList := by
  rw [← String.utf8Encode_toList, List.utf8Encode, List.data_toByteArray]
  rfl

/-- The bytes of a text are as many as its length says. -/
theorem length_bytes (text : List Char) : (bytes text).length = byteLength text := by
  induction text with
  | nil => rfl
  | cons c text ih =>
    rw [bytes_cons, List.length_append, String.length_utf8EncodeChar, ih, byteLength]

/-- The length in bytes is the size of the stored text. -/
theorem byteLength_toList (content : String) :
    byteLength content.toList = content.utf8ByteSize := by
  rw [← length_bytes, bytes_toList]
  rfl

/-- The stored text of some characters has the size of their bytes. -/
theorem utf8ByteSize_ofList (text : List Char) :
    (String.ofList text).utf8ByteSize = byteLength text := by
  rw [← byteLength_toList, String.toList_ofList]

/-- The byte that stands for a line break. -/
def lineFeed : UInt8 := 10

/-- A line break is a single byte. -/
private theorem utf8EncodeChar_break : String.utf8EncodeChar '\n' = [lineFeed] := rfl

/-- No other character has a line feed among its bytes. -/
private theorem lineFeed_not_mem {c : Char} (h : c ≠ '\n') :
    lineFeed ∉ String.utf8EncodeChar c := by
  have hval : c.val.toNat ≠ 10 := fun heq => h (Char.toNat_inj.1 heq)
  have hbyte {n : Nat} (hn : n % 256 ≠ 10) : lineFeed ≠ UInt8.ofNat n := by
    intro heq
    have htoNat := congrArg UInt8.toNat heq
    rw [UInt8.toNat_ofNat'] at htoNat
    exact hn htoNat.symm
  -- a character of one byte is that byte, and all bytes of a longer one are at least 128
  simp only [String.utf8EncodeChar]
  split
  · exact fun hmem => hbyte (by omega) (List.mem_singleton.1 hmem)
  · split
    · simp only [List.mem_cons, List.not_mem_nil, or_false, not_or]
      exact ⟨hbyte (by omega), hbyte (by omega)⟩
    · split
      · simp only [List.mem_cons, List.not_mem_nil, or_false, not_or]
        exact ⟨hbyte (by omega), hbyte (by omega), hbyte (by omega)⟩
      · simp only [List.mem_cons, List.not_mem_nil, or_false, not_or]
        exact ⟨hbyte (by omega), hbyte (by omega), hbyte (by omega), hbyte (by omega)⟩

/-- There are as many line feeds among the bytes of a text as it has line breaks. -/
theorem count_bytes (text : List Char) : (bytes text).count lineFeed = text.count '\n' := by
  induction text with
  | nil => rfl
  | cons c text ih =>
    rw [bytes_cons, List.count_append, ih]
    by_cases hc : c = '\n'
    · rw [hc, utf8EncodeChar_break, List.count_cons_self, List.count_cons_self, List.count_nil,
        Nat.add_comm]
    · rw [List.count_eq_zero.2 (lineFeed_not_mem hc), List.count_cons_of_ne hc, Nat.zero_add]

/-- Without a line break there is no line feed among the bytes. -/
theorem lineFeed_not_mem_bytes {text : List Char} (h : '\n' ∉ text) : lineFeed ∉ bytes text := by
  rw [← List.count_eq_zero, count_bytes, List.count_eq_zero]
  exact h

/-! ## Parts of a text -/

/-- What is left after dropping some bytes is what stands behind that many bytes. -/
private theorem dropBytes?_eq_some_iff {text tail : List Char} {n : Nat} :
    dropBytes? text n = some tail ↔ ∃ head, text = head ++ tail ∧ byteLength head = n := by
  constructor
  · intro h
    -- the cases of the recursion: at the cut, past the end, a whole character before the cut, and a
    -- cut inside of a character
    fun_induction dropBytes? text n with
    | case1 text =>
      obtain rfl := Option.some.inj h
      exact ⟨[], rfl, rfl⟩
    | case2 n => simp at h
    | case3 c rest n hle ih =>
      obtain ⟨head, rfl, hlength⟩ := ih h
      refine ⟨c :: head, rfl, ?_⟩
      rw [byteLength, hlength]
      omega
    | case4 c rest n hlt => simp at h
  · rintro ⟨head, rfl, rfl⟩
    exact dropBytes?_append head tail

/-- What is taken is what stands in that many bytes at the start. -/
private theorem takeBytes?_eq_some_iff {text head : List Char} {n : Nat} :
    takeBytes? text n = some head ↔ ∃ tail, text = head ++ tail ∧ byteLength head = n := by
  constructor
  · intro h
    -- the cases are those of `dropBytes?_eq_some_iff`, with what was passed over kept
    fun_induction takeBytes? text n generalizing head with
    | case1 text =>
      obtain rfl := Option.some.inj h
      exact ⟨text, rfl, rfl⟩
    | case2 n => simp at h
    | case3 c rest n hle ih =>
      obtain ⟨head, hhead, rfl⟩ := Option.map_eq_some_iff.1 h
      obtain ⟨tail, rfl, hlength⟩ := ih hhead
      refine ⟨tail, rfl, ?_⟩
      rw [byteLength, hlength]
      omega
    | case4 c rest n hlt => simp at h
  · rintro ⟨tail, rfl, rfl⟩
    exact takeBytes?_append head tail

/-- A text can be split behind a number of bytes in one way only. -/
theorem eq_of_byteLength_eq {head head' tail tail' : List Char} (h : head ++ tail = head' ++ tail')
    (hlength : byteLength head = byteLength head') : head = head' := by
  have hhead := takeBytes?_append head tail
  rw [h, hlength, takeBytes?_append] at hhead
  exact (Option.some.inj hhead).symm

/-- Every character takes at least one byte. -/
theorem eq_nil_of_byteLength_eq_zero {text : List Char} (h : byteLength text = 0) : text = [] := by
  cases text with
  | nil => rfl
  | cons c rest =>
    have hpos := c.utf8Size_pos
    rw [byteLength] at h
    omega

/-- What is cut out stands between as many bytes before it and after it. -/
theorem cut?_eq_some_iff {text part : String} {start stop : Nat} :
    cut? text start stop = some part ↔
      ∃ before after, text.toList = before ++ (part.toList ++ after) ∧
        byteLength before = start ∧ byteLength before + byteLength part.toList = stop := by
  rw [cut?]
  constructor
  · intro h
    split at h
    · simp only [Option.bind_eq_bind, Option.bind_eq_some_iff, dropBytes?_eq_some_iff,
        takeBytes?_eq_some_iff, Option.some.injEq] at h
      -- the part is cut in two steps: what comes before it is dropped, then the part is taken
      obtain ⟨tail, ⟨before, htext, rfl⟩, part, ⟨after, rfl, hlength⟩, rfl⟩ := h
      refine ⟨before, after, ?_, rfl, ?_⟩
      · rw [htext, String.toList_ofList]
      · rw [String.toList_ofList]
        omega
    · simp at h
  · rintro ⟨before, after, htext, rfl, rfl⟩
    rw [if_pos (by omega), htext, dropBytes?_append, Nat.add_sub_cancel_left]
    simp only [Option.bind_eq_bind, Option.bind_some, takeBytes?_append, String.ofList_toList]

/-- The place behind the first `n` bytes is inside of a character. -/
def InsideChar (text : List Char) (n : Nat) : Prop :=
  ∃ before c after, text = before ++ c :: after ∧
    byteLength before < n ∧ n < byteLength before + c.utf8Size

/-- A text in front moves the place by its bytes. -/
theorem InsideChar.append_left {text : List Char} {m n : Nat} (h : InsideChar text n)
    (head : List Char) (hm : m = byteLength head + n) : InsideChar (head ++ text) m := by
  obtain ⟨before, c, after, rfl, hlow, hhigh⟩ := h
  refine ⟨head ++ before, c, after, (List.append_assoc ..).symm, ?_⟩
  rw [byteLength_append]
  omega

/-- What comes after a character does not matter. -/
theorem InsideChar.append_right {text : List Char} {n : Nat} (h : InsideChar text n)
    (tail : List Char) : InsideChar (text ++ tail) n := by
  obtain ⟨before, c, after, rfl, hlow, hhigh⟩ := h
  exact ⟨before, c, after ++ tail, List.append_assoc .., hlow, hhigh⟩

/-- No place between two characters is inside of one. -/
private theorem not_insideChar (head tail : List Char) :
    ¬ InsideChar (head ++ tail) (byteLength head) := by
  rintro ⟨before, c, after, htext, hlow, hhigh⟩
  obtain ⟨more, rfl, -⟩ | ⟨more, rfl, hmore⟩ := List.append_eq_append_iff.1 htext
  · rw [byteLength_append] at hlow
    omega
  · cases more with
    | nil => simp at hlow
    | cons d more =>
      obtain ⟨rfl, -⟩ := List.cons.inj hmore
      rw [byteLength_append, byteLength] at hhigh
      omega

/-- A place in a text is between two characters or inside of one. -/
private theorem split_or_insideChar {text : List Char} {n : Nat} (h : n ≤ byteLength text) :
    (∃ head tail, text = head ++ tail ∧ byteLength head = n) ∨ InsideChar text n := by
  induction text generalizing n with
  | nil =>
    obtain rfl : n = 0 := Nat.le_zero.1 h
    exact .inl ⟨[], [], rfl, rfl⟩
  | cons c text ih =>
    obtain rfl | hpos := Nat.eq_zero_or_pos n
    · exact .inl ⟨[], c :: text, rfl, rfl⟩
    -- the place is inside of the first character or behind it
    obtain hlt | hge := Nat.lt_or_ge n c.utf8Size
    · exact .inr ⟨[], c, text, rfl, hpos, by simpa [byteLength] using hlt⟩
    · -- the place is behind the first character
      have hrest : n - c.utf8Size ≤ byteLength text := by
        rw [byteLength] at h
        omega
      obtain ⟨head, tail, rfl, hlength⟩ | hinside := ih hrest
      · refine .inl ⟨c :: head, tail, rfl, ?_⟩
        rw [byteLength, hlength]
        omega
      · refine .inr (hinside.append_left [c] ?_)
        simp only [byteLength]
        omega

/-- Nothing can be cut out only because an end is inside of a character. -/
theorem cut?_eq_none_iff {text : String} {start stop : Nat} (hle : start ≤ stop)
    (hstop : stop ≤ byteLength text.toList) :
    cut? text start stop = none ↔ InsideChar text.toList start ∨ InsideChar text.toList stop := by
  constructor
  · intro hnone
    -- the start falls between two characters, or inside of one; then the same is asked of the end
    obtain ⟨before, rest, htext, rfl⟩ | hinside := split_or_insideChar (Nat.le_trans hle hstop)
    · rw [htext, byteLength_append] at hstop
      have hrest : stop - byteLength before ≤ byteLength rest := by omega
      obtain ⟨part, after, rfl, hpart⟩ | hinside := split_or_insideChar hrest
      · -- both ends fall between characters, so there would be a part
        have hsome : cut? text (byteLength before) stop = some (String.ofList part) := by
          rw [cut?_eq_some_iff, String.toList_ofList]
          exact ⟨before, after, htext, rfl, by omega⟩
        rw [hnone] at hsome
        simp at hsome
      · rw [htext]
        exact .inr (hinside.append_left before (by omega))
    · exact .inl hinside
  · intro hinside
    cases hcut : cut? text start stop with
    | none => rfl
    | some part =>
      obtain ⟨before, after, htext, rfl, rfl⟩ := cut?_eq_some_iff.1 hcut
      rw [htext] at hinside
      -- a part that can be cut out has both of its ends between characters
      obtain hstart | hstop := hinside
      · exact absurd hstart (not_insideChar before _)
      · rw [← List.append_assoc, ← byteLength_append] at hstop
        exact absurd hstop (not_insideChar _ after)

end MixinSheet.Utf8
