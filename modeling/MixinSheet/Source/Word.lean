/-!
# Checked arithmetic on positions

Offsets, rows and columns are 64-bit words. A sum or a difference that leaves their range is
reported and never wraps around.
-/

namespace MixinSheet

/-- A result that does not fit into a word. -/
inductive Overflow where
  /-- A sum of 2^64 or more. -/
  | addition
  /-- A difference below zero. -/
  | subtraction
  deriving DecidableEq, Repr

/-- The report of a result that does not fit. -/
def Overflow.message : Overflow → String
  | .addition => "attempt to add with overflow"
  | .subtraction => "attempt to subtract with overflow"

namespace Word

/-- The sum of two words. -/
def add (a b : UInt64) : Except Overflow UInt64 :=
  if a.toNat + b.toNat < UInt64.size then .ok (a + b) else .error .addition

/-- The difference of two words. -/
def sub (a b : UInt64) : Except Overflow UInt64 :=
  if b ≤ a then .ok (a - b) else .error .subtraction

/-- The difference of two words, or zero where it would be negative. -/
def monus (a b : UInt64) : UInt64 :=
  if b ≤ a then a - b else 0

/-- A sum that does not overflow is the sum of the numbers. -/
theorem toNat_add {a b c : UInt64} (h : add a b = .ok c) : c.toNat = a.toNat + b.toNat := by
  unfold add at h
  split at h
  · rename_i hlt
    obtain rfl : a + b = c := by simpa using h
    exact (UInt64.toNat_add a b).trans (Nat.mod_eq_of_lt hlt)
  · simp at h

/-- A difference that does not overflow is the difference of the numbers. -/
theorem toNat_sub {a b c : UInt64} (h : sub a b = .ok c) : c.toNat = a.toNat - b.toNat := by
  unfold sub at h
  split at h
  · rename_i hle
    obtain rfl : a - b = c := by simpa using h
    exact UInt64.toNat_sub_of_le a b hle
  · simp at h

/-- A sum that fits is the sum. -/
theorem add_ofNat {a b : Nat} (h : a + b < UInt64.size) :
    add (UInt64.ofNat a) (UInt64.ofNat b) = .ok (UInt64.ofNat (a + b)) := by
  have ha : (UInt64.ofNat a).toNat = a := UInt64.toNat_ofNat_of_lt' (by omega)
  have hb : (UInt64.ofNat b).toNat = b := UInt64.toNat_ofNat_of_lt' (by omega)
  rw [add, ha, hb, if_pos h, ← UInt64.ofNat_add]

/-- Every word but zero has a predecessor. -/
theorem toNat_sub_one {word : UInt64} (h : word ≠ 0) : (word - 1).toNat + 1 = word.toNat := by
  have hne : word.toNat ≠ 0 := fun hzero => h (UInt64.toNat_inj.1 hzero)
  have hle : 1 ≤ word := by
    rw [UInt64.le_iff_toNat_le]
    show 1 ≤ word.toNat
    omega
  rw [UInt64.toNat_sub_of_le _ _ hle]
  show word.toNat - 1 + 1 = word.toNat
  omega

/-- Counting from one undoes counting from zero. -/
theorem add_sub_one {word : UInt64} (h : word ≠ 0) : add (word - 1) 1 = .ok word := by
  have hsum : (word - 1).toNat + (1 : UInt64).toNat < UInt64.size := by
    show (word - 1).toNat + 1 < UInt64.size
    rw [toNat_sub_one h]
    exact word.toNat_lt
  rw [add, if_pos hsum, UInt64.sub_add_cancel]

end Word

end MixinSheet
