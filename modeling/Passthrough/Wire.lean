/-!
# Passthrough — little-endian fields

Records travel as bytes.  A field of `n` bytes holds a number below `256 ^ n`, its lowest byte first.

* `leBytes`, `leValue` — the bytes of a number and the number of some bytes.
* `word16At`, `word32At`, `word64At` — the field at an offset of a record.
* `overwrite` — bytes laid over others from an offset on.
-/

namespace Passthrough

abbrev Bytes : Type := List UInt8

namespace Wire

/-- The lowest `width` bytes of `n`, lowest first. -/
def leBytes : Nat → Nat → Bytes
  | 0, _ => []
  | width + 1, n => UInt8.ofNat n :: leBytes width (n / 256)

/-- The number whose bytes, lowest first, are given. -/
def leValue : Bytes → Nat
  | [] => 0
  | b :: bs => b.toNat + 256 * leValue bs

@[simp] theorem length_leBytes (width n : Nat) : (leBytes width n).length = width := by
  induction width generalizing n with
  | zero => rfl
  | succ width ih => simp [leBytes, ih]

/-! ## Fields of fixed width -/

def bytes16 (w : UInt16) : Bytes := leBytes 2 w.toNat

def bytes32 (w : UInt32) : Bytes := leBytes 4 w.toNat

def bytes64 (w : UInt64) : Bytes := leBytes 8 w.toNat

@[simp] theorem length_bytes16 (w : UInt16) : (bytes16 w).length = 2 := length_leBytes ..

@[simp] theorem length_bytes32 (w : UInt32) : (bytes32 w).length = 4 := length_leBytes ..

@[simp] theorem length_bytes64 (w : UInt64) : (bytes64 w).length = 8 := length_leBytes ..

/-- The number in the `width` bytes from `offset` on; bytes past the end count as zero. -/
def valueAt (bs : Bytes) (offset width : Nat) : Nat := leValue ((bs.drop offset).take width)

def word16At (bs : Bytes) (offset : Nat) : UInt16 := UInt16.ofNat (valueAt bs offset 2)

def word32At (bs : Bytes) (offset : Nat) : UInt32 := UInt32.ofNat (valueAt bs offset 4)

def word64At (bs : Bytes) (offset : Nat) : UInt64 := UInt64.ofNat (valueAt bs offset 8)

/-! ## Laying bytes over others -/

/-- `bs` with `patch` laid over it from `offset` on.  The length stays that of `bs` when the patch
fits (`length_overwrite`). -/
def overwrite (bs : Bytes) (offset : Nat) (patch : Bytes) : Bytes :=
  bs.take offset ++ patch ++ bs.drop (offset + patch.length)

theorem length_overwrite {bs patch : Bytes} {offset : Nat}
    (h : offset + patch.length ≤ bs.length) : (overwrite bs offset patch).length = bs.length := by
  simp only [overwrite, List.length_append, List.length_take, List.length_drop]
  omega

/-- Inside the patch a byte is the patch's, outside it is the old one. -/
theorem getElem?_overwrite {bs patch : Bytes} {offset : Nat}
    (h : offset + patch.length ≤ bs.length) (i : Nat) :
    (overwrite bs offset patch)[i]? =
      if offset ≤ i ∧ i < offset + patch.length then patch[i - offset]? else bs[i]? := by
  unfold overwrite
  by_cases h1 : i < offset
  · rw [List.append_assoc, List.getElem?_append_left (by simp; omega),
      List.getElem?_take_of_lt h1, if_neg (by omega)]
  · have ht : (bs.take offset).length = offset := by simp; omega
    by_cases h2 : i < offset + patch.length
    · rw [if_pos ⟨by omega, h2⟩, List.getElem?_append_left (by simp; omega),
        List.getElem?_append_right (by omega), ht]
    · rw [if_neg (by omega), List.getElem?_append_right (by simp; omega), List.getElem?_drop]
      congr 1
      simp
      omega

end Wire

end Passthrough
