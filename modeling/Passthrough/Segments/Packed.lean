import Passthrough.Fault
import Passthrough.Wire

/-!
# Passthrough — packed bytes

Large regions are kept as packed bytes.  A region has a size and a byte at every index below it.

* `zeros` — a region of zeros.
* `byteAt`, `bytesAt` — the view, with the numbers read through it.
* `put`, `resize` — bytes laid over a region, and another size for it; what they do to the view is
  `byteAt_put` and `byteAt_resize`.
-/

namespace Passthrough.Packed

/-- `n` zeros, made by doubling. -/
def zeros (n : Nat) : ByteArray :=
  if n = 0 then .empty
  else
    let half := zeros (n / 2)
    if n % 2 = 0 then half ++ half else (half ++ half).push 0
termination_by n

def byteAt (region : ByteArray) (i : Nat) : UInt8 :=
  if h : i < region.size then region[i] else 0

def bytesAt (region : ByteArray) (offset n : Nat) : Bytes :=
  (List.range n).map fun i => byteAt region (offset + i)

def word32At (region : ByteArray) (offset : Nat) : UInt32 :=
  UInt32.ofNat (Wire.leValue (bytesAt region offset 4))

def word64At (region : ByteArray) (offset : Nat) : UInt64 :=
  UInt64.ofNat (Wire.leValue (bytesAt region offset 8))

/-- The byte at `i` replaced; past the end nothing happens. -/
def putByte (region : ByteArray) (i : Nat) (b : UInt8) : ByteArray :=
  if h : i < region.size then region.set i b h else region

/-- `region` with bytes laid over it from `offset` on. -/
def put (region : ByteArray) (offset : Nat) : Bytes → ByteArray
  | [] => region
  | b :: bs => put (putByte region offset b) (offset + 1) bs

/-- The first `size` bytes, followed by zeros if there are fewer. -/
def resize (region : ByteArray) (size : Nat) : ByteArray :=
  -- the common case, in which a region of many bytes need not be copied
  if size = region.size then region
  else if size < region.size then region.extract 0 size
  else region ++ zeros (size - region.size)

/-! ## Accesses that stay inside -/

/-- The `n` bytes from `offset` on, all of which must be there. -/
def slice (region : ByteArray) (offset n : Nat) : Checked Bytes := do
  checkRange offset n region.size
  .ok (bytesAt region offset n)

/-- `bytes` laid over the region from `offset` on, all of which must be there. -/
def patch (region : ByteArray) (offset : Nat) (bytes : Bytes) : Checked ByteArray := do
  checkRange offset bytes.length region.size
  .ok (put region offset bytes)

/-! ## The view -/

@[simp] theorem size_zeros (n : Nat) : (zeros n).size = n := by
  induction n using Nat.strongRecOn with
  | _ n ih =>
    rw [zeros]
    split
    · next h => rw [h]; rfl
    · next h =>
      have hn := ih (n / 2) (by omega)
      split <;> simp only [ByteArray.size_push, ByteArray.size_append, hn] <;> omega

@[simp] theorem size_resize (region : ByteArray) (size : Nat) : (resize region size).size = size := by
  unfold resize
  split
  · next h => exact h.symm
  · split
    · rw [ByteArray.size_extract]
      omega
    · rw [ByteArray.size_append, size_zeros]
      omega

@[simp] theorem size_putByte (region : ByteArray) (i : Nat) (b : UInt8) :
    (putByte region i b).size = region.size := by
  unfold putByte
  split
  · simp only [ByteArray.size, ByteArray.data_set, Array.size_set]
  · rfl

@[simp] theorem size_put (region : ByteArray) (offset : Nat) (bs : Bytes) :
    (put region offset bs).size = region.size := by
  induction bs generalizing region offset with
  | nil => rfl
  | cons b bs ih => rw [put, ih, size_putByte]

theorem byteAt_putByte (region : ByteArray) (i : Nat) (b : UInt8) (j : Nat) :
    byteAt (putByte region i b) j =
      if j = i ∧ i < region.size then b else byteAt region j := by
  unfold byteAt
  simp only [size_putByte]
  by_cases hj : j < region.size
  · rw [dif_pos hj, dif_pos hj]
    unfold putByte
    by_cases hi : i < region.size
    · simp only [dif_pos hi, ByteArray.getElem_eq_getElem_data, ByteArray.data_set,
        Array.getElem_set]
      by_cases h : i = j
      · simp [h, hj]
      · simp [h, Ne.symm h]
    · have h : ¬ (j = i ∧ i < region.size) := fun h => hi h.2
      simp [hi]
  · have h : ¬ (j = i ∧ i < region.size) := fun h => hj (by omega)
    rw [dif_neg hj, dif_neg hj, if_neg h]

/-- Under the bytes that were laid over it a region holds them, elsewhere what it held before.  Bytes past
its end are lost. -/
theorem byteAt_put {region : ByteArray} {j : Nat} (h : j < region.size) (offset : Nat)
    (bs : Bytes) :
    byteAt (put region offset bs) j =
      if offset ≤ j ∧ j < offset + bs.length then bs.getD (j - offset) 0
      else byteAt region j := by
  induction bs generalizing region offset with
  | nil => rw [put, if_neg (by simp only [List.length_nil]; omega)]
  | cons b bs ih =>
    simp only [List.length_cons]
    rw [put, ih (by rw [size_putByte]; exact h), byteAt_putByte]
    by_cases h1 : offset + 1 ≤ j ∧ j < offset + 1 + bs.length
    · obtain ⟨k, rfl⟩ : ∃ k, j = offset + 1 + k := ⟨j - (offset + 1), by omega⟩
      rw [if_pos h1, if_pos (by omega), show offset + 1 + k - (offset + 1) = k by omega,
        show offset + 1 + k - offset = k + 1 by omega, List.getD_cons_succ]
    · rw [if_neg h1]
      by_cases h2 : j = offset
      · rw [if_pos ⟨h2, by omega⟩, if_pos (by omega), h2, Nat.sub_self, List.getD_cons_zero]
      · rw [if_neg (fun hh => h2 hh.1), if_neg (by omega)]

theorem byteAt_of_le {region : ByteArray} {i : Nat} (h : region.size ≤ i) : byteAt region i = 0 := by
  rw [byteAt, dif_neg (by omega)]

theorem byteAt_append (r₁ r₂ : ByteArray) (i : Nat) :
    byteAt (r₁ ++ r₂) i = if i < r₁.size then byteAt r₁ i else byteAt r₂ (i - r₁.size) := by
  by_cases h : i < (r₁ ++ r₂).size
  · have hs : (r₁ ++ r₂).size = r₁.size + r₂.size := ByteArray.size_append
    rw [byteAt, dif_pos h]
    by_cases h₁ : i < r₁.size
    · rw [if_pos h₁, byteAt, dif_pos h₁, ByteArray.getElem_append_left h₁]
    · rw [if_neg h₁, byteAt, dif_pos (by omega), ByteArray.getElem_append_right (by omega)]
  · have hs : (r₁ ++ r₂).size = r₁.size + r₂.size := ByteArray.size_append
    rw [byteAt_of_le (by omega), if_neg (by omega), byteAt_of_le (by omega)]

theorem byteAt_push (region : ByteArray) (b : UInt8) (i : Nat) :
    byteAt (region.push b) i = if i = region.size then b else byteAt region i := by
  have hs : (region.push b).size = region.size + 1 := ByteArray.size_push
  by_cases h : i < region.size + 1
  · rw [byteAt, dif_pos (by omega)]
    simp only [ByteArray.getElem_eq_getElem_data, ByteArray.data_push, Array.getElem_push]
    by_cases hi : i < region.size
    · rw [dif_pos (show i < region.data.size from hi), if_neg (by omega), byteAt, dif_pos hi,
        ByteArray.getElem_eq_getElem_data]
    · rw [dif_neg (show ¬ i < region.data.size from hi), if_pos (by omega)]
  · rw [byteAt_of_le (by omega), if_neg (by omega), byteAt_of_le (by omega)]

@[simp] theorem byteAt_zeros (n i : Nat) : byteAt (zeros n) i = 0 := by
  induction n using Nat.strongRecOn generalizing i with
  | _ n ih =>
    rw [zeros]
    split
    · rfl
    · have hhalf (i : Nat) : byteAt (zeros (n / 2) ++ zeros (n / 2)) i = 0 := by
        rw [byteAt_append, ih _ (by omega), ih _ (by omega), ite_self]
      split
      · exact hhalf i
      · rw [byteAt_push, hhalf, ite_self]

/-- A resized region holds what it held before as far as it reaches, and then zeros. -/
theorem byteAt_resize (region : ByteArray) (n i : Nat) :
    byteAt (resize region n) i = if i < n then byteAt region i else 0 := by
  by_cases hi : i < n
  · rw [if_pos hi, resize]
    split
    · rfl
    · split
      · have he : i < (region.extract 0 n).size := by
          rw [ByteArray.size_extract]
          omega
        rw [byteAt, dif_pos he, byteAt, dif_pos (by omega), ByteArray.getElem_extract]
        simp only [Nat.zero_add]
      · rw [byteAt_append, byteAt_zeros]
        split
        · rfl
        · next h => rw [byteAt_of_le (by omega)]
  · rw [if_neg hi, byteAt_of_le (by rw [size_resize]; omega)]

end Passthrough.Packed
