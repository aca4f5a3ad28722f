import Passthrough.Pages
import Passthrough.Segments.Packed

/-!
# Passthrough — the content of a file

A file has a size, but it is kept in whole pages.  Processes that have mapped the file reach the pages,
and so also the bytes between the end of the file and the end of its last page.

```text
 0                        size       pagesFor size                     n
 ├──────── file ───────────┼─── slack ────┼──── nothing, reads as 0 ────┤
 └──────────── mapped and shared ─────────┘
```

A mapping keeps its length when the file shrinks under it.  What it holds of the file is then less than
what it is long.

A file may be far larger than what anybody writes into it.  Only the pages at its front, which mappings
reach, are kept byte by byte; of the rest the bytes that were written are kept, and the others are zero.

* `FileContent.byteAt` — the view.
* `FileContent.resize` — another size, which sees nothing of the slack (`byteAt_resize`).
* `FileContent.mapped`, `storeMapped` — the bytes under a mapping, and a change made through one.
-/

namespace Passthrough

/-- Bytes of the pages at the front of a file, which mappings reach. -/
def frontBytes : Nat := 5376 * pageBytes

/-- Bytes that a file of `n` bytes has in the pages at its front. -/
def frontFor (n : Nat) : Nat := min (pagesFor n) frontBytes

/-- The bytes of a file. -/
structure FileContent where
  /-- The pages at the front. -/
  front : ByteArray
  /-- The bytes written behind the front and where they are, the newest first. -/
  far : List (Nat × UInt8)
  size : Nat
  size_front : front.size = frontFor size
  far_lt : ∀ entry ∈ far, entry.1 < size

namespace FileContent

def zeros (n : Nat) : FileContent where
  front := Packed.zeros (frontFor n)
  far := []
  size := n
  size_front := Packed.size_zeros _
  far_lt := by simp

def empty : FileContent := zeros 0

instance : Inhabited FileContent := ⟨empty⟩

def byteAt (c : FileContent) (i : Nat) : UInt8 :=
  if c.size ≤ i then 0
  else if i < frontBytes then Packed.byteAt c.front i
  else (c.far.lookup i).getD 0

/-! ## Through file operations -/

/-- The content with another size: cut off, or followed by zeros.  The slack is lost. -/
def resize (c : FileContent) (n : Nat) : FileContent :=
  if n = c.size then c
  else
    { front := Packed.resize (Packed.resize c.front (min (min n c.size) frontBytes)) (frontFor n)
      far := c.far.filter (·.1 < n)
      size := n
      size_front := Packed.size_resize ..
      far_lt := fun entry h => by simpa using (List.mem_filter.1 h).2 }

@[simp] theorem size_resize (c : FileContent) (n : Nat) : (c.resize n).size = n := by
  unfold resize
  split
  · next h => exact h.symm
  · rfl

/-! ## Through mappings -/

/-- The first `n` bytes under a mapping, and maybe more. -/
def mapped (c : FileContent) (n : Nat) : ByteArray := Packed.resize c.front (max n c.front.size)

/-- The content after a mapping was changed to `region`.  Nothing is behind the last page, so what the
region has there is lost. -/
def storeMapped (c : FileContent) (region : ByteArray) : FileContent :=
  { c with
    front := Packed.resize region c.front.size
    size_front := by rw [Packed.size_resize, c.size_front] }

/-! ## Sizes -/

@[simp] theorem size_storeMapped (c : FileContent) (region : ByteArray) :
    (c.storeMapped region).size = c.size := rfl

/-- The mapping is as long as it is asked to be, however short the file is. -/
theorem le_size_mapped (c : FileContent) (n : Nat) : n ≤ (c.mapped n).size := by
  rw [mapped, Packed.size_resize]
  exact Nat.le_max_left ..

/-! ## The view -/

theorem byteAt_of_le {c : FileContent} {i : Nat} (h : c.size ≤ i) : c.byteAt i = 0 := by
  rw [byteAt, if_pos h]

theorem lookup_filter_lt {far : List (Nat × UInt8)} {i n : Nat} (h : i < n) :
    (far.filter (·.1 < n)).lookup i = far.lookup i := by
  induction far with
  | nil => rfl
  | cons entry far ih =>
    obtain ⟨j, b⟩ := entry
    by_cases hj : j < n
    · rw [List.filter_cons_of_pos (by simpa using hj), List.lookup_cons, List.lookup_cons, ih]
    · rw [List.filter_cons_of_neg (by simpa using hj), ih, List.lookup_cons,
        beq_false_of_ne (by omega)]

theorem lookup_far_of_le {c : FileContent} {i : Nat} (h : c.size ≤ i) : c.far.lookup i = none := by
  rw [List.lookup_eq_none_iff]
  intro entry hmem
  have := c.far_lt entry hmem
  simp only [bne_iff_ne, ne_eq]
  omega

/-- Up to its new size a file holds what it held before. -/
theorem byteAt_resize (c : FileContent) (n i : Nat) :
    (c.resize n).byteAt i = if i < n then c.byteAt i else 0 := by
  by_cases hi : i < n
  · rw [if_pos hi, resize]
    split
    · rfl
    · simp only [byteAt, if_neg (Nat.not_le.2 hi), lookup_filter_lt hi, Packed.byteAt_resize]
      have hn := le_pagesFor n
      by_cases hs : c.size ≤ i
      · -- zeros follow
        rw [if_pos hs, lookup_far_of_le hs]
        split
        · rw [if_pos (by rw [frontFor]; omega), if_neg (by omega)]
        · rfl
      · rw [if_neg hs]
        split
        · rw [if_pos (by rw [frontFor]; omega), if_pos (by omega)]
        · rfl
  · rw [if_neg hi, byteAt_of_le (by rw [size_resize]; omega)]

end FileContent

end Passthrough
