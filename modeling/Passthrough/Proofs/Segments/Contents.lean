import Passthrough.Proofs.Protocol.Record
import Passthrough.Segments.Packed

/-!
# Passthrough — what lies where in a region

`Packed.Holds region offset part` says that the bytes of `part` lie in a region at `offset`, and
`Packed.DiffersIn area region region'` that a region became another of the same size whose bytes are
the old ones outside of `area`.  What lies outside of the area therefore stays (`Holds.after`), which is
how records that are written one after the other are known to be there in the end.

* `holds_put`, `differsIn_put` — bytes laid over a region.
* `DiffersIn.word32At_eq`, `DiffersIn.word64At_eq`, `DiffersIn.extract_eq` — what lies outside of the area
  is read as before.
* `word32At_of_holds`, `word64At_of_holds`, `extract_of_holds` — what lies somewhere is read there.
-/

namespace Passthrough.Packed

/-- The bytes of `part` lie in the region at `offset`. -/
structure Holds (region : ByteArray) (offset : Nat) (part : Bytes) : Prop where
  fits : offset + part.length ≤ region.size
  byteAt_eq : ∀ k (h : k < part.length), byteAt region (offset + k) = part[k]

/-- The second region has the size of the first, and its bytes but for those in `area`. -/
structure DiffersIn (area : Nat → Prop) (region region' : ByteArray) : Prop where
  size_eq : region'.size = region.size
  byteAt_eq : ∀ k, ¬area k → byteAt region' k = byteAt region k

namespace DiffersIn

variable {area area' : Nat → Prop} {r r' r'' : ByteArray}

theorem refl (area : Nat → Prop) (r : ByteArray) : DiffersIn area r r := ⟨rfl, fun _ _ => rfl⟩

theorem mono (h : DiffersIn area r r') (wider : ∀ k, area k → area' k) : DiffersIn area' r r' :=
  ⟨h.size_eq, fun k outside => h.byteAt_eq k fun inside => outside (wider k inside)⟩

theorem trans (h : DiffersIn area r r') (h' : DiffersIn area r' r'') : DiffersIn area r r'' where
  size_eq := h'.size_eq.trans h.size_eq
  byteAt_eq k outside := (h'.byteAt_eq k outside).trans (h.byteAt_eq k outside)

end DiffersIn

/-! ## Bytes laid over a region -/

theorem holds_put {region : ByteArray} {offset : Nat} {part : Bytes}
    (fits : offset + part.length ≤ region.size) : Holds (put region offset part) offset part where
  fits := by rwa [size_put]
  byteAt_eq k hk := by
    rw [byteAt_put (by omega), if_pos (by omega), Nat.add_sub_cancel_left,
      List.getD_eq_getElem?_getD, List.getElem?_eq_getElem hk, Option.getD_some]

theorem differsIn_put (region : ByteArray) (offset : Nat) (part : Bytes) :
    DiffersIn (fun k => offset ≤ k ∧ k < offset + part.length) region (put region offset part) where
  size_eq := size_put ..
  byteAt_eq k outside := by
    by_cases hk : k < region.size
    · rw [byteAt_put hk, if_neg outside]
    · rw [byteAt_of_le (by rw [size_put]; omega), byteAt_of_le (by omega)]

/-- What lies outside of the area that changes stays. -/
theorem Holds.after {area : Nat → Prop} {region region' : ByteArray} {offset : Nat} {part : Bytes}
    (h : Holds region offset part) (change : DiffersIn area region region')
    (outside : ∀ k, offset ≤ k → k < offset + part.length → ¬area k) :
    Holds region' offset part where
  fits := by
    rw [change.size_eq]
    exact h.fits
  byteAt_eq k hk := by
    rw [change.byteAt_eq _ (outside _ (by omega) (by omega))]
    exact h.byteAt_eq k hk

/-! ## Reading what stays -/

theorem bytesAt_congr {region region' : ByteArray} {offset n : Nat}
    (h : ∀ k, k < n → byteAt region' (offset + k) = byteAt region (offset + k)) :
    bytesAt region' offset n = bytesAt region offset n :=
  List.map_congr_left fun k hk => h k (List.mem_range.1 hk)

theorem word32At_congr {region region' : ByteArray} {offset : Nat}
    (h : ∀ k, k < 4 → byteAt region' (offset + k) = byteAt region (offset + k)) :
    word32At region' offset = word32At region offset := by
  rw [word32At, word32At, bytesAt_congr h]

namespace DiffersIn

variable {area : Nat → Prop} {region region' : ByteArray} {offset : Nat}

theorem word32At_eq (change : DiffersIn area region region')
    (outside : ∀ k, offset ≤ k → k < offset + 4 → ¬area k) :
    word32At region' offset = word32At region offset :=
  word32At_congr fun k hk => change.byteAt_eq _ (outside _ (by omega) (by omega))

theorem word64At_eq (change : DiffersIn area region region')
    (outside : ∀ k, offset ≤ k → k < offset + 8 → ¬area k) :
    word64At region' offset = word64At region offset := by
  rw [word64At, word64At, bytesAt_congr fun k hk =>
    change.byteAt_eq _ (outside _ (by omega) (by omega))]

theorem extract_eq (change : DiffersIn area region region') {stop : Nat}
    (outside : ∀ k, offset ≤ k → k < stop → ¬area k) :
    region'.extract offset stop = region.extract offset stop := by
  have size := change.size_eq
  refine ByteArray.ext_getElem (by rw [ByteArray.size_extract, ByteArray.size_extract, size])
    fun k hk hk' => ?_
  rw [ByteArray.size_extract] at hk hk'
  have same := change.byteAt_eq (offset + k) (outside _ (by omega) (by omega))
  rw [byteAt, byteAt, dif_pos (by omega), dif_pos (by omega)] at same
  rw [ByteArray.getElem_extract, ByteArray.getElem_extract, same]

end DiffersIn

/-! ## Reading what is there -/

theorem holds_append_iff {region : ByteArray} {offset : Nat} {first second : Bytes} :
    Holds region offset (first ++ second)
      ↔ Holds region offset first ∧ Holds region (offset + first.length) second := by
  constructor
  · rintro ⟨fits, same⟩
    rw [List.length_append] at fits
    refine ⟨⟨by omega, ?_⟩, ⟨by omega, ?_⟩⟩
    · intro k hk
      rw [same k (by rw [List.length_append]; omega), List.getElem_append_left hk]
    · intro k hk
      have there := same (first.length + k) (by rw [List.length_append]; omega)
      rw [List.getElem_append_right (by omega)] at there
      simp only [Nat.add_sub_cancel_left] at there
      rw [Nat.add_assoc, there]
  · rintro ⟨⟨-, same⟩, ⟨fits', same'⟩⟩
    refine ⟨by rw [List.length_append]; omega, ?_⟩
    intro k hk
    by_cases inFirst : k < first.length
    · rw [same k inFirst, List.getElem_append_left inFirst]
    · rw [List.length_append] at hk
      have there := same' (k - first.length) (by omega)
      rw [List.getElem_append_right (by omega), ← there]
      congr 1
      omega

theorem bytesAt_of_holds {region : ByteArray} {offset n : Nat} {part : Bytes}
    (h : Holds region offset part) (length : part.length = n) : bytesAt region offset n = part := by
  subst length
  refine List.ext_getElem (by simp [bytesAt]) fun k hk hk' => ?_
  simp only [bytesAt, List.getElem_map, List.getElem_range]
  exact h.byteAt_eq k hk'

theorem word32At_of_holds {region : ByteArray} {offset : Nat} {w : UInt32}
    (h : Holds region offset (Wire.bytes32 w)) : word32At region offset = w := by
  rw [word32At, bytesAt_of_holds h (Wire.length_bytes32 w), Wire.word32_bytes32]

theorem word64At_of_holds {region : ByteArray} {offset : Nat} {w : UInt64}
    (h : Holds region offset (Wire.bytes64 w)) : word64At region offset = w := by
  rw [word64At, bytesAt_of_holds h (Wire.length_bytes64 w), Wire.word64_bytes64]

theorem Holds.zeros {region : ByteArray} {offset n k m : Nat}
    (h : Holds region offset (List.replicate n 0)) (inside : k + m ≤ n) :
    Holds region (offset + k) (List.replicate m 0) := by
  obtain ⟨fits, same⟩ := h
  simp only [List.length_replicate, List.getElem_replicate] at fits same
  refine ⟨by rw [List.length_replicate]; omega, ?_⟩
  intro l hl
  rw [List.length_replicate] at hl
  rw [List.getElem_replicate, Nat.add_assoc]
  exact same (k + l) (by omega)

theorem word32At_of_zeros {region : ByteArray} {offset n : Nat}
    (h : Holds region offset (List.replicate n 0)) (wide : 4 ≤ n) : word32At region offset = 0 := by
  have word : Wire.bytes32 0 = List.replicate 4 0 := rfl
  have four := h.zeros (k := 0) (m := 4) (by omega)
  rw [← word] at four
  exact word32At_of_holds four

/-! ## Byte arrays as lists -/

theorem toList_loop (bytes : ByteArray) (i : Nat) (read : Bytes) :
    ByteArray.toList.loop bytes i read = read.reverse ++ bytes.data.toList.drop i := by
  fun_induction ByteArray.toList.loop bytes i read with
  | case1 i read inside ih =>
    have inside : i < bytes.data.toList.length := inside
    have next : bytes.get! i = bytes.data.toList[i] := by
      show bytes.data[i]! = bytes.data[i]
      exact getElem!_pos bytes.data i inside
    rw [ih, List.reverse_cons, List.append_assoc, List.singleton_append,
      List.drop_eq_getElem_cons inside, next]
  | case2 i read past =>
    have past : bytes.data.toList.length ≤ i := Nat.le_of_not_lt past
    rw [List.drop_of_length_le past, List.append_nil]

theorem toList_eq (bytes : ByteArray) : bytes.toList = bytes.data.toList := by
  rw [ByteArray.toList, toList_loop, List.reverse_nil, List.nil_append, List.drop_zero]

@[simp] theorem length_toList (bytes : ByteArray) : bytes.toList.length = bytes.size := by
  rw [toList_eq]
  rfl

/-- The bytes that lie somewhere are what is cut out there. -/
theorem extract_of_holds {region part : ByteArray} {offset : Nat}
    (h : Holds region offset part.toList) : region.extract offset (offset + part.size) = part := by
  obtain ⟨fits, same⟩ := h
  rw [length_toList] at fits
  have size : (region.extract offset (offset + part.size)).size = part.size := by
    rw [ByteArray.size_extract]
    omega
  refine ByteArray.ext_getElem size fun k hk hk' => ?_
  have there := same k (by rwa [length_toList])
  rw [byteAt, dif_pos (by omega)] at there
  rw [ByteArray.getElem_extract, there]
  simp only [toList_eq]
  rfl

end Passthrough.Packed
