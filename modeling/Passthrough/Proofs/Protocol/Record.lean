import Mathlib.Algebra.Group.Nat.Defs
import Passthrough.Protocol.ConfigRequest
import Passthrough.Protocol.HardwareInfo

/-!
# Passthrough — fields of records

A record is its fields one after the other.  `Wire.HasAt bs offset field` says that the bytes of `field`
lie at `offset`; a run of fields lies somewhere exactly if each lies where those before it end.

* `leValue_leBytes`, `leBytes_leValue` — bytes and numbers undo each other.
* `Wire.hasAt_append_iff`, `Wire.hasAt_flatMap_iff` — runs of fields, and tables of fields of one size.
* `word16At_of_hasAt`, … — a field that is there is read; `hasAt_word16At`, … — what is read is there.
* `HardwareInfo.hasAt_encode_iff`, `ConfigRequest.hasAt_encode_iff` — where the fields of a record lie.
* `HardwareInfo.decode_encode`, `HardwareInfo.encode_of_decode` and the same for configuration requests —
  a record is read as what was written, and written as what was read but for bytes without a meaning.
-/

namespace Passthrough

namespace Wire

/-! ## Bytes and numbers -/

theorem leValue_lt (bs : Bytes) : leValue bs < 256 ^ bs.length := by
  induction bs with
  | nil => simp [leValue]
  | cons b bs ih =>
    have hb := b.toNat_lt
    simp only [leValue, List.length_cons, Nat.pow_succ]
    omega

theorem leValue_leBytes (width n : Nat) : leValue (leBytes width n) = n % 256 ^ width := by
  induction width generalizing n with
  | zero => simp [leBytes, leValue, Nat.mod_one]
  | succ width ih =>
    have hp : 256 ^ (width + 1) = 256 * 256 ^ width := by rw [Nat.pow_succ, Nat.mul_comm]
    rw [leBytes, leValue, ih, UInt8.toNat_ofNat', hp, Nat.mod_mul]

theorem leBytes_leValue (bs : Bytes) : leBytes bs.length (leValue bs) = bs := by
  induction bs with
  | nil => rfl
  | cons b bs ih =>
    have hb := b.toNat_lt
    simp only [List.length_cons, leBytes, leValue]
    have hd : (b.toNat + 256 * leValue bs) / 256 = leValue bs := by omega
    rw [hd, ih]
    congr 1
    apply UInt8.toNat_inj.1
    simp only [UInt8.toNat_ofNat']
    omega

theorem word16_bytes16 (w : UInt16) : UInt16.ofNat (leValue (bytes16 w)) = w := by
  have h := w.toNat_lt
  rw [bytes16, leValue_leBytes, Nat.mod_eq_of_lt (by omega), UInt16.ofNat_toNat]

theorem word32_bytes32 (w : UInt32) : UInt32.ofNat (leValue (bytes32 w)) = w := by
  have h := w.toNat_lt
  rw [bytes32, leValue_leBytes, Nat.mod_eq_of_lt (by omega), UInt32.ofNat_toNat]

theorem word64_bytes64 (w : UInt64) : UInt64.ofNat (leValue (bytes64 w)) = w := by
  have h := w.toNat_lt
  rw [bytes64, leValue_leBytes, Nat.mod_eq_of_lt (by omega), UInt64.ofNat_toNat]

/-! ## Fields at offsets -/

/-- The bytes of `field` lie at `offset`. -/
def HasAt (bs : Bytes) (offset : Nat) (field : Bytes) : Prop := field <+: bs.drop offset

theorem hasAt_self (bs : Bytes) : HasAt bs 0 bs := List.prefix_refl bs

theorem hasAt_append_iff {bs : Bytes} {offset : Nat} {first second : Bytes} :
    HasAt bs offset (first ++ second)
      ↔ HasAt bs offset first ∧ HasAt bs (offset + first.length) second := by
  unfold HasAt
  rw [← List.drop_drop]
  constructor
  · rintro ⟨rest, h⟩
    rw [← h, List.append_assoc, List.drop_left]
    exact ⟨List.prefix_append _ _, List.prefix_append _ _⟩
  · rintro ⟨⟨rest, h⟩, h'⟩
    rw [← h, List.drop_left] at h'
    rw [← h]
    exact (List.prefix_append_right_inj first).2 h'

/-- In a table of fields of one size, each field lies at the multiple of the size that its place
says. -/
theorem hasAt_flatMap_iff {α : Type} {encode : α → Bytes} {size : Nat}
    (hsize : ∀ a, (encode a).length = size) {bs : Bytes} {offset : Nat} {table : List α} :
    HasAt bs offset (table.flatMap encode)
      ↔ ∀ k a, table[k]? = some a → HasAt bs (offset + size * k) (encode a) := by
  induction table generalizing offset with
  | nil =>
    constructor
    · intro _ k a ha
      cases ha
    · intro _
      exact List.nil_prefix
  | cons b table ih =>
    have hplace : ∀ k, offset + size * (k + 1) = offset + size + size * k := by
      intro k
      rw [Nat.mul_succ]
      omega
    rw [List.flatMap_cons, hasAt_append_iff, hsize, ih]
    constructor
    · rintro ⟨first, rest⟩ k a ha
      cases k with
      | zero =>
        cases ha
        exact first
      | succ k =>
        rw [hplace]
        exact rest k a ha
    · intro all
      refine ⟨all 0 b rfl, ?_⟩
      intro k a ha
      have there := all (k + 1) a ha
      rw [hplace] at there
      exact there

theorem valueAt_of_hasAt {bs field : Bytes} {offset : Nat} (h : HasAt bs offset field) :
    valueAt bs offset field.length = leValue field := by
  rw [valueAt, ← List.prefix_iff_eq_take.1 h]

theorem word16At_of_hasAt {bs : Bytes} {offset : Nat} {w : UInt16}
    (h : HasAt bs offset (bytes16 w)) : word16At bs offset = w := by
  have hvalue := valueAt_of_hasAt h
  rw [length_bytes16] at hvalue
  rw [word16At, hvalue, word16_bytes16]

theorem word32At_of_hasAt {bs : Bytes} {offset : Nat} {w : UInt32}
    (h : HasAt bs offset (bytes32 w)) : word32At bs offset = w := by
  have hvalue := valueAt_of_hasAt h
  rw [length_bytes32] at hvalue
  rw [word32At, hvalue, word32_bytes32]

theorem word64At_of_hasAt {bs : Bytes} {offset : Nat} {w : UInt64}
    (h : HasAt bs offset (bytes64 w)) : word64At bs offset = w := by
  have hvalue := valueAt_of_hasAt h
  rw [length_bytes64] at hvalue
  rw [word64At, hvalue, word64_bytes64]

/-! ## Reading what is there -/

theorem valueAt_lt {bs : Bytes} {offset width : Nat} (h : offset + width ≤ bs.length) :
    valueAt bs offset width < 256 ^ width := by
  have hlength : ((bs.drop offset).take width).length = width := by
    simp
    omega
  have hlt := leValue_lt ((bs.drop offset).take width)
  rw [hlength] at hlt
  exact hlt

theorem hasAt_valueAt {bs : Bytes} {offset width : Nat} (h : offset + width ≤ bs.length) :
    HasAt bs offset (leBytes width (valueAt bs offset width)) := by
  have hlength : ((bs.drop offset).take width).length = width := by
    simp
    omega
  have hbytes := leBytes_leValue ((bs.drop offset).take width)
  rw [hlength] at hbytes
  rw [valueAt, hbytes]
  exact List.take_prefix _ _

theorem hasAt_word16At {bs : Bytes} {offset : Nat} (h : offset + 2 ≤ bs.length) :
    HasAt bs offset (bytes16 (word16At bs offset)) := by
  have hlt := valueAt_lt h
  have hword : (word16At bs offset).toNat = valueAt bs offset 2 := UInt16.toNat_ofNat_of_lt' hlt
  rw [bytes16, hword]
  exact hasAt_valueAt h

theorem hasAt_word32At {bs : Bytes} {offset : Nat} (h : offset + 4 ≤ bs.length) :
    HasAt bs offset (bytes32 (word32At bs offset)) := by
  have hlt := valueAt_lt h
  have hword : (word32At bs offset).toNat = valueAt bs offset 4 := UInt32.toNat_ofNat_of_lt' hlt
  rw [bytes32, hword]
  exact hasAt_valueAt h

theorem hasAt_word64At {bs : Bytes} {offset : Nat} (h : offset + 8 ≤ bs.length) :
    HasAt bs offset (bytes64 (word64At bs offset)) := by
  have hlt := valueAt_lt h
  have hword : (word64At bs offset).toNat = valueAt bs offset 8 := UInt64.toNat_ofNat_of_lt' hlt
  rw [bytes64, hword]
  exact hasAt_valueAt h

/-! ## Fields under a patch -/

theorem hasAt_iff_getElem? {bs field : Bytes} {offset : Nat} :
    HasAt bs offset field ↔ ∀ k < field.length, bs[offset + k]? = field[k]? := by
  unfold HasAt
  rw [List.prefix_iff_getElem?]
  constructor
  · intro h k hk
    rw [← List.getElem?_drop, h k hk, List.getElem?_eq_getElem hk]
  · intro h k hk
    rw [List.getElem?_drop, h k hk, List.getElem?_eq_getElem hk]

section Overwrite

variable {bs patch field : Bytes} {place offset : Nat}

theorem hasAt_overwrite (fits : place + patch.length ≤ bs.length) :
    HasAt (overwrite bs place patch) place patch := by
  rw [hasAt_iff_getElem?]
  intro k hk
  rw [getElem?_overwrite fits, if_pos ⟨by omega, by omega⟩]
  congr 1
  omega

/-- A patch leaves the fields beside it alone. -/
theorem HasAt.overwrite (h : HasAt bs offset field) (fits : place + patch.length ≤ bs.length)
    (beside : offset + field.length ≤ place ∨ place + patch.length ≤ offset) :
    HasAt (overwrite bs place patch) offset field := by
  rw [hasAt_iff_getElem?] at h ⊢
  intro k hk
  have outside : ¬ (place ≤ offset + k ∧ offset + k < place + patch.length) := by omega
  rw [getElem?_overwrite fits, if_neg outside, h k hk]

end Overwrite

/-- A field that lies at the front of bytes of its own length is all of them. -/
theorem HasAt.eq {bs field : Bytes} (h : HasAt bs 0 field) (length : field.length = bs.length) :
    field = bs :=
  List.IsPrefix.eq_of_length h length

end Wire

/-! ## Hardware records -/

open Wire

theorem Region.hasAt_encode_iff {bs : Bytes} {offset : Nat} {r : Region} :
    HasAt bs offset r.encode
      ↔ HasAt bs offset (bytes64 r.size) ∧ HasAt bs (offset + 8) (bytes64 r.phys.val)
        ∧ HasAt bs (offset + 16) (bytes64 r.kernel.val)
        ∧ HasAt bs (offset + 24) (bytes64 r.user.val) := by
  simp only [Region.encode, hasAt_append_iff, List.length_append, length_bytes64, and_assoc]

theorem Region.decodeAt_of_hasAt {bs : Bytes} {offset : Nat} {r : Region}
    (h : HasAt bs offset r.encode) : Region.decodeAt bs offset = r := by
  obtain ⟨size, phys, kernel, user⟩ := hasAt_encode_iff.1 h
  unfold Region.decodeAt
  rw [word64At_of_hasAt size, word64At_of_hasAt phys, word64At_of_hasAt kernel,
    word64At_of_hasAt user]

theorem Region.hasAt_decodeAt {bs : Bytes} {offset : Nat}
    (h : offset + Region.encodedSize ≤ bs.length) :
    HasAt bs offset (Region.decodeAt bs offset).encode := by
  have h : offset + 32 ≤ bs.length := h
  exact hasAt_encode_iff.2 ⟨hasAt_word64At (by omega), hasAt_word64At (by omega),
    hasAt_word64At (by omega), hasAt_word64At (by omega)⟩

theorem RequestAddress.hasAt_encode_iff {bs : Bytes} {offset : Nat} {a : RequestAddress} :
    HasAt bs offset a.encode
      ↔ HasAt bs offset (bytes32 a.bus) ∧ HasAt bs (offset + 4) (bytes16 a.device)
        ∧ HasAt bs (offset + 6) (bytes16 a.function) := by
  simp only [RequestAddress.encode, hasAt_append_iff, List.length_append, length_bytes32,
    length_bytes16, and_assoc]

theorem RequestAddress.decodeAt_of_hasAt {bs : Bytes} {offset : Nat} {a : RequestAddress}
    (h : HasAt bs offset a.encode) : RequestAddress.decodeAt bs offset = a := by
  obtain ⟨bus, device, function⟩ := hasAt_encode_iff.1 h
  unfold RequestAddress.decodeAt
  rw [word32At_of_hasAt bus, word16At_of_hasAt device, word16At_of_hasAt function]

theorem RequestAddress.hasAt_decodeAt {bs : Bytes} {offset : Nat}
    (h : offset + RequestAddress.size ≤ bs.length) :
    HasAt bs offset (RequestAddress.decodeAt bs offset).encode := by
  have h : offset + 8 ≤ bs.length := h
  exact hasAt_encode_iff.2
    ⟨hasAt_word32At (by omega), hasAt_word16At (by omega), hasAt_word16At (by omega)⟩

namespace HardwareInfo

theorem hasAt_encode_iff {bs : Bytes} {h : HardwareInfo} :
    HasAt bs 0 h.encode
      ↔ (∀ slot : Fin 6,
          HasAt bs (Region.encodedSize * slot.val) (h.slots.entry slot).encode)
        ∧ HasAt bs 192 h.scratch.encode ∧ HasAt bs 224 h.address.encode
        ∧ HasAt bs 232 (bytes16 h.deviceId) ∧ HasAt bs 234 (bytes16 h.subsystemId)
        ∧ HasAt bs 236 (bytes16 h.numaNode) ∧ HasAt bs 238 (bytes16 h.reserved) := by
  have hslots : (h.slots.toList.flatMap Region.encode).length = 192 := by
    rw [List.length_flatMap, List.map_congr_left fun r _ => r.length_encode]
    simp [List.map_const', Region.encodedSize]
  have htable : HasAt bs 0 (h.slots.toList.flatMap Region.encode)
      ↔ ∀ slot : Fin 6, HasAt bs (Region.encodedSize * slot.val) (h.slots.entry slot).encode := by
    rw [hasAt_flatMap_iff Region.length_encode]
    constructor
    · intro all slot
      have there := all slot.val _ (h.slots.getElem?_toList slot)
      rw [Nat.zero_add] at there
      exact there
    · intro all k r hr
      obtain ⟨hk, hr⟩ := List.getElem?_eq_some_iff.1 hr
      have hk : k < 6 := by simpa using hk
      rw [Nat.zero_add, ← hr]
      exact all ⟨k, hk⟩
  unfold encode
  simp only [hasAt_append_iff, htable, List.length_append, hslots, Region.length_encode,
    RequestAddress.length_encode, length_bytes16, Region.encodedSize, RequestAddress.size,
    Nat.zero_add, and_assoc]

/-- Bytes in which the fields of a hardware record lie are read as the record. -/
theorem decode_of_hasAt {bs : Bytes} {h : HardwareInfo} (length : bs.length = size)
    (has : HasAt bs 0 h.encode) : decode bs = .ok h := by
  obtain ⟨slots, scratch, address, deviceId, subsystemId, numaNode, reserved⟩ :=
    hasAt_encode_iff.1 has
  have hslots : (Vector.ofFn fun slot : Fin 6 =>
      Region.decodeAt bs (Region.encodedSize * slot.val)) = h.slots := by
    apply Vector.ext
    intro k hk
    rw [Vector.getElem_ofFn]
    exact Region.decodeAt_of_hasAt (slots ⟨k, hk⟩)
  unfold decode
  rw [if_pos length, hslots, Region.decodeAt_of_hasAt scratch,
    RequestAddress.decodeAt_of_hasAt address, word16At_of_hasAt deviceId,
    word16At_of_hasAt subsystemId, word16At_of_hasAt numaNode, word16At_of_hasAt reserved]

/-- **A hardware record is read as what was written.** -/
theorem decode_encode (h : HardwareInfo) : decode h.encode = .ok h :=
  decode_of_hasAt h.length_encode (hasAt_self _)

/-- **A hardware record is written as what was read.** -/
theorem encode_of_decode {bs : Bytes} {h : HardwareInfo} (decoded : decode bs = .ok h) :
    h.encode = bs := by
  unfold decode at decoded
  split at decoded
  · next length =>
    have length : bs.length = 240 := length
    cases decoded
    refine HasAt.eq (hasAt_encode_iff.2 ⟨?_, ?_, ?_, ?_, ?_, ?_, ?_⟩) ?_
    · intro slot
      rw [PerSlot.entry_ofFn]
      apply Region.hasAt_decodeAt
      have hslot := slot.isLt
      simp only [Region.encodedSize]
      omega
    · exact Region.hasAt_decodeAt (by rw [length]; decide)
    · exact RequestAddress.hasAt_decodeAt (by rw [length]; decide)
    · exact hasAt_word16At (by omega)
    · exact hasAt_word16At (by omega)
    · exact hasAt_word16At (by omega)
    · exact hasAt_word16At (by omega)
    · rw [length_encode, length]
      rfl
  · cases decoded

end HardwareInfo

/-! ## Configuration requests -/

namespace ConfigRequest

theorem hasAt_encode_iff {bs : Bytes} {r : ConfigRequest} :
    HasAt bs 0 r.encode
      ↔ HasAt bs 0 r.address.encode ∧ HasAt bs 8 (bytes32 r.offset)
        ∧ HasAt bs 12 (bytes32 r.operation) ∧ HasAt bs 16 (bytes32 r.width)
        ∧ HasAt bs 20 (bytes32 0) ∧ HasAt bs 24 (bytes64 r.data) := by
  unfold encode
  simp only [hasAt_append_iff, List.length_append, RequestAddress.length_encode, length_bytes32,
    RequestAddress.size, Nat.zero_add, and_assoc]

theorem decode_of_hasAt {bs : Bytes} {r : ConfigRequest} (length : bs.length = size)
    (has : HasAt bs 0 r.encode) : decode bs = .ok r := by
  obtain ⟨address, offset, operation, width, -, data⟩ := hasAt_encode_iff.1 has
  unfold decode
  rw [if_pos length, RequestAddress.decodeAt_of_hasAt address, word32At_of_hasAt offset,
    word32At_of_hasAt operation, word32At_of_hasAt width, word64At_of_hasAt data]

/-- **A configuration request is read as what was written.** -/
theorem decode_encode (r : ConfigRequest) : decode r.encode = .ok r :=
  decode_of_hasAt r.length_encode (hasAt_self _)

/-- **A configuration request is written as what was read**, but for the four bytes that mean
nothing. -/
theorem encode_of_decode {bs : Bytes} {r : ConfigRequest} (decoded : decode bs = .ok r) :
    r.encode = overwrite bs 20 (bytes32 0) := by
  unfold decode at decoded
  split at decoded
  · next length =>
    have length : bs.length = 32 := length
    have fits : 20 + (bytes32 0).length ≤ bs.length := by rw [length]; decide
    cases decoded
    -- All fields that are read lie before or behind the four bytes.
    refine HasAt.eq (hasAt_encode_iff.2 ⟨?_, ?_, ?_, ?_, ?_, ?_⟩) ?_
    · have address : HasAt bs 0 (RequestAddress.decodeAt bs 0).encode :=
        RequestAddress.hasAt_decodeAt (by rw [length]; decide)
      exact address.overwrite fits (.inl (by simp [RequestAddress.size]))
    · exact (hasAt_word32At (by omega)).overwrite fits (.inl (by simp))
    · exact (hasAt_word32At (by omega)).overwrite fits (.inl (by simp))
    · exact (hasAt_word32At (by omega)).overwrite fits (.inl (by simp))
    · exact hasAt_overwrite fits
    · exact (hasAt_word64At (by omega)).overwrite fits (.inr (by simp))
    · rw [length_encode, length_overwrite fits, length]
      rfl
  · cases decoded

end ConfigRequest

end Passthrough
