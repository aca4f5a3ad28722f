import Passthrough.Proofs.Protocol.Record
import Passthrough.Protocol.Request

/-!
# Passthrough — requests there and back

The two records are structures that programs in other languages lay out for themselves, so each field has
a place that is not this library's to choose: fields follow each other in the order in which they are
declared, each at the first multiple of its own width.

* `Request.fields` — the fields of a request's record, with their places and numbers.
* `nativeOffsets` — the places that the widths of the fields lead to.
* `Request.round_trip` — what is written stands in its places and is read back; what is read is written
  back as it was, but for four bytes that mean nothing.
-/

namespace Passthrough

open Wire

/-- A field of a record: where it begins, how many bytes it has and the number in it. -/
structure Field where
  offset : Nat
  width : Nat
  value : Nat

/-- The bytes of the field are in their place: byte `k` is digit `k` of the number to base 256. -/
def Field.StandsIn (f : Field) (bs : Bytes) : Prop :=
  ∀ k < f.width, bs[f.offset + k]? = some (UInt8.ofNat (f.value / 256 ^ k))

/-- Where fields of the given widths begin, if the first byte that is free is `free`. -/
def nativeOffsets (free : Nat) : List Nat → List Nat
  | [] => []
  | width :: widths =>
    let offset := (free + width - 1) / width * width
    offset :: nativeOffsets (offset + width) widths

/-! ## The fields of the records -/

def Region.fieldsAt (r : Region) (offset : Nat) : List Field :=
  [⟨offset, 8, r.size.toNat⟩, ⟨offset + 8, 8, r.phys.val.toNat⟩, ⟨offset + 16, 8, r.kernel.val.toNat⟩,
    ⟨offset + 24, 8, r.user.val.toNat⟩]

def RequestAddress.fieldsAt (a : RequestAddress) (offset : Nat) : List Field :=
  [⟨offset, 4, a.bus.toNat⟩, ⟨offset + 4, 2, a.device.toNat⟩, ⟨offset + 6, 2, a.function.toNat⟩]

def HardwareInfo.fields (h : HardwareInfo) : List Field :=
  (List.finRange 6).flatMap (fun slot => (h.slots.entry slot).fieldsAt (32 * slot.val))
    ++ h.scratch.fieldsAt 192 ++ h.address.fieldsAt 224
    ++ [⟨232, 2, h.deviceId.toNat⟩, ⟨234, 2, h.subsystemId.toNat⟩, ⟨236, 2, h.numaNode.toNat⟩,
      ⟨238, 2, h.reserved.toNat⟩]

def ConfigRequest.fields (r : ConfigRequest) : List Field :=
  r.address.fieldsAt 0
    ++ [⟨8, 4, r.offset.toNat⟩, ⟨12, 4, r.operation.toNat⟩, ⟨16, 4, r.width.toNat⟩, ⟨20, 4, 0⟩,
      ⟨24, 8, r.data.toNat⟩]

def Request.fields : Request → List Field
  | .mapHardware info => info.fields
  | .configAccess access => access.fields

/-- The places of the fields are those that their widths lead to. -/
theorem Request.offsets_fields (r : Request) :
    r.fields.map Field.offset = nativeOffsets 0 (r.fields.map Field.width) := by
  cases r with
  | mapHardware info =>
    show info.fields.map Field.offset = nativeOffsets 0 (info.fields.map Field.width)
    have widths : info.fields.map Field.width = List.replicate 28 8 ++ [4, 2, 2, 2, 2, 2, 2] := rfl
    rw [widths]
    rfl
  | configAccess access =>
    show access.fields.map Field.offset = nativeOffsets 0 (access.fields.map Field.width)
    have widths : access.fields.map Field.width = [4, 2, 2, 4, 4, 4, 4, 8] := rfl
    rw [widths]
    rfl

/-! ## Fields that stand in their places -/

theorem getElem?_leBytes {width n k : Nat} (h : k < width) :
    (leBytes width n)[k]? = some (UInt8.ofNat (n / 256 ^ k)) := by
  induction width generalizing n k with
  | zero => omega
  | succ width ih =>
    cases k with
    | zero => simp [leBytes]
    | succ k =>
      have hdigit : n / 256 ^ (k + 1) = n / 256 / 256 ^ k := by
        rw [Nat.pow_succ', Nat.div_div_eq_div_mul]
      rw [leBytes, List.getElem?_cons_succ, ih (by omega), hdigit]

theorem standsIn_of_hasAt {bs : Bytes} {offset width value : Nat}
    (h : HasAt bs offset (leBytes width value)) : Field.StandsIn ⟨offset, width, value⟩ bs := by
  rw [hasAt_iff_getElem?, length_leBytes] at h
  intro k hk
  exact (h k hk).trans (getElem?_leBytes hk)

theorem Region.standsIn_fieldsAt {bs : Bytes} {offset : Nat} {r : Region}
    (h : HasAt bs offset r.encode) : ∀ field ∈ r.fieldsAt offset, field.StandsIn bs := by
  obtain ⟨size, phys, kernel, user⟩ := hasAt_encode_iff.1 h
  simp only [fieldsAt, List.forall_mem_cons]
  exact ⟨standsIn_of_hasAt size, standsIn_of_hasAt phys, standsIn_of_hasAt kernel,
    standsIn_of_hasAt user, List.forall_mem_nil _⟩

theorem RequestAddress.standsIn_fieldsAt {bs : Bytes} {offset : Nat} {a : RequestAddress}
    (h : HasAt bs offset a.encode) : ∀ field ∈ a.fieldsAt offset, field.StandsIn bs := by
  obtain ⟨bus, device, function⟩ := hasAt_encode_iff.1 h
  simp only [fieldsAt, List.forall_mem_cons]
  exact ⟨standsIn_of_hasAt bus, standsIn_of_hasAt device, standsIn_of_hasAt function,
    List.forall_mem_nil _⟩

theorem HardwareInfo.standsIn_fields {bs : Bytes} {h : HardwareInfo} (has : HasAt bs 0 h.encode) :
    ∀ field ∈ h.fields, field.StandsIn bs := by
  obtain ⟨slots, scratch, address, deviceId, subsystemId, numaNode, reserved⟩ :=
    hasAt_encode_iff.1 has
  simp only [fields, List.forall_mem_append, List.forall_mem_cons]
  refine ⟨⟨⟨?_, Region.standsIn_fieldsAt scratch⟩, RequestAddress.standsIn_fieldsAt address⟩,
    standsIn_of_hasAt deviceId, standsIn_of_hasAt subsystemId, standsIn_of_hasAt numaNode,
    standsIn_of_hasAt reserved, List.forall_mem_nil _⟩
  intro field hfield
  obtain ⟨slot, -, hfield⟩ := List.mem_flatMap.1 hfield
  exact Region.standsIn_fieldsAt (slots slot) field hfield

theorem ConfigRequest.standsIn_fields {bs : Bytes} {r : ConfigRequest} (has : HasAt bs 0 r.encode) :
    ∀ field ∈ r.fields, field.StandsIn bs := by
  obtain ⟨address, offset, operation, width, unused, data⟩ := hasAt_encode_iff.1 has
  simp only [fields, List.forall_mem_append, List.forall_mem_cons]
  exact ⟨RequestAddress.standsIn_fieldsAt address, standsIn_of_hasAt offset,
    standsIn_of_hasAt operation, standsIn_of_hasAt width, standsIn_of_hasAt unused,
    standsIn_of_hasAt data, List.forall_mem_nil _⟩

/-! ## Requests of either kind -/

namespace Request

theorem standsIn_fields {bs : Bytes} {r : Request} (has : HasAt bs 0 r.encode) :
    ∀ field ∈ r.fields, field.StandsIn bs := by
  cases r with
  | mapHardware info => exact HardwareInfo.standsIn_fields has
  | configAccess access => exact ConfigRequest.standsIn_fields has

theorem decode_encode (r : Request) : decode r.controlCode r.encode = .ok r := by
  have kind : r.controlCode.kind? = some r.kind := ControlCode.kind?_eq_some_iff.2 rfl
  unfold decode
  rw [kind]
  cases r with
  | mapHardware info =>
    show (HardwareInfo.decode info.encode).map mapHardware = _
    rw [HardwareInfo.decode_encode]
    rfl
  | configAccess access =>
    show (ConfigRequest.decode access.encode).map configAccess = _
    rw [ConfigRequest.decode_encode]
    rfl

/-- The code and the length decide whether an input is read at all. -/
theorem exists_decode_iff {code : ControlCode} {input : Bytes} :
    (∃ r, decode code input = .ok r)
      ↔ ∃ kind : RequestKind, code = kind.controlCode ∧ input.length = kind.inputSize := by
  simp only [← ControlCode.kind?_eq_some_iff]
  unfold decode
  cases code.kind? with
  | none => simp
  | some kind =>
    simp only [Option.some.injEq, exists_eq_left']
    cases kind with
    | mapHardware =>
      show (∃ r, (HardwareInfo.decode input).map mapHardware = .ok r) ↔ input.length = HardwareInfo.size
      unfold HardwareInfo.decode
      split <;> simp [Except.map, *]
    | configAccess =>
      show (∃ r, (ConfigRequest.decode input).map configAccess = .ok r)
        ↔ input.length = ConfigRequest.size
      unfold ConfigRequest.decode
      split <;> simp [Except.map, *]

/-- What an input becomes when it is read and written again. -/
def rewritten (input : Bytes) : RequestKind → Bytes
  | .mapHardware => input
  | .configAccess => input.take 20 ++ [0, 0, 0, 0] ++ input.drop 24

theorem encode_of_decode {code : ControlCode} {input : Bytes} {r : Request}
    (h : decode code input = .ok r) :
    r.controlCode = code ∧ r.encode = rewritten input r.kind := by
  unfold decode at h
  split at h
  · next kind =>
    cases hinfo : HardwareInfo.decode input with
    | error e =>
      rw [hinfo] at h
      cases h
    | ok info =>
      rw [hinfo] at h
      cases h
      exact ⟨(ControlCode.kind?_eq_some_iff.1 kind).symm, HardwareInfo.encode_of_decode hinfo⟩
  · next kind =>
    cases haccess : ConfigRequest.decode input with
    | error e =>
      rw [haccess] at h
      cases h
    | ok access =>
      rw [haccess] at h
      cases h
      exact ⟨(ControlCode.kind?_eq_some_iff.1 kind).symm, ConfigRequest.encode_of_decode haccess⟩
  · cases h

theorem encodeInto_of_short {r : Request} {buffer : Bytes}
    (short : buffer.length < r.kind.inputSize) :
    r.encodeInto buffer = (.error (.bufferSize r.kind.inputSize buffer.length), buffer) := by
  unfold encodeInto writeRecord
  rw [length_encode, if_pos short]

theorem encodeInto_of_room {r : Request} {buffer : Bytes}
    (room : r.kind.inputSize ≤ buffer.length) :
    r.encodeInto buffer = (.ok r.kind.inputSize, r.encode ++ buffer.drop r.kind.inputSize) := by
  unfold encodeInto writeRecord
  rw [length_encode, if_neg (by omega)]

/-- **Requests there and back.**

* A request is written into any buffer that has room for its record.  Each of its fields then stands in
  its native place, lowest byte first, the bytes behind the record are what they were, and the record is
  read as the request.  A shorter buffer is refused and left alone.
* An input is read exactly if its code is one of the two and its length the one that goes with the code.
  The request that was read is written as the bytes that were read, but for the four bytes of a
  configuration request that mean nothing, which become zero. -/
theorem round_trip :
    (∀ (r : Request) (buffer : Bytes),
      (buffer.length < r.kind.inputSize →
        r.encodeInto buffer = (.error (.bufferSize r.kind.inputSize buffer.length), buffer))
      ∧ (r.kind.inputSize ≤ buffer.length →
        ∃ written, r.encodeInto buffer = (.ok r.kind.inputSize, written)
          ∧ written.length = buffer.length
          ∧ (∀ field ∈ r.fields, field.StandsIn written)
          ∧ (∀ k, r.kind.inputSize ≤ k → written[k]? = buffer[k]?)
          ∧ decode r.controlCode (written.take r.kind.inputSize) = .ok r)
      ∧ r.fields.map Field.offset = nativeOffsets 0 (r.fields.map Field.width))
    ∧ ∀ (code : ControlCode) (input : Bytes),
      ((∃ r, decode code input = .ok r)
        ↔ ∃ kind : RequestKind, code = kind.controlCode ∧ input.length = kind.inputSize)
      ∧ ∀ r, decode code input = .ok r →
        r.controlCode = code
          ∧ ∀ buffer, buffer.length = input.length →
            r.encodeInto buffer = (.ok input.length, rewritten input r.kind) := by
  refine ⟨?_, ?_⟩
  · intro r buffer
    refine ⟨encodeInto_of_short, ?_, r.offsets_fields⟩
    intro room
    have length := r.length_encode
    have record : (r.encode ++ buffer.drop r.kind.inputSize).take r.kind.inputSize = r.encode :=
      List.take_left' length
    refine ⟨_, encodeInto_of_room room, ?_, ?_, ?_, ?_⟩
    · rw [List.length_append, List.length_drop, length]
      omega
    · exact standsIn_fields (List.prefix_append _ _)
    · intro k hk
      rw [List.getElem?_append_right (by omega), List.getElem?_drop, length]
      congr 1
      omega
    · rw [record, decode_encode]
  · intro code input
    refine ⟨exists_decode_iff, ?_⟩
    intro r decoded
    obtain ⟨hcode, hencode⟩ := encode_of_decode decoded
    refine ⟨hcode, ?_⟩
    intro buffer hbuffer
    -- The input was read, so it has the length of the record.
    obtain ⟨kind, hkind, hlength⟩ := exists_decode_iff.1 ⟨r, decoded⟩
    have same : r.kind = kind := by
      have both : r.controlCode.kind? = some kind :=
        ControlCode.kind?_eq_some_iff.2 (hcode.trans hkind)
      have own : r.controlCode.kind? = some r.kind := ControlCode.kind?_eq_some_iff.2 rfl
      exact Option.some.inj (own.symm.trans both)
    rw [← same] at hlength
    rw [encodeInto_of_room (by omega), hencode, hlength, List.drop_of_length_le (by omega),
      List.append_nil]

/-- A request to read four bytes, written into forty bytes and read back; and an input of which every
byte is 255. -/
theorem round_trip_configAccess :
    (∃ written, (Request.configAccess (.read ⟨3, 0, 0⟩ 0x10 .dword)).encodeInto
        (List.replicate 40 0xAA) = (.ok 32, written)
      ∧ decode RequestKind.configAccess.controlCode (written.take 32)
        = .ok (.configAccess (.read ⟨3, 0, 0⟩ 0x10 .dword)))
    ∧ ∃ r, decode RequestKind.configAccess.controlCode (List.replicate 32 0xFF) = .ok r
      ∧ r.encodeInto (List.replicate 32 0)
        = (.ok 32, List.replicate 20 0xFF ++ List.replicate 4 0 ++ List.replicate 8 0xFF) := by
  obtain ⟨there, back⟩ := round_trip
  refine ⟨?_, ?_⟩
  · obtain ⟨-, written, -⟩ := there (.configAccess (.read ⟨3, 0, 0⟩ 0x10 .dword))
      (List.replicate 40 0xAA)
    obtain ⟨bytes, answer, -, -, -, decoded⟩ := written (by decide)
    exact ⟨bytes, answer, decoded⟩
  · obtain ⟨readable, again⟩ :=
      back RequestKind.configAccess.controlCode (List.replicate 32 0xFF)
    obtain ⟨r, decoded⟩ := readable.2 ⟨.configAccess, rfl, by decide⟩
    obtain ⟨code, encoded⟩ := again r decoded
    refine ⟨r, decoded, ?_⟩
    have kind : r.kind = .configAccess := by
      cases r with
      | mapHardware info => cases code
      | configAccess access => rfl
    rw [encoded _ (by decide), kind]
    rfl

end Request

end Passthrough
