import Passthrough.Proofs.Driver.Report
import Passthrough.Proofs.Protocol.RoundTrip

/-!
# Passthrough — requests meant for another function

Drivers of several functions are open to the same processes, and a process finds the right one by
asking each.  So an instance first of all looks whether a request is meant for it, in both stages.  What
else may be wrong with the request, and what state the instance is in, is looked at afterwards.

```text
 map the hardware    size of the record ─▶ address ─▶ state, output, mappings
 access              size of the record ─▶ address ─▶ width, output, operation, bus
```

* `Instance.deviceControl_of_foreign` — a request for another function, and what it leaves.
* `Instance.status_ne_of_own` — no check behind the address answers as the check of the address does.
* `Instance.not_same_device_iff` — both together, for every record of the right size.
-/

namespace Passthrough

/-- The function that a request is meant for. -/
def Request.address : Request → RequestAddress
  | .mapHardware info => info.address
  | .configAccess access => access.address

theorem RequestAddress.ne_iff {a b : RequestAddress} :
    a ≠ b ↔ a.bus ≠ b.bus ∨ a.device ≠ b.device ∨ a.function ≠ b.function := by
  obtain ⟨bus, device, function⟩ := a
  obtain ⟨bus', device', function'⟩ := b
  simp only [ne_eq, RequestAddress.mk.injEq, Decidable.not_and_iff_not_or_not]

theorem RecordError.status_ne_notSameDevice (e : RecordError) : e.status ≠ .notSameDevice := by
  cases e <;> exact fun same => nomatch same

/-- A record that was read is the one that goes with the code. -/
theorem Request.record_of_decode {code : ControlCode} {input : Bytes} {r : Request}
    (decoded : Request.decode code input = .ok r) :
    (∃ info, r = .mapHardware info ∧ code.kind? = some .mapHardware
        ∧ HardwareInfo.decode input = .ok info)
      ∨ ∃ access, r = .configAccess access ∧ code.kind? = some .configAccess
        ∧ ConfigRequest.decode input = .ok access := by
  unfold Request.decode at decoded
  split at decoded
  · next kind =>
    cases hinfo : HardwareInfo.decode input with
    | error e =>
      rw [hinfo] at decoded
      cases decoded
    | ok info =>
      rw [hinfo] at decoded
      cases decoded
      exact .inl ⟨info, rfl, kind, rfl⟩
  · next kind =>
    cases haccess : ConfigRequest.decode input with
    | error e =>
      rw [haccess] at decoded
      cases decoded
    | ok access =>
      rw [haccess] at decoded
      cases decoded
      exact .inr ⟨access, rfl, kind, rfl⟩
  · cases decoded

namespace Instance

variable {i i' : Instance} {caller : Caller} {request : IoRequest}

/-! ## Lending, up to the address and behind it -/

theorem mapHardware_of_foreign {info : HardwareInfo}
    (decoded : HardwareInfo.decode request.input = .ok info)
    (foreign : info.address ≠ i.device.address) :
    i.mapHardware caller request = .ok (⟨.error .notSameDevice, request.output⟩, i) := by
  have refused : i.checkAddress info.address = .error .notSameDevice := if_neg foreign
  unfold mapHardware
  rw [decoded]
  dsimp only
  rw [refused]

theorem mapHardware_of_own {info : HardwareInfo}
    (decoded : HardwareInfo.decode request.input = .ok info)
    (own : info.address = i.device.address) :
    i.mapHardware caller request = i.mapIntoCaller caller request.output := by
  have passed : i.checkAddress info.address = .ok () := if_pos own
  unfold mapHardware
  rw [decoded]
  dsimp only
  rw [passed]

/-- Lending has refusals of its own, none of which says that the request was for another function. -/
theorem status_ne_of_mapIntoCaller {output output' : Bytes} {status : Status}
    (h : i.mapIntoCaller caller output = .ok (⟨.error status, output'⟩, i')) :
    status ≠ .notSameDevice := by
  unfold mapIntoCaller at h
  dsimp only at h
  split at h
  · cases h
    decide
  · cases h
    decide
  · cases h
    decide
  · split at h
    · cases h
      decide
    · split at h
      · cases h
        decide
      · obtain ⟨p₀, -, h⟩ := Checked.bind_eq_ok_iff.1 h
        obtain ⟨⟨answer, p₁⟩, -, h⟩ := Checked.bind_eq_ok_iff.1 h
        cases answer with
        | none =>
          cases h
          decide
        | some base =>
          obtain ⟨⟨complete, lent, p₂⟩, -, h⟩ := Checked.bind_eq_ok_iff.1 h
          cases complete with
          | true => cases h
          | false =>
            cases h
            decide

/-! ## The checks of an access, up to the address and behind it -/

/-- The checks of an access whose record can be read: the address, and then the rest. -/
theorem checkConfig_of_decode {access : ConfigRequest}
    (kind : request.code.kind? = some .configAccess)
    (decoded : ConfigRequest.decode request.input = .ok access) :
    i.checkConfig request = (do
      i.checkAddress access.address
      let width ← access.accessWidth.mapError RecordError.status
      if request.output.length < RequestKind.configAccess.outputSize then .error .invalidBufferSize
      let operation ← access.configOperation.mapError RecordError.status
      .ok (access, width, operation)) := by
  unfold checkConfig
  rw [if_neg (not_not_intro kind), decoded]
  rfl

theorem checkConfig_of_foreign {access : ConfigRequest}
    (kind : request.code.kind? = some .configAccess)
    (decoded : ConfigRequest.decode request.input = .ok access)
    (foreign : access.address ≠ i.device.address) :
    i.checkConfig request = .error .notSameDevice := by
  have refused : i.checkAddress access.address = .error .notSameDevice := if_neg foreign
  rw [checkConfig_of_decode kind decoded, refused]
  rfl

theorem status_ne_of_checkConfig {access : ConfigRequest} {status : Status}
    (kind : request.code.kind? = some .configAccess)
    (decoded : ConfigRequest.decode request.input = .ok access)
    (own : access.address = i.device.address)
    (refused : i.checkConfig request = .error status) : status ≠ .notSameDevice := by
  have passed : i.checkAddress access.address = .ok () := if_pos own
  rw [checkConfig_of_decode kind decoded, passed] at refused
  cases hwidth : access.accessWidth with
  | error e =>
    rw [hwidth] at refused
    cases refused
    exact e.status_ne_notSameDevice
  | ok width =>
    rw [hwidth] at refused
    dsimp only [Except.mapError, bind, Except.bind] at refused
    split at refused
    · cases refused
      decide
    · cases hoperation : access.configOperation with
      | error e =>
        rw [hoperation] at refused
        cases refused
        exact e.status_ne_notSameDevice
      | ok operation =>
        rw [hoperation] at refused
        cases refused

/-! ## Both stages -/

/-- A request for another function is refused, in any state and whatever else is wrong with it.  All that
may come of it is one message more. -/
theorem deviceControl_of_foreign (caller : Caller) {r : Request}
    (decoded : Request.decode request.code request.input = .ok r)
    (foreign : r.address ≠ i.device.address) :
    ∃ said : List Message, said.length ≤ 1 ∧ i.deviceControl caller request
      = .ok (⟨⟨.notSameDevice, 0⟩, request.output⟩,
          { i with platform := { i.platform with log := i.platform.log ++ said } }) := by
  unfold deviceControl
  obtain ⟨info, rfl, kind, record⟩ | ⟨access, rfl, kind, record⟩ := Request.record_of_decode decoded
  · unfold inCallerContext
    rw [kind]
    dsimp only
    rw [mapHardware_of_foreign record foreign]
    exact ⟨[_], Nat.le_refl 1, rfl⟩
  · rw [inCallerContext_of_other (by rw [kind]; decide)]
    dsimp only [bind, Except.bind]
    unfold fromQueue
    rw [checkConfig_of_foreign kind record foreign]
    refine ⟨[], Nat.zero_le 1, ?_⟩
    rw [List.append_nil]
    rfl

/-- A request for the instance's own function may fail, but not as one for another function. -/
theorem status_ne_of_own {r : Request} {served : Served}
    (decoded : Request.decode request.code request.input = .ok r)
    (own : r.address = i.device.address)
    (answered : i.deviceControl caller request = .ok (served, i')) :
    served.completion.status ≠ .notSameDevice := by
  obtain ⟨⟨dispatch, i₁⟩, front, answered⟩ := Checked.bind_eq_ok_iff.1 answered
  obtain ⟨info, rfl, kind, record⟩ | ⟨access, rfl, kind, record⟩ := Request.record_of_decode decoded
  · unfold inCallerContext at front
    rw [kind] at front
    obtain ⟨⟨⟨result, output⟩, i₂⟩, mapped, front⟩ := Checked.bind_eq_ok_iff.1 front
    rw [mapHardware_of_own record own] at mapped
    cases front
    cases answered
    cases result with
    | ok count => exact fun h => nomatch h
    | error status => exact status_ne_of_mapIntoCaller mapped
  · rw [inCallerContext_of_other (by rw [kind]; decide)] at front
    cases front
    dsimp only at answered
    unfold fromQueue at answered
    split at answered
    · next status refused =>
      cases answered
      exact status_ne_of_checkConfig kind record own refused
    · obtain ⟨⟨answer, p⟩, -, answered⟩ := Checked.bind_eq_ok_iff.1 answered
      cases answered
      exact fun h => nomatch h

/-- **The address comes first.**  Take an instance in any state, and a request of either kind whose input
has the size of the record, from any caller and with any output buffer.

* The request completes as one for another function exactly if the bus, device or function number of the
  record differs from the instance's.
* If it does, the request always completes, and nothing comes of it but one message at most: no byte of
  output, no call, no change of instance, bus or memory manager.
* The instance's numbers are those that attaching read off the bus, whatever happened since. -/
theorem not_same_device_iff (i : Instance) (caller : Caller) {request : IoRequest} {kind : RequestKind}
    (asks : request.code.kind? = some kind) (whole : request.input.length = kind.inputSize) :
    ∃ r, Request.decode request.code request.input = .ok r
      ∧ ((∃ served i', i.deviceControl caller request = .ok (served, i')
            ∧ served.completion.status = .notSameDevice)
          ↔ r.address.bus ≠ i.device.address.bus ∨ r.address.device ≠ i.device.address.device
            ∨ r.address.function ≠ i.device.address.function)
      ∧ (r.address ≠ i.device.address → ∃ said : List Message, said.length ≤ 1
          ∧ i.deviceControl caller request = .ok (⟨⟨.notSameDevice, 0⟩, request.output⟩,
              { i with platform := { i.platform with log := i.platform.log ++ said } }))
      ∧ ∀ (bus : BusFunction) (memory : KernelMemory) (start : Instance) (events : List Event),
          Instance.attach (Platform.start bus memory) = .ok (.ok start.device, start.platform) →
          Course start events i →
            i.device.address = start.device.address ∧ start.device.PlacedBy bus := by
  obtain ⟨r, decoded⟩ := Request.exists_decode_iff.2
    ⟨kind, ControlCode.kind?_eq_some_iff.1 asks, whole⟩
  refine ⟨r, decoded, ?_, deviceControl_of_foreign caller decoded, ?_⟩
  · rw [← RequestAddress.ne_iff]
    constructor
    · rintro ⟨served, i', answered, status⟩ own
      exact status_ne_of_own decoded own answered status
    · intro foreign
      obtain ⟨said, -, refused⟩ := deviceControl_of_foreign caller decoded foreign
      exact ⟨_, _, refused, rfl⟩
  · intro bus memory start events attached course
    exact ⟨course.identity.1, Instance.placedBy_of_attach attached⟩

/-- A card that is gone, and a request without any output to map the hardware of another one. -/
theorem not_same_device_removed : ∃ (start i : Instance) (events : List Event) (request : IoRequest)
    (said : List Message), Attached start ∧ Course start events i ∧ i.device.state = .released
    ∧ request.output = [] ∧ i.deviceControl ⟨⟨7⟩, ⟨1⟩⟩ request = .ok (⟨⟨.notSameDevice, 0⟩, []⟩,
        { i with platform := { i.platform with log := i.platform.log ++ said } }) := by
  have launched : ((Instance.launch? (Platform.start card .fresh)
      [.prepare card.resources, .deviceControl ⟨⟨7⟩, ⟨1⟩⟩ mapCard, .remove]).any fun i =>
        i.device.state = .released ∧ i.device.address = ⟨3, 0, 0⟩) = true := by
    decide +kernel
  obtain ⟨start, events, i, attached, course, checked⟩ := course_of_launch rfl launched
  obtain ⟨gone, address⟩ := of_decide_eq_true checked
  let stray : Request := .mapHardware (.request ⟨9, 0, 0⟩ 0)
  let request : IoRequest := ⟨stray.controlCode, stray.encode, []⟩
  have asks : request.code.kind? = some .mapHardware := by decide
  obtain ⟨r, decoded, -, refused, -⟩ :=
    not_same_device_iff i ⟨⟨7⟩, ⟨1⟩⟩ asks stray.length_encode
  obtain rfl := Except.ok.inj (decoded.symm.trans stray.decode_encode)
  obtain ⟨said, -, answered⟩ := refused (by rw [address]; decide)
  exact ⟨start, i, events, _, said, attached, course, gone, rfl, answered⟩

end Instance

end Passthrough
