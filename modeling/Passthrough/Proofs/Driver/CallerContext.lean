import Passthrough.Proofs.Driver.SingleOwner

/-!
# Passthrough — who works in whose process

A driver can change the address space of a process only while it runs in that process.  The first stage
of a request and the close of a handle do; the parallel queue does not.  So the queue must keep off the
memory manager, and what runs in a process must name that process and no other.

* `Instance.fromQueue_of_ok`, `Instance.fromQueue_of_fault` — the queue works on the bus alone.
* `Device.Turn.off_bus` — requests that the first stage serves keep off the bus.
* `Instance.inCallerContext_onBus` — on another bus the first stage does the same, faults included.
* `Device.Turn.own_process` — what is mapped or unmapped for a caller lies in the caller's process.
* `Instance.caller_context` — the two stages and the close of a handle together.
-/

namespace Passthrough

open Platform (Effect)

/-- The process whose address space a call changes. -/
def PlatformCall.process? : PlatformCall → Option ProcessId
  | .mapIntoProcess process .. | .unmapFromProcess process .. => some process
  | _ => none

/-! ## The queue -/

namespace Instance

theorem accessConfig_of_ok {p p' : Platform} {access : ConfigRequest} {width : AccessWidth}
    {operation : ConfigOperation} {output : Bytes} {answer : Nat × Bytes}
    (h : accessConfig p access width operation output = .ok (answer, p')) :
    p'.memory = p.memory := by
  cases operation with
  | read =>
    obtain ⟨⟨data, p₁⟩, hread, h⟩ := Checked.bind_eq_ok_iff.1 h
    obtain ⟨⟨bytes, bus⟩, -, hread⟩ := Checked.bind_eq_ok_iff.1 hread
    cases hread
    cases h
    rfl
  | write =>
    cases h
    rfl

/-- What the queue serves changes neither the instance nor the memory manager, and every call it makes
goes to the bus. -/
theorem fromQueue_of_ok {i i' : Instance} {request : IoRequest} {served : Served}
    (h : i.fromQueue request = .ok (served, i')) :
    i'.device = i.device ∧ i'.platform.memory = i.platform.memory
      ∧ ∃ calls, i'.platform.calls = i.platform.calls ++ calls
        ∧ ∀ call ∈ calls, call.isBusAccess = true := by
  unfold fromQueue at h
  split at h
  · cases h
    exact ⟨rfl, rfl, [], (List.append_nil _).symm, by simp⟩
  · obtain ⟨⟨answer, p⟩, haccess, h⟩ := Checked.bind_eq_ok_iff.1 h
    obtain ⟨call, bus, effect⟩ := effect_accessConfig haccess
    have memory := accessConfig_of_ok haccess
    cases h
    refine ⟨rfl, memory, [call], effect.recorded, ?_⟩
    intro call' hcall
    rw [List.mem_singleton.1 hcall]
    exact bus

/-- A fault in the queue is a fault of the bus at its first call. -/
theorem fromQueue_of_fault {i : Instance} {request : IoRequest} {fault : Fault}
    (h : i.fromQueue request = .error fault) :
    ∃ offset length, i.platform.busRead offset length = .error fault := by
  unfold fromQueue at h
  split at h
  · cases h
  · next access width operation _ =>
    cases operation with
    | write => cases h
    | read =>
      refine ⟨access.offset, width.bytes, ?_⟩
      cases hread : i.platform.busRead access.offset width.bytes with
      | ok answer =>
        simp only [accessConfig, hread] at h
        cases h
      | error fault' =>
        simp only [accessConfig, hread] at h
        cases h
        rfl

/-- The queue refuses a request to map the hardware, whatever else is in it. -/
theorem fromQueue_of_mapHardware (i : Instance) {request : IoRequest}
    (kind : request.code.kind? = some .mapHardware) :
    i.fromQueue request = .ok (⟨⟨.invalidDeviceRequest, 0⟩, request.output⟩, i) := by
  have refused : i.checkConfig request = .error .invalidDeviceRequest := by
    unfold checkConfig
    rw [kind]
    rfl
  unfold fromQueue
  rw [refused]
  rfl

end Instance

/-! ## The first stage and the close of a handle -/

namespace Device

variable {d d' : Device} {operation : Operation} {outcome : Outcome} {calls : List PlatformCall}

/-- A request to map the hardware keeps off the bus, whether it succeeds, is refused or is undone. -/
theorem Turn.off_bus {caller : Caller} {request : IoRequest}
    (turn : d.Turn (.deviceControl caller request) outcome calls d')
    (kind : request.code.kind? = some .mapHardware) : ∀ call ∈ calls, call.isBusAccess = false := by
  intro call hcall
  cases turn with
  | refused => cases hcall
  | accessed _ _ count output call other access =>
    rw [kind] at other
    cases other
  | poolRefused _ _ pool state held =>
    simp only [List.mem_cons, List.not_mem_nil, or_false] at hcall
    rcases hcall with rfl | rfl <;> rfl
  | slotRefused _ _ pool region base lent state held recorded =>
    simp only [List.mem_cons, List.mem_append, List.mem_map] at hcall
    rcases hcall with rfl | rfl | ⟨loan, -, rfl⟩ | rfl | ⟨m, -, rfl⟩ <;> rfl
  | lent _ _ pool base lent d' state held room same result =>
    simp only [List.mem_cons, List.mem_map] at hcall
    rcases hcall with rfl | rfl | ⟨loan, -, rfl⟩ <;> rfl
  | changed _ change => cases hcall

end Device

/-- All mappings of a loan lie in the process of its owner. -/
theorem UserMapping.process_of_mem_mappings {user : UserMapping} {pool : Option KernelRegion}
    {registers : PerSlot (Option KernelRegion)} {m : ProcessMapping}
    (h : m ∈ user.mappings pool registers) : m.process = user.owner.process := by
  rcases List.mem_append.1 h with h | h
  · obtain ⟨region, -, rfl⟩ := List.mem_map.1 h
    rfl
  · obtain ⟨loan, -, rfl⟩ := List.mem_map.1 h
    rfl

namespace Device

variable {d d' : Device} {operation : Operation} {outcome : Outcome} {calls : List PlatformCall}

/-- **Everyone in his own process.**  What a turn maps or unmaps for a caller lies in the process of the
caller. -/
theorem Turn.own_process (turn : d.Turn operation outcome calls d') {caller : Caller}
    (asked : operation.requester? = some caller) :
    ∀ call ∈ calls, ∀ process, call.process? = some process → process = caller.process := by
  intro call hcall process hprocess
  cases call with
  | mapIntoProcess process' base length cache answer =>
    cases hprocess
    obtain ⟨-, caller', asked', own⟩ := turn.mapped_for_requester hcall
    rw [asked] at asked'
    cases asked'
    exact own
  | unmapFromProcess process' base length =>
    cases hprocess
    -- Only a close by the owner and a request that is undone halfway take mappings back for a caller.
    cases turn with
    | closed user lent =>
      cases asked
      obtain ⟨m, hm, heq⟩ := List.mem_map.1 hcall
      cases heq
      rw [Context.lent, lent] at hm
      exact UserMapping.process_of_mem_mappings hm
    | slotRefused caller' request pool region base' lent state held recorded =>
      cases asked
      simp only [List.mem_cons, List.mem_append, List.mem_map, reduceCtorEq, false_or] at hcall
      rcases hcall with ⟨loan, -, heq⟩ | heq | ⟨m, hm, heq⟩
      · cases heq
      · cases heq
      · cases heq
        exact UserMapping.process_of_mem_mappings hm
    | accessed caller' request count output call kind access =>
      rw [← List.mem_singleton.1 hcall] at access
      cases access
    | poolRefused => simp at hcall
    | lent caller' request pool base' lent d' state held room same result =>
      simp only [List.mem_cons, List.mem_map, reduceCtorEq, false_or] at hcall
      obtain ⟨loan, -, heq⟩ := hcall
      cases heq
    | closedOther | refused => cases hcall
    | prepareReleased | prepareFailed | prepared | released | removedBefore | removed => cases asked
    | changed operation change => cases hcall
  | allocate | free | mapRegisters | unmapRegisters | zero | busRead | busWrite => cases hprocess

end Device

/-! ## The first stage on another bus -/

/-- Two sequences whose parts differ by translations of their results differ by one themselves. -/
theorem Checked.bind_translated {α β : Type} {t : α → α} {u : β → β} {x : Checked α}
    {f g : α → Checked β} (h : ∀ a, g (t a) = (f a).map u) : (x.map t >>= g) = (x >>= f).map u := by
  cases x with
  | error fault => rfl
  | ok a => exact h a

def Platform.onBus (bus : BusFunction) (p : Platform) : Platform := { p with bus }

def Instance.onBus (bus : BusFunction) (i : Instance) : Instance :=
  { i with platform := i.platform.onBus bus }

namespace Platform

variable (bus : BusFunction)

theorem zero_onBus (p : Platform) (region : KernelRegion) :
    (p.onBus bus).zero region = (p.zero region).map (onBus bus) := by
  show (p.memory.zero region.size >>= _) = (p.memory.zero region.size >>= _).map _
  cases p.memory.zero region.size <;> rfl

theorem mapIntoProcess_onBus (p : Platform) (process : ProcessId) (region : KernelRegion)
    (cache : CacheKind) :
    (p.onBus bus).mapIntoProcess process region cache
      = (p.mapIntoProcess process region cache).map (Prod.map id (onBus bus)) := by
  show (p.memory.mapIntoProcess process region.size >>= _)
    = (p.memory.mapIntoProcess process region.size >>= _).map _
  cases p.memory.mapIntoProcess process region.size <;> rfl

theorem unmapUser_onBus (p : Platform) (pool : Option KernelRegion)
    (registers : PerSlot (Option KernelRegion)) (user : UserMapping) :
    (p.onBus bus).unmapUser pool registers user = (p.unmapUser pool registers user).onBus bus := by
  rw [unmapUser_eq_foldl, unmapUser_eq_foldl]
  induction user.mappings pool registers generalizing p with
  | nil => rfl
  | cons m undone ih => exact ih (p.unmapFromProcess m.process m.base m.length)

theorem lendSlots_onBus (process : ProcessId) (registers : PerSlot (Option KernelRegion))
    (slots : List (Fin 6)) (lent : PerSlot (Option VirtAddr)) (p : Platform) :
    (p.onBus bus).lendSlots process registers slots lent
      = (p.lendSlots process registers slots lent).map (Prod.map id (Prod.map id (onBus bus))) := by
  induction slots generalizing lent p with
  | nil => rfl
  | cons slot slots ih =>
    unfold lendSlots
    cases registers.entry slot with
    | none => exact ih lent p
    | some region =>
      dsimp only
      rw [mapIntoProcess_onBus]
      refine Checked.bind_translated ?_
      rintro ⟨answer, p⟩
      cases answer with
      | none => rfl
      | some base => exact ih _ p

end Platform

namespace Instance

variable (bus : BusFunction)

theorem mapIntoCaller_onBus (i : Instance) (caller : Caller) (output : Bytes) :
    (i.onBus bus).mapIntoCaller caller output
      = (i.mapIntoCaller caller output).map (Prod.map id (onBus bus)) := by
  obtain ⟨⟨address, numaNode, state, registers, pool, user⟩, p⟩ := i
  unfold mapIntoCaller
  cases state with
  | userMapped | attached | released => rfl
  | hardwarePrepared =>
    dsimp only [onBus]
    split
    · rfl
    · cases pool with
      | none => rfl
      | some pool =>
        dsimp only
        rw [Platform.zero_onBus]
        refine Checked.bind_translated fun p => ?_
        rw [Platform.mapIntoProcess_onBus]
        refine Checked.bind_translated ?_
        rintro ⟨answer, p⟩
        cases answer with
        | none => rfl
        | some base =>
          dsimp only [Prod.map, id]
          rw [Platform.lendSlots_onBus]
          refine Checked.bind_translated ?_
          rintro ⟨complete, lent, p⟩
          cases complete with
          | true => rfl
          | false =>
            dsimp only [Prod.map, id]
            rw [Platform.unmapUser_onBus]
            rfl

theorem mapHardware_onBus (i : Instance) (caller : Caller) (request : IoRequest) :
    (i.onBus bus).mapHardware caller request
      = (i.mapHardware caller request).map (Prod.map id (onBus bus)) := by
  unfold mapHardware
  cases HardwareInfo.decode request.input with
  | error e => rfl
  | ok info =>
    have checked : (i.onBus bus).checkAddress info.address = i.checkAddress info.address := rfl
    dsimp only
    rw [checked]
    cases i.checkAddress info.address with
    | error status => rfl
    | ok u => exact mapIntoCaller_onBus bus i caller request.output

/-- The first stage does the same whatever the bus is, and faults alike. -/
theorem inCallerContext_onBus (i : Instance) (caller : Caller) (request : IoRequest) :
    (i.onBus bus).inCallerContext caller request
      = (i.inCallerContext caller request).map (Prod.map id (onBus bus)) := by
  unfold inCallerContext
  split
  · rw [mapHardware_onBus]
    refine Checked.bind_translated ?_
    rintro ⟨⟨result, output⟩, i⟩
    cases result with
    | ok count => rfl
    | error status =>
      show Except.ok (_, (i.onBus bus).reportMapFailure status)
        = Except.ok (_, (i.reportMapFailure status).onBus bus)
      unfold reportMapFailure
      split <;> rfl
  · rfl

/-! ## Both stages and the close -/

/-- **Caller-context discipline.**  Whatever an instance holds and whatever the request is:

* The queue leaves the instance and the memory manager alone: every call it makes goes to the bus, and
  if it faults, the bus does.  A request to map the hardware it answers as invalid.
* The first stage leaves the bus alone: no call it makes goes there, and on another bus it does the
  same, faults included.  It forwards exactly the requests that do not ask to map the hardware, and
  forwards them untouched.
* What is mapped into a process or taken back from one, in both stages together and when a handle is
  closed, lies in the process of the caller. -/
theorem caller_context (i : Instance) (caller : Caller) (request : IoRequest) :
    (∀ served i', i.fromQueue request = .ok (served, i') →
        i'.device = i.device ∧ i'.platform.memory = i.platform.memory
          ∧ ∃ calls, i'.platform.calls = i.platform.calls ++ calls
            ∧ ∀ call ∈ calls, call.isBusAccess = true)
      ∧ (∀ fault, i.fromQueue request = .error fault →
          ∃ offset length, i.platform.busRead offset length = .error fault)
      ∧ (request.code = RequestKind.mapHardware.controlCode →
          i.fromQueue request = .ok (⟨⟨.invalidDeviceRequest, 0⟩, request.output⟩, i))
      ∧ (∀ dispatch i', i.inCallerContext caller request = .ok (dispatch, i') →
          (dispatch = .forwarded ↔ request.code ≠ RequestKind.mapHardware.controlCode)
            ∧ i'.platform.bus = i.platform.bus
            ∧ ∃ calls, i'.platform.calls = i.platform.calls ++ calls
              ∧ ∀ call ∈ calls, call.isBusAccess = false)
      ∧ (∀ bus, (i.onBus bus).inCallerContext caller request
          = (i.inCallerContext caller request).map (Prod.map id (onBus bus)))
      ∧ (request.code ≠ RequestKind.mapHardware.controlCode →
          i.inCallerContext caller request = .ok (.forwarded, i))
      ∧ (∀ served i', i.deviceControl caller request = .ok (served, i') →
          ∃ calls, i'.platform.calls = i.platform.calls ++ calls
            ∧ ∀ call ∈ calls, ∀ process, call.process? = some process → process = caller.process)
      ∧ ∃ calls, (i.cleanUp caller).2.platform.calls = i.platform.calls ++ calls
          ∧ ∀ call ∈ calls, ∀ process, call.process? = some process → process = caller.process := by
  have kind_iff : request.code.kind? = some .mapHardware
      ↔ request.code = RequestKind.mapHardware.controlCode := ControlCode.kind?_eq_some_iff
  refine ⟨fun _ _ => fromQueue_of_ok, fun _ => fromQueue_of_fault, ?_, ?_, ?_, ?_, ?_, ?_⟩
  · intro code
    exact i.fromQueue_of_mapHardware (kind_iff.2 code)
  · intro dispatch i' first
    by_cases code : request.code = RequestKind.mapHardware.controlCode
    · have kind := kind_iff.2 code
      obtain ⟨served, calls, completed, turn, effect⟩ := turn_of_inCallerContext kind first
      have quiet := turn.off_bus kind
      refine ⟨?_, effect.bus quiet, calls, effect.recorded, quiet⟩
      rw [completed]
      exact iff_of_false (by simp) (not_not_intro code)
    · rw [inCallerContext_of_other (mt kind_iff.1 code)] at first
      cases first
      exact ⟨iff_of_true rfl code, rfl, [], (List.append_nil _).symm, by simp⟩
  · intro bus
    exact inCallerContext_onBus bus i caller request
  · intro code
    exact inCallerContext_of_other (mt kind_iff.1 code)
  · intro served i' answered
    obtain ⟨calls, turn, effect⟩ := turn_of_deviceControl answered
    exact ⟨calls, effect.recorded, turn.own_process rfl⟩
  · obtain ⟨calls, turn, effect⟩ := turn_of_cleanUp i caller
    exact ⟨calls, effect.recorded, turn.own_process rfl⟩

/-- A card that is lent to process 7: the queue refuses to map it, and the close takes the loan back
from process 7. -/
theorem caller_context_card : ∃ i : Instance, i.device.state = .userMapped
    ∧ i.fromQueue mapCard = .ok (⟨⟨.invalidDeviceRequest, 0⟩, mapCard.output⟩, i)
    ∧ ∃ calls, calls ≠ []
      ∧ (i.cleanUp ⟨⟨7⟩, ⟨1⟩⟩).2.platform.calls = i.platform.calls ++ calls
      ∧ ∀ call ∈ calls, ∀ process, call.process? = some process → process = ⟨7⟩ := by
  have launched : ((Instance.launch? (Platform.start card .fresh)
      [.prepare card.resources, .deviceControl ⟨⟨7⟩, ⟨1⟩⟩ mapCard]).any
        fun i => i.device.state = .userMapped
          ∧ i.platform.calls ≠ (i.cleanUp ⟨⟨7⟩, ⟨1⟩⟩).2.platform.calls) = true := by
    decide +kernel
  obtain ⟨-, -, i, -, -, checked⟩ := course_of_launch rfl launched
  obtain ⟨mapped, changed⟩ := of_decide_eq_true checked
  obtain ⟨-, -, refused, -, -, -, -, calls, recorded, own⟩ := caller_context i ⟨⟨7⟩, ⟨1⟩⟩ mapCard
  refine ⟨i, mapped, refused rfl, calls, ?_, recorded, own⟩
  rintro rfl
  exact changed (by rw [recorded, List.append_nil])

end Instance

end Passthrough
