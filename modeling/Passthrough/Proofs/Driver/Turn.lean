import Passthrough.Proofs.Driver.Pairing

/-!
# Passthrough — what can happen to an instance in one step

`Device.Turn d operation outcome calls d'` lists the ways in which an instance can take an operation:
what it answers, which calls it makes on the platform, and what it holds afterwards.  Each way is one
constructor, and none of them looks at the platform.

* `Instance.turn_of_step` — every step of an instance is a turn, and its platform becomes what the calls
  of the turn make of it.

What holds of every turn therefore holds of every step, whatever the platform answers.
-/

namespace Passthrough

open PlatformCall

/-- Whether the operation changes the surroundings of the instance and not the instance. -/
def Operation.isChange : Operation → Bool
  | .setRegisters _ | .setReadable _ | .setNumaNode _ | .refuseAllocations
  | .refuseRegisters _ | .refuseProcess _ => true
  | _ => false

/-- The statuses of requests that fail before any call: all but success and the want of resources. -/
def Status.Early (s : Status) : Prop := s ≠ .success ∧ s ≠ .insufficientResources
deriving Decidable

/-- How a request is served that fails: with the status, without any bytes, and with its output as it
came. -/
def IoRequest.refused (request : IoRequest) (status : Status) : Served :=
  ⟨⟨status, 0⟩, request.output⟩

namespace Device

/-- The ways in which an instance can take an operation. -/
inductive Turn (d : Device) : Operation → Outcome → List PlatformCall → Device → Prop where
  | prepareReleased (resources : List Resource) (state : d.state = .released) :
      Turn d (.prepare resources) (.prepared (.error .released)) [] d
  | prepareFailed (resources : List Resource) (e : DriverError) (read : Nat)
      (made : List KernelRegion) (refused : List PlatformCall) (state : d.state ≠ .released)
      (refusal : ∀ call ∈ refused, Platform.RefusedRegisters call) :
      Turn d (.prepare resources) (.prepared (.error e))
        (d.context.tearDown ++ .busRead 0 Header.size read
          :: (made.map mapRegion ++ refused ++ made.map unmapRegion))
        (d.bare .attached)
  | prepared (resources : List Resource) (read : Nat) (mapped : PerSlot (Option KernelRegion))
      (state : d.state ≠ .released) :
      Turn d (.prepare resources) (.prepared (.ok ()))
        (d.context.tearDown ++ .busRead 0 Header.size read :: (regions mapped).map mapRegion)
        { d with context := ⟨.hardwarePrepared, mapped, d.context.pool, none⟩ }
  | released :
      Turn d .release .done d.context.tearDown
        (d.bare (if d.state = .released then .released else .attached))
  | removedBefore (state : d.state = .released) : Turn d .remove .done [] d
  | removed (state : d.state ≠ .released) :
      Turn d .remove .done (d.context.tearDown ++ d.context.pool.toList.map .free)
        { d with context := ⟨.released, emptySlots, none, none⟩ }
  | closed (user : UserMapping) (lent : d.context.user = some user) :
      Turn d (.cleanUp user.owner) (.cleaned (.ok true)) (d.context.lent.map takeBack)
        { d with context := { d.context with state := .hardwarePrepared, user := none } }
  | closedOther (caller : Caller) (result : Except DriverError Bool)
      (other : ∀ user, d.context.user = some user → user.owner ≠ caller) :
      Turn d (.cleanUp caller) (.cleaned result) [] d
  /-- A request that is refused before any call. -/
  | refused (caller : Caller) (request : IoRequest) (status : Status) (early : status.Early) :
      Turn d (.deviceControl caller request) (.served (request.refused status)) [] d
  | accessed (caller : Caller) (request : IoRequest) (count : Nat) (output : Bytes)
      (call : PlatformCall) (kind : request.code.kind? = some .configAccess)
      (access : call.isBusAccess = true) :
      Turn d (.deviceControl caller request) (.served ⟨⟨.success, count⟩, output⟩) [call] d
  /-- The pool is cleared, but the process does not get it. -/
  | poolRefused (caller : Caller) (request : IoRequest) (pool : KernelRegion)
      (state : d.state = .hardwarePrepared) (held : d.context.pool = some pool) :
      Turn d (.deviceControl caller request)
        (.served (request.refused .insufficientResources))
        [.zero pool.virt pool.size,
          .mapIntoProcess caller.process pool.virt pool.size .cached none] d
  /-- The process gets the pool and the registers of some slots, and gives them back. -/
  | slotRefused (caller : Caller) (request : IoRequest) (pool region : KernelRegion)
      (base : VirtAddr) (lent : PerSlot (Option VirtAddr)) (state : d.state = .hardwarePrepared)
      (held : d.context.pool = some pool) (recorded : region ∈ regions d.context.registers) :
      Turn d (.deviceControl caller request)
        (.served (request.refused .insufficientResources))
        (.zero pool.virt pool.size
          :: .mapIntoProcess caller.process pool.virt pool.size .cached (some base)
          :: ((slotLoans d.context.registers lent).map (lendSlot caller.process)
              ++ lendRegion caller.process region none
                :: ((⟨caller, base, lent⟩ : UserMapping).mappings d.context.pool
                    d.context.registers).map takeBack)) d
  | lent (caller : Caller) (request : IoRequest) (pool : KernelRegion) (base : VirtAddr)
      (lent : PerSlot (Option VirtAddr)) (d' : Device) (state : d.state = .hardwarePrepared)
      (held : d.context.pool = some pool) (room : HardwareInfo.size ≤ request.output.length)
      (same : ∀ slot : Fin 6,
        (lent.entry slot).isSome = (d.context.registers.entry slot).isSome)
      (result : d' = { d with
        context := { d.context with state := .userMapped, user := some ⟨caller, base, lent⟩ } }) :
      Turn d (.deviceControl caller request)
        (.served ⟨⟨.success, HardwareInfo.size⟩, (d'.describe pool ⟨caller, base, lent⟩).encode
          ++ request.output.drop HardwareInfo.size⟩)
        (.zero pool.virt pool.size
          :: .mapIntoProcess caller.process pool.virt pool.size .cached (some base)
          :: (slotLoans d.context.registers lent).map (lendSlot caller.process)) d'
  | changed (operation : Operation) (change : operation.isChange = true) :
      Turn d operation .done [] d

end Device

theorem RecordError.early (e : RecordError) : e.status.Early := by
  cases e <;> simp [status, Status.Early]

/-- A check whose failures come before any call. -/
def FailsEarly {α : Type} (check : Except Status α) : Prop :=
  ∀ status, check = .error status → status.Early

namespace FailsEarly

theorem ok {α : Type} (a : α) : FailsEarly (.ok a) := by
  intro status h
  cases h

theorem error {α : Type} {status : Status} (h : status.Early) :
    FailsEarly (.error status : Except Status α) := by
  intro status' h'
  cases h'
  exact h

theorem bind {α β : Type} {check : Except Status α} {next : α → Except Status β}
    (h : FailsEarly check) (h' : ∀ a, FailsEarly (next a)) : FailsEarly (check >>= next) := by
  cases check with
  | error status => exact .error (h status rfl)
  | ok a => exact h' a

theorem mapError {α : Type} (check : Except RecordError α) :
    FailsEarly (check.mapError RecordError.status) := by
  cases check with
  | error e => exact .error e.early
  | ok a => exact .ok a

end FailsEarly

namespace Instance

open Platform (Effect effect_allocate effect_free effect_zero effect_mapIntoProcess effect_busRead
  effect_busWrite effect_unmapUser effect_lendSlots)

/-! ## Attaching -/

/-- Attaching allocates the pool, and the instance holds nothing else. -/
theorem effect_attach {p p' : Platform} {device : Device} (h : attach p = .ok (.ok device, p')) :
    ∃ pool, device.context = ⟨.attached, emptySlots, some pool, none⟩
      ∧ Effect p [.allocate poolSize .cached (some pool)] p' ∧ pool.size = poolSize
      ∧ pool.virt.val.toNat + pool.size.toNat = p'.memory.nextKernel.toNat := by
  unfold attach at h
  split at h
  · cases h
  · cases h
  · obtain ⟨⟨answer, p₁⟩, hallocate, h⟩ := Checked.bind_eq_ok_iff.1 h
    cases answer with
    | none => cases h
    | some pool =>
      obtain ⟨effect, size, bound⟩ := effect_allocate hallocate
      cases h
      refine ⟨pool, rfl, effect.say _ _, size, ?_⟩
      rw [size]
      exact bound

/-! ## Preparing, releasing, removing, closing -/

theorem turn_of_prepare {i i' : Instance} {resources : List Resource}
    {result : Except DriverError Unit} (h : i.prepare resources = .ok (result, i')) :
    ∃ calls, i.device.Turn (.prepare resources) (.prepared result) calls i'.device
      ∧ Effect i.platform calls i'.platform := by
  by_cases state : i.device.state = .released
  · rw [prepare_of_released state] at h
    cases h
    exact ⟨[], .prepareReleased resources state, .refl _⟩
  · obtain ⟨calls, preparation, effect⟩ := preparation_of_prepare state h
    refine ⟨_, ?_, effect⟩
    generalize i'.device = prepared at preparation
    cases preparation with
    | short few => exact .prepareFailed resources _ _ [] [] state (by simp)
    | stopped e made refused full stops refusal =>
      exact .prepareFailed resources e _ made refused state refusal
    | paired mapped full enough granted pairs others => exact .prepared resources _ mapped state

/-- Releasing the hardware, after whatever was said about it. -/
theorem turn_of_undone {i warned : Instance} (same : warned.device = i.device)
    (quiet : Effect i.platform [] warned.platform) :
    let undone := warned.endLoan.unmapRegisters
    let i' := if undone.device.state = .released then undone else undone.setState .attached
    i.device.Turn .release .done i.device.context.tearDown i'.device
      ∧ Effect i.platform i.device.context.tearDown i'.platform := by
  dsimp only
  have hdevice := device_unmapRegisters_endLoan warned
  have undone := effect_unmapRegisters_endLoan warned
  rw [same] at hdevice undone
  have whole := quiet.trans undone
  rw [List.nil_append] at whole
  generalize warned.endLoan.unmapRegisters = torn at hdevice whole
  have hstate : torn.device.state = i.device.state := by
    rw [hdevice]
    rfl
  have turn := Device.Turn.released (d := i.device)
  rw [hstate]
  split
  · next released =>
    refine ⟨?_, whole⟩
    rw [if_pos released, ← released] at turn
    rw [hdevice]
    exact turn
  · next live =>
    refine ⟨?_, whole⟩
    rw [if_neg live] at turn
    show i.device.Turn _ _ _ { torn.device with
      context := { torn.device.context with state := .attached } }
    rw [hdevice]
    exact turn

theorem turn_of_release (i : Instance) :
    ∃ calls, i.device.Turn .release .done calls i.release.device
      ∧ Effect i.platform calls i.release.platform := by
  refine ⟨i.device.context.tearDown, ?_⟩
  unfold release
  cases i.device.context.user with
  | none => exact turn_of_undone rfl (.refl _)
  | some user => exact turn_of_undone rfl ((Effect.refl _).say _ _)

theorem device_freePool (i : Instance) :
    i.freePool.device = { i.device with context := { i.device.context with pool := none } } := by
  obtain ⟨⟨address, numaNode, state, registers, pool, user⟩, platform⟩ := i
  cases pool with
  | none => rfl
  | some pool => rfl

theorem effect_freePool (i : Instance) :
    Effect i.platform (i.device.context.pool.toList.map .free) i.freePool.platform := by
  obtain ⟨⟨address, numaNode, state, registers, pool, user⟩, platform⟩ := i
  cases pool with
  | none => exact .refl platform
  | some pool => exact effect_free platform pool

theorem turn_of_remove (i : Instance) :
    ∃ calls, i.device.Turn .remove .done calls i.remove.device
      ∧ Effect i.platform calls i.remove.platform := by
  unfold remove
  split
  · next state => exact ⟨[], .removedBefore state, .refl _⟩
  · next state =>
    have hdevice := device_unmapRegisters_endLoan i
    have undone := effect_unmapRegisters_endLoan i
    have freed := effect_freePool i.endLoan.unmapRegisters
    have hfreed := device_freePool i.endLoan.unmapRegisters
    rw [hdevice] at freed hfreed
    refine ⟨i.device.context.tearDown ++ i.device.context.pool.toList.map .free, ?_, ?_⟩
    · show i.device.Turn _ _ _ { i.endLoan.unmapRegisters.freePool.device with
        context := { i.endLoan.unmapRegisters.freePool.device.context with state := .released } }
      rw [hfreed]
      exact .removed state
    · exact (undone.trans freed).say _ _

theorem turn_of_cleanUp (i : Instance) (caller : Caller) :
    ∃ calls, i.device.Turn (.cleanUp caller) (.cleaned (i.cleanUp caller).1) calls
        (i.cleanUp caller).2.device
      ∧ Effect i.platform calls (i.cleanUp caller).2.platform := by
  unfold cleanUp
  cases huser : i.device.context.user with
  | none =>
    refine ⟨[], .closedOther caller _ ?_, .refl _⟩
    simp [huser]
  | some user =>
    dsimp only
    split
    · next handle =>
      refine ⟨[], .closedOther caller _ ?_, .refl _⟩
      intro user' huser' howner
      cases huser.symm.trans huser'
      exact handle (congrArg Caller.handle howner)
    · next handle =>
      split
      · next process =>
        refine ⟨[], .closedOther caller _ ?_, .refl _⟩
        intro user' huser' howner
        cases huser.symm.trans huser'
        exact process (congrArg Caller.process howner)
      · next process =>
        -- Handle and process agree, so the close is the owner's.
        have howner : user.owner = caller := by
          obtain ⟨⟨⟨p⟩, ⟨h⟩⟩, pool, registers⟩ := user
          obtain ⟨⟨p'⟩, ⟨h'⟩⟩ := caller
          simp_all
        subst howner
        refine ⟨i.device.context.lent.map takeBack, ?_, ?_⟩
        · show i.device.Turn _ _ _ { i.endLoan.device with
            context := { i.endLoan.device.context with state := .hardwarePrepared } }
          rw [device_endLoan]
          exact .closed user huser
        · exact (effect_endLoan i).say _ _

/-! ## Requests -/

theorem failsEarly_checkAddress (i : Instance) (address : RequestAddress) :
    FailsEarly (i.checkAddress address) := by
  unfold checkAddress
  split
  · exact .ok _
  · exact .error (by decide)

/-- Only requests for configuration space pass. -/
theorem kind_of_checkConfig {i : Instance} {request : IoRequest}
    {checked : ConfigRequest × AccessWidth × ConfigOperation}
    (h : i.checkConfig request = .ok checked) : request.code.kind? = some .configAccess := by
  refine Decidable.byContradiction fun other => ?_
  unfold checkConfig at h
  rw [if_pos other] at h
  cases h

theorem failsEarly_checkConfig (i : Instance) (request : IoRequest) :
    FailsEarly (i.checkConfig request) := by
  have operate : ∀ (access : ConfigRequest) (width : AccessWidth),
      FailsEarly (do
        let operation ← access.configOperation.mapError RecordError.status
        .ok (access, width, operation)) :=
    fun access width => .bind (.mapError _) fun operation => .ok _
  have examine : FailsEarly (do
      let access ← (ConfigRequest.decode request.input).mapError RecordError.status
      i.checkAddress access.address
      let width ← access.accessWidth.mapError RecordError.status
      if request.output.length < RequestKind.configAccess.outputSize then .error .invalidBufferSize
      let operation ← access.configOperation.mapError RecordError.status
      .ok (access, width, operation)) := by
    refine .bind (.mapError _) fun access => .bind (i.failsEarly_checkAddress _) fun _ =>
      .bind (.mapError _) fun width => ?_
    dsimp only
    split
    · exact .bind (.error (by decide)) fun _ => operate access width
    · exact operate access width
  -- The checks stand one behind the other, each with a status of its own.
  unfold checkConfig
  dsimp only
  split
  · exact .bind (.error (by decide)) fun _ => examine
  · exact examine

theorem turn_of_mapIntoCaller {i i' : Instance} {caller : Caller} {request : IoRequest}
    {reply : Reply} (h : i.mapIntoCaller caller request.output = .ok (reply, i')) :
    ∃ calls, i.device.Turn (.deviceControl caller request) (.served reply.served) calls i'.device
      ∧ Effect i.platform calls i'.platform := by
  unfold mapIntoCaller at h
  dsimp only at h
  split at h
  · cases h
    exact ⟨[], .refused caller request .alreadyCommitted (by decide), .refl _⟩
  · cases h
    exact ⟨[], .refused caller request .invalidDeviceState (by decide), .refl _⟩
  · cases h
    exact ⟨[], .refused caller request .invalidDeviceState (by decide), .refl _⟩
  · next state =>
    split at h
    · cases h
      exact ⟨[], .refused caller request .invalidBufferSize (by decide), .refl _⟩
    · next room =>
      cases hpool : i.device.context.pool with
      | none =>
        rw [hpool] at h
        cases h
        exact ⟨[], .refused caller request .invalidDeviceState (by decide), .refl _⟩
      | some pool =>
        rw [hpool] at h
        obtain ⟨p₀, hzero, h⟩ := Checked.bind_eq_ok_iff.1 h
        obtain ⟨⟨answer, p₁⟩, hmap, h⟩ := Checked.bind_eq_ok_iff.1 h
        have front := (effect_zero hzero).trans (effect_mapIntoProcess hmap)
        cases answer with
        | none =>
          cases h
          exact ⟨_, .poolRefused caller request pool state hpool, front⟩
        | some base =>
          obtain ⟨⟨complete, lent, p₂⟩, hlend, h⟩ := Checked.bind_eq_ok_iff.1 h
          obtain ⟨made, refused, hmade, effect, -, hend⟩ :=
            effect_lendSlots (List.pairwise_lt_finRange 6) (fun slot _ => freeFrom_emptySlots slot) hlend
          rw [slotLoans_emptySlots, List.nil_append] at hmade
          have whole := front.trans effect
          rw [← hmade] at whole
          cases complete with
          | true =>
            obtain ⟨hrefused, same⟩ := hend
            rw [hrefused, List.append_nil] at whole
            cases h
            refine ⟨_, ?_, whole.say _ _⟩
            rw [HardwareInfo.length_encode]
            refine .lent caller request pool base lent _ state hpool (by omega)
              (fun slot => same slot (List.mem_finRange slot)) ?_
            simp only [setContext, hpool]
          | false =>
            -- The loan that was under way is undone with the pool and the slots lent so far.
            obtain ⟨region, recorded, hrefused⟩ := hend
            rw [hrefused] at whole
            cases h
            refine ⟨_, .slotRefused caller request pool region base lent state hpool recorded, ?_⟩
            have undone := effect_unmapUser p₂ (some pool) i.device.context.registers
              ⟨caller, base, lent⟩
            rw [hpool]
            have all := whole.trans undone
            simp only [List.append_assoc, List.cons_append, List.nil_append] at all
            exact all

theorem turn_of_mapHardware {i i' : Instance} {caller : Caller} {request : IoRequest}
    {reply : Reply} (h : i.mapHardware caller request = .ok (reply, i')) :
    ∃ calls, i.device.Turn (.deviceControl caller request) (.served reply.served) calls i'.device
      ∧ Effect i.platform calls i'.platform := by
  unfold mapHardware at h
  split at h
  · next e _ =>
    cases h
    exact ⟨[], .refused caller request e.status e.early, .refl _⟩
  · next info _ =>
    cases hcheck : i.checkAddress info.address with
    | error status =>
      rw [hcheck] at h
      cases h
      have early := i.failsEarly_checkAddress info.address status hcheck
      exact ⟨[], .refused caller request status early, .refl _⟩
    | ok u =>
      rw [hcheck] at h
      exact turn_of_mapIntoCaller h

/-- Reading the record of an access that passed the checks, or writing it, is one call on the bus. -/
theorem effect_accessConfig {p p' : Platform} {access : ConfigRequest} {width : AccessWidth}
    {operation : ConfigOperation} {output : Bytes} {answer : Nat × Bytes}
    (h : accessConfig p access width operation output = .ok (answer, p')) :
    ∃ call : PlatformCall, call.isBusAccess = true ∧ Effect p [call] p' := by
  cases operation with
  | read =>
    obtain ⟨⟨data, p₁⟩, hread, h⟩ := Checked.bind_eq_ok_iff.1 h
    cases h
    exact ⟨_, rfl, effect_busRead hread⟩
  | write =>
    cases h
    exact ⟨_, rfl, effect_busWrite p access.offset _⟩

theorem turn_of_fromQueue {i i' : Instance} {caller : Caller} {request : IoRequest} {served : Served}
    (h : i.fromQueue request = .ok (served, i')) :
    ∃ calls, i.device.Turn (.deviceControl caller request) (.served served) calls i'.device
      ∧ Effect i.platform calls i'.platform := by
  unfold fromQueue at h
  split at h
  · next status hcheck =>
    cases h
    have early := i.failsEarly_checkConfig request status hcheck
    exact ⟨[], .refused caller request status early, .refl _⟩
  · next access width operation hcheck =>
    obtain ⟨⟨⟨count, output⟩, p⟩, haccess, h⟩ := Checked.bind_eq_ok_iff.1 h
    obtain ⟨call, bus, effect⟩ := effect_accessConfig haccess
    have kind := kind_of_checkConfig hcheck
    cases h
    exact ⟨[call], .accessed caller request count output call kind bus, effect⟩

/-- The first stage completes the requests that it serves. -/
theorem turn_of_inCallerContext {i i' : Instance} {caller : Caller} {request : IoRequest}
    {dispatch : Dispatch} (kind : request.code.kind? = some .mapHardware)
    (h : i.inCallerContext caller request = .ok (dispatch, i')) :
    ∃ served calls, dispatch = .completed served
      ∧ i.device.Turn (.deviceControl caller request) (.served served) calls i'.device
      ∧ Effect i.platform calls i'.platform := by
  unfold inCallerContext at h
  rw [kind] at h
  obtain ⟨⟨⟨result, output⟩, i₂⟩, hmap, h⟩ := Checked.bind_eq_ok_iff.1 h
  obtain ⟨calls, turn, effect⟩ := turn_of_mapHardware hmap
  cases h
  refine ⟨_, calls, rfl, ?_⟩
  -- What is said about a failure leaves instance and calls as they are.
  cases result with
  | ok answer => exact ⟨turn, effect⟩
  | error status =>
    dsimp only
    unfold reportMapFailure
    split
    · exact ⟨turn, effect.say _ _⟩
    · exact ⟨turn, effect.say _ _⟩

/-- All other requests go on to the second stage. -/
theorem inCallerContext_of_other {i : Instance} {caller : Caller} {request : IoRequest}
    (kind : request.code.kind? ≠ some .mapHardware) :
    i.inCallerContext caller request = .ok (.forwarded, i) := by
  unfold inCallerContext
  split
  · next hkind => exact absurd hkind kind
  · rfl

theorem turn_of_deviceControl {i i' : Instance} {caller : Caller} {request : IoRequest}
    {served : Served} (h : i.deviceControl caller request = .ok (served, i')) :
    ∃ calls, i.device.Turn (.deviceControl caller request) (.served served) calls i'.device
      ∧ Effect i.platform calls i'.platform := by
  obtain ⟨⟨dispatch, i₁⟩, hfirst, h⟩ := Checked.bind_eq_ok_iff.1 h
  by_cases kind : request.code.kind? = some .mapHardware
  · obtain ⟨served', calls, rfl, turn, effect⟩ := turn_of_inCallerContext kind hfirst
    cases h
    exact ⟨calls, turn, effect⟩
  · rw [inCallerContext_of_other kind] at hfirst
    cases hfirst
    exact turn_of_fromQueue h

/-! ## Every step is a turn -/

theorem step_of_prepare {i i' : Instance} {resources : List Resource}
    {result : Except DriverError Unit} (h : i.prepare resources = .ok (result, i')) :
    i.step (.prepare resources) = .ok (.prepared result, i') := by
  show (i.prepare resources >>= _) = _
  rw [h]
  rfl

theorem step_of_deviceControl {i i' : Instance} {caller : Caller} {request : IoRequest}
    {served : Served} (h : i.deviceControl caller request = .ok (served, i')) :
    i.step (.deviceControl caller request) = .ok (.served served, i') := by
  show (i.deviceControl caller request >>= _) = _
  rw [h]
  rfl

theorem step_of_cleanUp {i i' : Instance} {caller : Caller} {result : Except DriverError Bool}
    (h : i.cleanUp caller = (result, i')) : i.step (.cleanUp caller) = .ok (.cleaned result, i') := by
  show Except.ok (Outcome.cleaned (i.cleanUp caller).1, (i.cleanUp caller).2) = _
  rw [h]

/-- **Every step is a turn.**  The calls of the turn are all that happens to the platform, after what
the operation changes about it from outside. -/
theorem turn_of_step {i i' : Instance} {operation : Operation} {outcome : Outcome}
    (h : i.step operation = .ok (outcome, i')) :
    ∃ calls, i.device.Turn operation outcome calls i'.device
      ∧ Effect (i.platform.adjust operation) calls i'.platform := by
  cases operation with
  | prepare resources =>
    obtain ⟨⟨result, i₁⟩, hprepare, h⟩ := Checked.bind_eq_ok_iff.1 h
    cases h
    exact turn_of_prepare hprepare
  | release =>
    cases h
    exact turn_of_release i
  | remove =>
    cases h
    exact turn_of_remove i
  | cleanUp caller =>
    cases h
    exact turn_of_cleanUp i caller
  | deviceControl caller request =>
    obtain ⟨⟨served, i₁⟩, hserve, h⟩ := Checked.bind_eq_ok_iff.1 h
    cases h
    exact turn_of_deviceControl hserve
  | setRegisters | setReadable | setNumaNode | refuseAllocations | refuseRegisters
  | refuseProcess =>
    cases h
    exact ⟨[], .changed _ rfl, .refl _⟩

end Instance

end Passthrough
