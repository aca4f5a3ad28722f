import Passthrough.Proofs.Driver.CallerContext
import Passthrough.Proofs.Driver.SingleOwner

/-!
# Passthrough — closing a handle

A close by the owner takes back what a request to map the hardware lent.  Between the two the instance
may be asked for anything by anyone; as long as nothing ends the loan, the close leads back to where the
request came from.

```text
 i₀ ── map ──▶ lent ── accesses, refused requests, closes by others ──▶ lent
  ▲                                                                      │
  └───────────────────────── close by the owner ─────────────────────────┘
```

* `Instance.cleanUp_of_owner`, `cleanUp_of_wrongProcess`, `cleanUp_of_other` — the three ends of a close.
* `LentSince`, `Course.lentSince` — where a loan goes back to.
* `Instance.CanLend`, `Instance.exists_mapped` — what a request to map the hardware needs to succeed.
* `Course.cleanUp_undoes_mapping` — a close undoes the request that lent, for the owner only.
-/

namespace Passthrough

/-! ## The ends of a close -/

namespace Instance

variable {i : Instance} {user : UserMapping} {caller : Caller}

theorem cleanUp_of_owner (lent : i.device.context.user = some user) :
    ∃ i', i.cleanUp user.owner = (.ok true, i')
      ∧ i'.device = { i.device with
        context := { i.device.context with state := .hardwarePrepared, user := none } } := by
  unfold cleanUp
  rw [lent]
  dsimp only
  rw [if_neg (fun other => other rfl), if_neg (fun other => other rfl)]
  refine ⟨_, rfl, ?_⟩
  show { i.endLoan.device with
    context := { i.endLoan.device.context with state := .hardwarePrepared } } = _
  rw [device_endLoan]

theorem cleanUp_of_wrongProcess (lent : i.device.context.user = some user)
    (handle : user.owner.handle = caller.handle) (process : user.owner.process ≠ caller.process) :
    i.cleanUp caller = (.error (.wrongProcess user.owner.process caller.process), i) := by
  unfold cleanUp
  rw [lent]
  dsimp only
  rw [if_neg (fun other => other handle), if_pos process]

theorem cleanUp_of_other
    (other : ∀ user, i.device.context.user = some user → user.owner.handle ≠ caller.handle) :
    i.cleanUp caller = (.ok false, i) := by
  unfold cleanUp
  cases lent : i.device.context.user with
  | none => rfl
  | some user => exact if_pos (other user lent)

end Instance

/-! ## Where a loan goes back to -/

/-- Among the events that lead to `i` is a request of `owner` that mapped the hardware.  It found the
instance `i₀`, and no event after it ends the loan. -/
inductive LentSince (start : Instance) (owner : Caller) (i₀ : Instance) :
    List Event → Instance → Prop where
  | intro {before after : List Event} {request : IoRequest} {served : Served}
      {calls : List PlatformCall} {i : Instance} (i₁ : Instance) (leads : Course start before i₀)
      (answered : i₀.deviceControl owner request = .ok (served, i₁))
      (kind : request.code.kind? = some .mapHardware)
      (success : served.completion.status = .success) (on : Course i₁ after i)
      (others : ∀ event ∈ after, event.operation.endsLoanOf owner = false) :
      LentSince start owner i₀
        (before ++ ⟨.deviceControl owner request, .served served, calls⟩ :: after) i

/-- An operation that a loan outlives does not end it. -/
theorem Device.Turn.endsLoanOf_eq_false {d d' : Device} {operation : Operation} {outcome : Outcome}
    {calls : List PlatformCall} {user : UserMapping}
    (turn : d.Turn operation outcome calls d') (h : d.context.Orderly)
    (lent : d.context.user = some user) (still : d'.context.user = some user) :
    operation.endsLoanOf user.owner = false := by
  have live : d.state ≠ .released := by
    rw [Device.state, h.state_of_user lent]
    decide
  cases turn with
  | prepareReleased _ state | removedBefore state => exact absurd state live
  | prepareFailed | prepared | released | removed | closed => cases still
  | closedOther caller _ other => exact decide_eq_false fun same => other user lent same.symm
  | changed _ change => cases operation <;> first | rfl | cases change
  | _ => rfl

/-- A request that leaves a loan where there was none has succeeded. -/
theorem Device.Turn.success_of_lent {d d' : Device} {caller : Caller} {request : IoRequest}
    {served : Served} {calls : List PlatformCall} {user : UserMapping}
    (turn : d.Turn (.deviceControl caller request) (.served served) calls d')
    (unlent : d.context.user = none) (lent : d'.context.user = some user) :
    served.completion.status = .success := by
  cases turn with
  | lent | accessed => rfl
  | _ =>
    rw [unlent] at lent
    cases lent

/-- Only requests to map the hardware lend it: what is served from the queue leaves the instance alone. -/
theorem Instance.kind_of_lent {i i' : Instance} {caller : Caller} {request : IoRequest}
    {served : Served} {user : UserMapping} (answered : i.deviceControl caller request = .ok (served, i'))
    (unlent : i.device.context.user = none) (lent : i'.device.context.user = some user) :
    request.code.kind? = some .mapHardware := by
  refine Decidable.byContradiction fun other => ?_
  unfold deviceControl at answered
  rw [inCallerContext_of_other other] at answered
  obtain ⟨device, -⟩ := fromQueue_of_ok answered
  rw [device, unlent] at lent
  cases lent

theorem LentSince.step {start i₀ i i' : Instance} {owner : Caller} {events : List Event}
    {operation : Operation} {outcome : Outcome} {calls : List PlatformCall}
    (since : LentSince start owner i₀ events i) (stepped : i.step operation = .ok (outcome, i'))
    (recorded : i'.platform.calls = i.platform.calls ++ calls)
    (other : operation.endsLoanOf owner = false) :
    LentSince start owner i₀ (events ++ [⟨operation, outcome, calls⟩]) i' := by
  obtain ⟨i₁, leads, answered, kind, success, on, others⟩ := since
  rw [List.append_assoc, List.cons_append]
  refine .intro i₁ leads answered kind success (on.step stepped recorded) fun event hevent => ?_
  rcases List.mem_append.1 hevent with hevent | hevent
  · exact others event hevent
  · rw [List.mem_singleton.1 hevent]
    exact other

/-- A loan goes back to a request of its owner. -/
theorem Course.lentSince {start i : Instance} {events : List Event} {user : UserMapping}
    (course : Course start events i) (attached : Attached start)
    (lent : i.device.context.user = some user) : ∃ i₀, LentSince start user.owner i₀ events i := by
  induction course with
  | rest =>
    rw [attached.user_eq_none] at lent
    cases lent
  | @step events i i' operation outcome calls before stepped recorded ih =>
    obtain ⟨turn, -⟩ := Instance.turn_of_recorded stepped recorded
    have orderly := (before.balanced attached.balanced).orderly
    rcases turn.loan_before lent with already | ⟨state, request, rfl⟩
    · -- The loan is older than the event, which therefore comes after the request that lent.
      obtain ⟨i₀, since⟩ := ih already
      exact ⟨i₀, since.step stepped recorded (turn.endsLoanOf_eq_false orderly already lent)⟩
    · obtain ⟨⟨served, i₁⟩, answered, stepped⟩ := Checked.bind_eq_ok_iff.1 stepped
      cases stepped
      have unlent := orderly.user_eq_none_of_prepared state
      exact ⟨i, .intro i' before answered (Instance.kind_of_lent answered unlent lent)
        (turn.success_of_lent unlent lent) .rest (by simp)⟩

theorem LentSince.state {start i i₀ : Instance} {events : List Event} {owner : Caller}
    (since : LentSince start owner i₀ events i) : i₀.device.state = .hardwarePrepared := by
  obtain ⟨i₁, -, answered, kind, success, -, -⟩ := since
  obtain ⟨calls, turn, -⟩ := Instance.turn_of_deviceControl answered
  exact (turn.of_success kind success).1

/-- **A close by the owner leads back.**  Device and ledger are what they were when the request came that
lent. -/
theorem LentSince.restores {start i i₀ : Instance} {events : List Event} {owner : Caller}
    (since : LentSince start owner i₀ events i) (attached : Attached start) :
    ∃ i', i.cleanUp owner = (.ok true, i') ∧ i'.Balanced ∧ i'.device = i₀.device
      ∧ i'.platform.memory.ledger = i₀.platform.memory.ledger := by
  obtain ⟨i₁, leads, answered, kind, success, on, others⟩ := since
  have balanced₀ := leads.balanced attached.balanced
  have balanced₁ := balanced₀.step (Instance.step_of_deviceControl answered)
  obtain ⟨calls', turn, -⟩ := Instance.turn_of_deviceControl answered
  obtain ⟨state, -, pool, user, held, rfl, result, -⟩ := turn.of_success kind success
  have lent : i₁.device.context.user = some user := by
    rw [result]
  -- The loan is still there and has not moved, so the close finds it as the request left it.
  obtain ⟨kept, -, -⟩ := on.keeps_loan balanced₁ lent others
  rw [← kept] at lent
  obtain ⟨i', closed, device⟩ := Instance.cleanUp_of_owner lent
  have back : i'.device = i₀.device := by
    have unlent := balanced₀.orderly.user_eq_none_of_prepared state
    rw [device, kept, result]
    obtain ⟨⟨address, node, ⟨state₀, registers, pool₀, user₀⟩⟩, platform⟩ := i₀
    cases (show state₀ = .hardwarePrepared from state)
    cases (show user₀ = none from unlent)
    rfl
  have balanced' := (on.balanced balanced₁).step (Instance.step_of_cleanUp closed)
  refine ⟨i', closed, balanced', back, ?_⟩
  rw [balanced'.ledger, back, balanced₀.ledger]

/-! ## Mapping again -/

/-- The mapping into a process that comes after `n` others is granted. -/
def KernelMemory.Lends (m : KernelMemory) (n : Nat) : Prop :=
  Granted m.refuseProcess m.processCalls n

/-- What a loan consists of: the pool and the registers of the slots. -/
def Context.ranges (c : Context) : List KernelRegion := c.pool.toList ++ regions c.registers

/-- The memory manager grants every mapping of a loan, and neither addresses nor the count of cleared
bytes run out. -/
structure Instance.CanLend (i : Instance) : Prop where
  granted : ∀ n < i.device.context.ranges.length, i.platform.memory.Lends n
  room : i.platform.memory.nextUser.toNat
    + (i.device.context.ranges.map fun range => range.size.toNat).sum < UInt64.size
  cleared : ∀ pool ∈ i.device.context.pool,
    i.platform.memory.zeroed.toNat + pool.size.toNat < UInt64.size

instance (m : KernelMemory) (n : Nat) : Decidable (m.Lends n) :=
  inferInstanceAs (Decidable (Granted m.refuseProcess m.processCalls n))

instance (i : Instance) : Decidable i.CanLend :=
  decidable_of_iff ((∀ n < i.device.context.ranges.length, i.platform.memory.Lends n)
      ∧ i.platform.memory.nextUser.toNat
        + (i.device.context.ranges.map fun range => range.size.toNat).sum < UInt64.size
      ∧ ∀ pool ∈ i.device.context.pool,
        i.platform.memory.zeroed.toNat + pool.size.toNat < UInt64.size)
    ⟨fun ⟨granted, room, cleared⟩ => ⟨granted, room, cleared⟩,
      fun ⟨granted, room, cleared⟩ => ⟨granted, room, cleared⟩⟩

/-- The request asks for the hardware of the function at `address` and has room for the answer. -/
structure IoRequest.Maps (request : IoRequest) (address : RequestAddress) : Prop where
  kind : request.code.kind? = some .mapHardware
  named : ∃ info, HardwareInfo.decode request.input = .ok info ∧ info.address = address
  long : HardwareInfo.size ≤ request.output.length

namespace Platform

theorem exists_zero {p : Platform} {region : KernelRegion}
    (room : p.memory.zeroed.toNat + region.size.toNat < UInt64.size) :
    ∃ p', p.zero region = .ok p' ∧ p'.memory.nextUser = p.memory.nextUser
      ∧ ∀ n, p'.memory.Lends n ↔ p.memory.Lends n := by
  unfold zero KernelMemory.zero addChecked
  rw [if_pos room]
  exact ⟨_, rfl, rfl, fun _ => Iff.rfl⟩

/-- A mapping that is granted and has room is made. -/
theorem exists_mapIntoProcess {p : Platform} (process : ProcessId) {region : KernelRegion}
    (cache : CacheKind) (granted : p.memory.Lends 0)
    (room : p.memory.nextUser.toNat + region.size.toNat < UInt64.size) :
    ∃ base p', p.mapIntoProcess process region cache = .ok (some base, p')
      ∧ p'.memory.nextUser.toNat = p.memory.nextUser.toNat + region.size.toNat
      ∧ ∀ n, p'.memory.Lends n ↔ p.memory.Lends (n + 1) := by
  have sum : addChecked p.memory.nextUser region.size
      = .ok (p.memory.nextUser + region.size) := if_pos room
  have unrefused : p.memory.refuseProcess ≠ some p.memory.processCalls := granted
  unfold mapIntoProcess KernelMemory.mapIntoProcess
  dsimp only
  rw [if_neg unrefused, sum]
  exact ⟨_, _, rfl, addChecked_eq_ok_iff.1 sum, fun n => granted_succ_iff⟩

/-- The registers of all slots are lent if each of these mappings is granted and has room. -/
theorem exists_lendSlots {process : ProcessId} {registers : PerSlot (Option KernelRegion)}
    {slots : List (Fin 6)} {lent : PerSlot (Option VirtAddr)} {p : Platform}
    (granted : ∀ n < (slots.filterMap registers.entry).length, p.memory.Lends n)
    (room : p.memory.nextUser.toNat
      + ((slots.filterMap registers.entry).map fun range => range.size.toNat).sum < UInt64.size) :
    ∃ lent' p', lendSlots process registers slots lent p = .ok (true, lent', p') := by
  induction slots generalizing lent p with
  | nil => exact ⟨lent, p, rfl⟩
  | cons slot slots ih =>
    unfold lendSlots
    cases hregion : registers.entry slot with
    | none =>
      rw [List.filterMap_cons_none hregion] at granted room
      exact ih granted room
    | some region =>
      rw [List.filterMap_cons_some hregion] at granted room
      rw [List.map_cons, List.sum_cons] at room
      have fits : p.memory.nextUser.toNat + region.size.toNat < UInt64.size := by omega
      obtain ⟨base, p₁, mapped, next, later⟩ :=
        exists_mapIntoProcess process .nonCached (granted 0 (Nat.succ_pos _)) fits
      dsimp only
      rw [mapped]
      refine ih (fun n hn => (later n).2 (granted (n + 1) (Nat.succ_lt_succ hn))) ?_
      rw [next]
      omega

end Platform

theorem regions_eq (registers : PerSlot (Option KernelRegion)) :
    regions registers = (List.finRange 6).filterMap registers.entry := by
  unfold regions
  rw [PerSlot.toList_eq_map, List.filterMap_map]
  rfl

namespace Instance

/-- **A loan that can be made is made**, to any caller with room for the answer. -/
theorem exists_mapIntoCaller {i : Instance} (caller : Caller) {output : Bytes}
    (orderly : i.device.context.Orderly) (state : i.device.state = .hardwarePrepared)
    (able : i.CanLend) (long : HardwareInfo.size ≤ output.length) :
    ∃ output' i', i.mapIntoCaller caller output = .ok (⟨.ok HardwareInfo.size, output'⟩, i') := by
  obtain ⟨granted, room, cleared⟩ := able
  have state' : i.device.context.state = .hardwarePrepared := state
  cases held : i.device.context.pool with
  | none =>
    rw [orderly.gone.2 held] at state'
    cases state'
  | some pool =>
    have ranges : i.device.context.ranges = pool :: regions i.device.context.registers := by
      unfold Context.ranges
      rw [held]
      rfl
    rw [ranges] at granted room
    rw [List.map_cons, List.sum_cons] at room
    obtain ⟨p₀, hzero, same, zeroed⟩ := Platform.exists_zero (cleared pool held)
    -- The pool takes the first mapping, the slots the others.
    have fits : p₀.memory.nextUser.toNat + pool.size.toNat < UInt64.size := by
      rw [same]
      omega
    obtain ⟨base, p₁, mapped, next, later⟩ := Platform.exists_mapIntoProcess caller.process .cached
      ((zeroed 0).2 (granted 0 (Nat.succ_pos _))) fits
    rw [same] at next
    have lending : ∃ lent p₂, p₁.lendSlots caller.process i.device.context.registers
        (List.finRange 6) emptySlots = .ok (true, lent, p₂) := by
      apply Platform.exists_lendSlots
      · intro n hn
        rw [← regions_eq] at hn
        exact (later n).2 ((zeroed _).2 (granted (n + 1) (Nat.succ_lt_succ hn)))
      · rw [← regions_eq, next]
        omega
    obtain ⟨lent, p₂, lends⟩ := lending
    unfold mapIntoCaller
    dsimp only
    rw [state', held]
    dsimp only
    rw [if_neg (Nat.not_lt.2 long), hzero]
    dsimp only [Bind.bind, Except.bind]
    rw [mapped]
    dsimp only
    rw [lends]
    dsimp only
    rw [if_pos rfl, HardwareInfo.length_encode]
    exact ⟨_, _, rfl⟩

theorem exists_mapped {i : Instance} (caller : Caller) {request : IoRequest}
    (orderly : i.device.context.Orderly) (state : i.device.state = .hardwarePrepared)
    (able : i.CanLend) (asks : request.Maps i.device.address) :
    ∃ served i', i.deviceControl caller request = .ok (served, i')
      ∧ served.completion = ⟨.success, HardwareInfo.size⟩ := by
  obtain ⟨kind, ⟨info, decoded, named⟩, long⟩ := asks
  obtain ⟨output, i', mapped⟩ := exists_mapIntoCaller caller orderly state able long
  have checked : i.checkAddress info.address = .ok () := if_pos named
  have served : i.mapHardware caller request = .ok (⟨.ok HardwareInfo.size, output⟩, i') := by
    unfold mapHardware
    rw [decoded]
    dsimp only
    rw [checked]
    exact mapped
  unfold deviceControl inCallerContext
  rw [kind]
  dsimp only
  rw [served]
  exact ⟨_, _, rfl, rfl⟩

end Instance

/-- **A close undoes the request that lent, for the owner only.**  Take any course from an attach and any
caller that closes a handle after it.

* If the hardware is lent to just that process and handle, the loan goes back to a request of the caller
  that succeeded, and since then nothing was prepared, released or removed and the caller did not close.
* From any such request on, whatever was asked for in between, the close answers that it took the loan
  back.  Device and ledger are those that the request found, and any process can map the hardware again if
  it asks properly and the memory manager can lend.
* If the handle is that of the loan and the process is not, the close fails, names both processes, and
  leaves everything as it was.
* In all other cases the answer is that there was nothing to take back, and everything is as it was. -/
theorem Course.cleanUp_undoes_mapping {start i : Instance} {events : List Event}
    (attached : Attached start) (course : Course start events i) (caller : Caller) :
    (∀ user, i.device.context.user = some user → user.owner = caller →
        ∃ i₀, LentSince start caller i₀ events i)
      ∧ (∀ i₀, LentSince start caller i₀ events i →
        ∃ i', i.cleanUp caller = (.ok true, i') ∧ i'.device = i₀.device
          ∧ i'.platform.memory.ledger = i₀.platform.memory.ledger
          ∧ ∀ (other : Caller) (request : IoRequest), request.Maps i'.device.address → i'.CanLend →
              ∃ served i'', i'.deviceControl other request = .ok (served, i'')
                ∧ served.completion = ⟨.success, HardwareInfo.size⟩)
      ∧ (∀ user, i.device.context.user = some user → user.owner.handle = caller.handle →
        user.owner.process ≠ caller.process →
          i.cleanUp caller = (.error (.wrongProcess user.owner.process caller.process), i))
      ∧ ((∀ user, i.device.context.user = some user → user.owner.handle ≠ caller.handle) →
        i.cleanUp caller = (.ok false, i)) := by
  refine ⟨?_, ?_, fun user => Instance.cleanUp_of_wrongProcess, Instance.cleanUp_of_other⟩
  · rintro user lent rfl
    exact course.lentSince attached lent
  · intro i₀ since
    obtain ⟨i', closed, balanced, device, ledger⟩ := since.restores attached
    refine ⟨i', closed, device, ledger, fun other request asks able => ?_⟩
    refine Instance.exists_mapped other balanced.orderly ?_ able asks
    rw [device]
    exact since.state

/-- A card that process 7 maps, that process 8 then asks for in vain and whose handle it closes, and that
process 7 closes: afterwards process 8 can map it. -/
theorem cleanUp_undoes_mapping_card : ∃ (start i i' i'' : Instance) (events : List Event)
    (served : Served), Attached start ∧ Course start events i ∧ i.device.state = .userMapped
    ∧ i.cleanUp ⟨⟨8⟩, ⟨1⟩⟩ = (.error (.wrongProcess ⟨7⟩ ⟨8⟩), i)
    ∧ i.cleanUp ⟨⟨7⟩, ⟨1⟩⟩ = (.ok true, i')
    ∧ i'.deviceControl ⟨⟨8⟩, ⟨2⟩⟩ mapCard = .ok (served, i'')
    ∧ served.completion = ⟨.success, HardwareInfo.size⟩ := by
  have launched : ((Instance.launch? (Platform.start card .fresh)
      [.prepare card.resources, .deviceControl ⟨⟨7⟩, ⟨1⟩⟩ mapCard,
        .deviceControl ⟨⟨8⟩, ⟨2⟩⟩ mapCard, .cleanUp ⟨⟨8⟩, ⟨2⟩⟩]).any fun i =>
      i.device.state = .userMapped
        ∧ i.device.context.user.map UserMapping.owner = some ⟨⟨7⟩, ⟨1⟩⟩
        ∧ (i.cleanUp ⟨⟨7⟩, ⟨1⟩⟩).2.device.address = ⟨3, 0, 0⟩
        ∧ (i.cleanUp ⟨⟨7⟩, ⟨1⟩⟩).2.CanLend) = true := by
    decide +kernel
  obtain ⟨start, events, i, attached, course, checked⟩ := course_of_launch rfl launched
  obtain ⟨mapped, owned, address, able⟩ := of_decide_eq_true checked
  obtain ⟨user, lent, owner⟩ := Option.map_eq_some_iff.1 owned
  have asks : mapCard.Maps ⟨3, 0, 0⟩ :=
    ⟨by decide, ⟨_, HardwareInfo.decode_encode _, rfl⟩, Nat.le_of_eq List.length_replicate.symm⟩
  obtain ⟨goesBack, restores, -⟩ := Course.cleanUp_undoes_mapping attached course ⟨⟨7⟩, ⟨1⟩⟩
  obtain ⟨-, -, refused, -⟩ := Course.cleanUp_undoes_mapping attached course ⟨⟨8⟩, ⟨1⟩⟩
  have wrong := refused user lent (by rw [owner]) (by rw [owner]; decide)
  rw [owner] at wrong
  obtain ⟨i₀, since⟩ := goesBack user lent owner
  obtain ⟨i', closed, -, -, again⟩ := restores i₀ since
  rw [closed] at address able
  rw [← address] at asks
  obtain ⟨served, i'', answered, completion⟩ := again ⟨⟨8⟩, ⟨2⟩⟩ mapCard asks able
  exact ⟨start, i, i', i'', events, served, attached, course, mapped, wrong, closed, answered,
    completion⟩

end Passthrough
