import Passthrough.Proofs.Driver.SingleOwner

/-!
# Passthrough — what a process is told about the hardware

The answer to a request to map the hardware is put together from three sources: the registers and the
pool that the context holds, the addresses that the memory manager has just handed out, and the identity
read off the bus when the instance was attached.

```text
 slot            0        1        2        3        4        5      scratch
 registers       r₀       ·        ·        r₃       ·        ·        pool
 process         a₁                         a₂                         a₀
 answer       (r₀, a₁)    0        0     (r₃, a₂)    0        0     (pool, a₀)
```

* `Device.PlacedBy`, `Course.identity` — the identity is read off the bus once and kept.
* `Course.laidOut` — addresses in processes are handed out upwards along a course.
* `Region.Describes` — a region of the answer and what it stands for.
* `Course.map_reports_live_mappings` — the answer, field by field and byte by byte.
-/

namespace Passthrough

/-! ## The identity -/

/-- The place of the function is what the bus says, and so is its NUMA node if the bus knows it. -/
def Device.PlacedBy (d : Device) (bus : BusFunction) : Prop :=
  bus.busNumber = some d.address.bus
    ∧ (∃ slot, bus.slot = some slot ∧ d.address.device = slot.device
      ∧ d.address.function = slot.function)
    ∧ d.numaNode = bus.numaNode.getD 0

theorem Instance.placedBy_of_attach {p p' : Platform} {device : Device}
    (h : attach p = .ok (.ok device, p')) : device.PlacedBy p.bus := by
  unfold attach at h
  split at h
  · cases h
  · cases h
  · next bus slot hbus hslot =>
    obtain ⟨⟨answer, p₁⟩, -, h⟩ := Checked.bind_eq_ok_iff.1 h
    cases answer with
    | none => cases h
    | some pool =>
      cases h
      exact ⟨hbus, ⟨slot, hslot, rfl, rfl⟩, rfl⟩

theorem Device.Turn.identity {d d' : Device} {operation : Operation} {outcome : Outcome}
    {calls : List PlatformCall} (turn : d.Turn operation outcome calls d') :
    d'.address = d.address ∧ d'.numaNode = d.numaNode := by
  cases turn with
  | lent _ _ _ _ _ _ _ _ _ _ result =>
    rw [result]
    exact ⟨rfl, rfl⟩
  | _ => exact ⟨rfl, rfl⟩

namespace Course

variable {start i : Instance} {events : List Event}

/-- Nothing that happens to an instance changes its identity. -/
theorem identity (course : Course start events i) :
    i.device.address = start.device.address ∧ i.device.numaNode = start.device.numaNode := by
  induction course with
  | rest => exact ⟨rfl, rfl⟩
  | step _ stepped recorded ih =>
    obtain ⟨turn, -⟩ := Instance.turn_of_recorded stepped recorded
    obtain ⟨address, node⟩ := turn.identity
    exact ⟨address.trans ih.1, node.trans ih.2⟩

/-! ## Addresses in processes -/

/-- **Addresses are handed out upwards.**  Whatever happens, the mappings alive in processes lie one
behind the other. -/
theorem laidOut {floor : Nat} (course : Course start events i)
    (h : LaidOut floor start.platform.memory.nextUser start.platform.memory.processMappings) :
    LaidOut floor i.platform.memory.nextUser i.platform.memory.processMappings := by
  induction course with
  | rest => exact h
  | step _ stepped recorded ih =>
    obtain ⟨-, effect⟩ := Instance.turn_of_recorded stepped recorded
    apply effect.laid
    rw [Platform.nextUser_adjust, Platform.processMappings_adjust]
    exact ih

end Course

/-- After an attach the addresses in processes start where the memory manager had them start. -/
theorem Instance.laidOut_of_attach {p p' : Platform} {device : Device}
    (fresh : p.memory.ledger = ⟨[], [], []⟩) (h : attach p = .ok (.ok device, p')) :
    LaidOut p.memory.nextUser.toNat p'.memory.nextUser p'.memory.processMappings := by
  obtain ⟨pool, -, effect, -⟩ := effect_attach h
  have none_yet : p.memory.processMappings = [] := congrArg Ledger.processes fresh
  apply effect.laid
  rw [none_yet]
  exact ⟨.nil, by simp, by simp, Nat.le_refl _⟩

theorem VirtAddr.ne_null {floor : Nat} {base : VirtAddr} (positive : 0 < floor)
    (above : floor ≤ base.val.toNat) : base ≠ .null := by
  rintro rfl
  exact absurd (Nat.lt_of_lt_of_le positive above) (Nat.lt_irrefl 0)

/-! ## Regions of the answer -/

namespace Region

/-- The process that was given the region finds the address in it. -/
def Holds (r : Region) (va : VirtAddr) : Prop :=
  r.user.val.toNat ≤ va.val.toNat ∧ va.val.toNat < r.user.val.toNat + r.size.toNat

/-- The region stands for a range that is mapped into the kernel, and says where the process finds it but
not where the kernel does; or there is no such range, and the region is empty. -/
def Describes (r : Region) : Option KernelRegion → Prop
  | some range => r.size = range.size ∧ r.phys = range.phys ∧ r.kernel = .null ∧ r.user ≠ .null
  | none => r = .empty

theorem not_holds_empty (va : VirtAddr) : ¬empty.Holds va := by
  unfold Holds empty
  simp

/-- A region holds the addresses that the mapping of the process covers. -/
theorem holds_iff_covers {r : Region} {process : ProcessId} {va : VirtAddr}
    (inside : (r.lentTo process).stop < UInt64.size) :
    r.Holds va ↔ (r.lentTo process).covers process va = true := by
  have bound : r.user.val.toNat + r.size.toNat < UInt64.size := inside
  unfold Holds lentTo ProcessMapping.covers
  simp only [decide_true, Bool.true_and, Bool.and_eq_true, decide_eq_true_eq]
  rw [UInt64.le_iff_toNat_le, UInt64.lt_iff_toNat_lt]
  constructor
  · rintro ⟨above, below⟩
    rw [UInt64.toNat_sub_of_le _ _ (UInt64.le_iff_toNat_le.2 above)]
    omega
  · rintro ⟨above, below⟩
    rw [UInt64.toNat_sub_of_le _ _ (UInt64.le_iff_toNat_le.2 above)] at below
    omega

/-- A region that ends before another begins shares no address with it. -/
theorem apart_of_stop_le {a b : Region} {process : ProcessId}
    (before : (a.lentTo process).stop ≤ b.user.val.toNat) (va : VirtAddr) :
    ¬(a.Holds va ∧ b.Holds va) := by
  rintro ⟨⟨-, below⟩, above, -⟩
  have stop : va.val.toNat < (a.lentTo process).stop := below
  omega

end Region

/-- The regions that a record reports: the pool, then the slots. -/
def HardwareInfo.reported (info : HardwareInfo) : List Region := info.scratch :: info.slots.toList

namespace Device

section Describe

variable {d : Device} {pool : KernelRegion} {user : UserMapping} {floor : Nat} {next : UInt64}

/-- What the record says of a slot or the pool is there, unless it says nothing. -/
theorem lentTo_mem_lent (h : d.context.Orderly) (held : d.context.pool = some pool)
    (lent : d.context.user = some user) {region : Region}
    (reported : region ∈ (d.describe pool user).reported) :
    region = .empty ∨ region.lentTo user.owner.process ∈ d.context.lent := by
  rcases List.mem_cons.1 reported with rfl | reported
  · exact .inr ((mem_lent_iff h held lent).2 (.inl rfl))
  · rw [PerSlot.toList_eq_map] at reported
    obtain ⟨slot, -, rfl⟩ := List.mem_map.1 reported
    have described := describe_slot h lent pool slot
    cases hregion : d.context.registers.entry slot with
    | none =>
      rw [hregion] at described
      exact .inl described
    | some range =>
      exact .inr ((mem_lent_iff h held lent).2 (.inr ⟨slot, by rw [hregion]; rfl, rfl⟩))

/-- No two regions of a record share an address. -/
theorem pairwise_reported (h : d.context.Orderly) (held : d.context.pool = some pool)
    (lent : d.context.user = some user) (laid : LaidOut floor next d.context.lent) :
    (d.describe pool user).reported.Pairwise fun a b => ∀ va, ¬(a.Holds va ∧ b.Holds va) := by
  have ordered := laid.ordered
  rw [lent_eq h held lent, List.pairwise_cons, List.pairwise_map, List.pairwise_filter] at ordered
  obtain ⟨first, rest⟩ := ordered
  -- A slot without registers is empty, so only those with registers matter.
  have recorded : ∀ {slot : Fin 6} {va : VirtAddr},
      ((d.describe pool user).slots.entry slot).Holds va →
        (d.context.registers.entry slot).isSome = true := by
    intro slot va holds
    refine Decidable.byContradiction fun absent => ?_
    have described := describe_slot h lent pool slot
    rw [Option.not_isSome_iff_eq_none.1 absent] at described
    rw [described] at holds
    exact Region.not_holds_empty va holds
  unfold HardwareInfo.reported
  rw [PerSlot.toList_eq_map, List.pairwise_cons, List.pairwise_map]
  constructor
  · intro region hregion va both
    obtain ⟨slot, hslot, rfl⟩ := List.mem_map.1 hregion
    refine Region.apart_of_stop_le (first _ (List.mem_map.2 ⟨slot, ?_, rfl⟩)) va both
    exact List.mem_filter.2 ⟨hslot, recorded both.2⟩
  · refine rest.imp fun {s t} before va both => ?_
    exact Region.apart_of_stop_le (before (recorded both.1) (recorded both.2)) va both

/-- Each slot of the record describes the registers of its slot. -/
theorem describes_slot (h : d.context.Orderly) (held : d.context.pool = some pool)
    (lent : d.context.user = some user) (laid : LaidOut floor next d.context.lent)
    (positive : 0 < floor) (slot : Fin 6) :
    ((d.describe pool user).slots.entry slot).Describes (d.context.registers.entry slot) := by
  have described := describe_slot h lent pool slot
  cases hregion : d.context.registers.entry slot with
  | none =>
    rw [hregion] at described
    exact described
  | some range =>
    rw [hregion] at described
    obtain ⟨base, -, hentry⟩ := described
    have mapped := (mem_lent_iff h held lent).2 (.inr ⟨slot, by rw [hregion]; rfl, rfl⟩)
    have above := laid.above _ mapped
    rw [hentry] at above ⊢
    exact ⟨rfl, rfl, rfl, VirtAddr.ne_null positive above⟩

theorem describes_scratch (h : d.context.Orderly) (held : d.context.pool = some pool)
    (lent : d.context.user = some user) (laid : LaidOut floor next d.context.lent)
    (positive : 0 < floor) : (d.describe pool user).scratch.Describes (some pool) := by
  have above := laid.above _ ((mem_lent_iff h held lent).2 (.inl rfl))
  exact ⟨rfl, rfl, rfl, VirtAddr.ne_null positive above⟩

end Describe

end Device

/-- **The answer is what is mapped.**  Take any course from an attach on a memory manager that does not
hand out the null address, and a request to map the hardware that succeeds after it, from any caller and
with an output buffer of any length.

* The hardware was prepared, and the answer is one record at the front of the output; the output behind
  it is as it came.
* Slot by slot the record describes the registers that are mapped into the kernel, and as the scratch
  region it describes the pool: size and physical address as the instance holds them, an address in the
  process, no address in the kernel.  The other slots are empty.
* Place and NUMA node are those that attaching read off the bus.
* Every address of every region of the record lies in a mapping alive in the caller's process.  The
  regions end within the address space, and no two of them share an address. -/
theorem Course.map_reports_live_mappings {bus : BusFunction} {memory : KernelMemory}
    {start i i' : Instance} {events : List Event} {caller : Caller} {request : IoRequest}
    {served : Served} (fresh : memory.ledger = ⟨[], [], []⟩) (positive : 0 < memory.nextUser)
    (attached :
      Instance.attach (Platform.start bus memory) = .ok (.ok start.device, start.platform))
    (course : Course start events i) (answered : i.deviceControl caller request = .ok (served, i'))
    (kind : request.code.kind? = some .mapHardware)
    (success : served.completion.status = .success) :
    i.device.state = .hardwarePrepared ∧ HardwareInfo.size ≤ request.output.length
      ∧ served.completion.information = HardwareInfo.size
      ∧ served.output.length = request.output.length
      ∧ served.output.drop HardwareInfo.size = request.output.drop HardwareInfo.size
      ∧ ∃ info, HardwareInfo.decode (served.output.take HardwareInfo.size) = .ok info
        ∧ (∀ slot : Fin 6,
            (info.slots.entry slot).Describes (i.device.context.registers.entry slot))
        ∧ (∃ pool, i.device.context.pool = some pool ∧ info.scratch.Describes (some pool))
        ∧ start.device.PlacedBy bus ∧ info.address = start.device.address
        ∧ info.numaNode = start.device.numaNode
        ∧ (∀ region ∈ info.reported,
            region.user.val.toNat + region.size.toNat < UInt64.size
              ∧ ∀ va, region.Holds va → i'.platform.memory.covers caller.process va = true)
        ∧ info.reported.Pairwise fun a b => ∀ va, ¬(a.Holds va ∧ b.Holds va) := by
  rw [UInt64.lt_iff_toNat_lt] at positive
  obtain ⟨calls, turn, effect⟩ := Instance.turn_of_deviceControl answered
  obtain ⟨state, room, pool, user, held, rfl, result, answer⟩ := turn.of_success kind success
  -- The instance after the request is orderly, and its loan is what the memory manager lists.
  have before := course.balanced (Attached.balanced ⟨bus, memory, fresh, attached⟩)
  have after := before.step (Instance.step_of_deviceControl answered)
  have laid := effect.laid _ (course.laidOut (Instance.laidOut_of_attach fresh attached))
  have holds : i'.device.context.pool = some pool := by
    rw [result]
    exact held
  have lent : i'.device.context.user = some user := by
    rw [result]
  have registers : i'.device.context.registers = i.device.context.registers := by
    rw [result]
  have listed := after.processMappings_eq
  rw [listed] at laid
  have length := (i'.device.describe pool user).length_encode
  refine ⟨state, room, ?_, ?_, ?_, i'.device.describe pool user, ?_, ?_, ?_, ?_⟩
  · rw [answer]
  · rw [answer, List.length_append, List.length_drop, length]
    omega
  · rw [answer, List.drop_left' length]
  · rw [answer, List.take_left' length, HardwareInfo.decode_encode]
  · rw [← registers]
    exact Device.describes_slot after.orderly holds lent laid positive
  · exact ⟨pool, held, Device.describes_scratch after.orderly holds lent laid positive⟩
  · obtain ⟨address, node⟩ := course.identity
    obtain ⟨address', node'⟩ := turn.identity
    refine ⟨Instance.placedBy_of_attach attached, address'.trans address, node'.trans node, ?_,
      Device.pairwise_reported after.orderly holds lent laid⟩
    intro region reported
    rcases Device.lentTo_mem_lent after.orderly holds lent reported with rfl | mapped
    · exact ⟨by decide, fun va empty => absurd empty (Region.not_holds_empty va)⟩
    · have inside := Nat.lt_of_le_of_lt (laid.below _ mapped) i'.platform.memory.nextUser.toNat_lt
      refine ⟨inside, fun va hva => ?_⟩
      show i'.platform.memory.processMappings.any _ = true
      rw [listed]
      exact List.any_eq_true.2 ⟨_, mapped, (Region.holds_iff_covers inside).1 hva⟩

/-- A card that process 7 maps: the answer names its place and the registers of slot 3, says nothing of
slot 1, and lets the process find the pool. -/
theorem map_reports_live_mappings_card : ∃ (start i i' : Instance) (events : List Event)
    (served : Served) (info : HardwareInfo), Course start events i
    ∧ i.deviceControl ⟨⟨7⟩, ⟨1⟩⟩ mapCard = .ok (served, i')
    ∧ HardwareInfo.decode (served.output.take HardwareInfo.size) = .ok info
    ∧ info.address.bus = 3 ∧ (info.slots.entry 3).size = 0x20000 ∧ info.slots.entry 1 = .empty
    ∧ ∀ va, info.scratch.Holds va → i'.platform.memory.covers ⟨7⟩ va = true := by
  have launched : ((Instance.launch? (Platform.start card .fresh) [.prepare card.resources]).any
      fun i => i.device.context.registers.entry 1 = none
        && (i.device.context.registers.entry 3).any (·.size = 0x20000)
        && match i.deviceControl ⟨⟨7⟩, ⟨1⟩⟩ mapCard with
          | .ok (served, _) => served.completion.status = .success
          | .error _ => false) = true := by
    decide +kernel
  obtain ⟨start, events, i, attached, course, checked⟩ := attach_of_launch launched
  obtain ⟨registers, succeeds⟩ := Bool.and_eq_true_iff.1 checked
  obtain ⟨unused, used⟩ := Bool.and_eq_true_iff.1 registers
  obtain ⟨range, hrange, size⟩ := (Option.any_eq_true _ _).1 used
  split at succeeds
  · next served i' answered =>
    obtain ⟨-, -, -, -, -, info, decoded, slots, -, ⟨bus, -⟩, address, -, covered, -⟩ :=
      Course.map_reports_live_mappings rfl (by decide) attached course answered (by decide)
        (of_decide_eq_true succeeds)
    have third := slots 3
    rw [hrange] at third
    have first := slots 1
    rw [of_decide_eq_true unused] at first
    refine ⟨start, i, i', events, served, info, course, answered, decoded, ?_,
      third.1.trans (of_decide_eq_true size), first, (covered _ List.mem_cons_self).2⟩
    rw [address]
    exact (Option.some.inj bus).symm
  · cases succeeds

end Passthrough
