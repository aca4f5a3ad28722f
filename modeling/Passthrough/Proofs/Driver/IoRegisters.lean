import Passthrough.Proofs.Driver.Preparation
import Passthrough.Proofs.Pci.Pairs

/-!
# Passthrough — registers in I/O space

A base address register with bit 0 set describes ports, and the bits above it are address bits.  There is
nothing in it that could be mapped into kernel space, and the resource list has an entry of another kind
for it.  The header decides which slots are present without a look at bit 0.

```text
 slot            0          1
 register     I/O ports   memory
 resources    (ports)     memory m₁
 pairing      m₁          no entry left
```

* `Header.memorySlots`, `Header.ioSlots` — the slots with registers of the one and of the other kind.
* `Header.ListedBy` — a resource list that goes with the registers.
* `Instance.prepare_memory_only_iff` — the memory registers get their own entries, and nothing else is
  mapped, exactly if no register is in I/O space.
* `io_register_takes_entry` — an I/O register that uses up the entry of a memory register.
-/

namespace Passthrough

open PlatformCall

/-- The ports that an entry of a resource list stands for. -/
def Resource.asIoRange? : Resource → Option (UInt64 × UInt32)
  | .ioRange start length => some (start, length)
  | _ => none

namespace Header

/-- The slots with a register that describes memory. -/
def memorySlots (h : Header) : List (Fin 6) :=
  (List.finRange 6).filter fun slot => !((h.register slot).isZero || (h.register slot).isIoSpace)

def ioSlots (h : Header) : List (Fin 6) :=
  (List.finRange 6).filter fun slot => (h.register slot).isIoSpace

/-- Every register is zero, a 32-bit memory register, or in I/O space with any bits above bit 0. -/
def Narrow (h : Header) : Prop :=
  ∀ slot : Fin 6, (h.register slot).isIoSpace = false → (h.register slot).memoryType = 0

/-- The resource list has one memory entry for each memory register and one entry for ports for each
register in I/O space, with any interrupts between them. -/
structure ListedBy (h : Header) (resources : List Resource) : Prop where
  memory : (memoryEntries resources).length = h.memorySlots.length
  ports : (resources.filterMap Resource.asIoRange?).length = h.ioSlots.length

instance (h : Header) : Decidable h.Narrow :=
  inferInstanceAs (Decidable (∀ slot : Fin 6,
    (h.register slot).isIoSpace = false → (h.register slot).memoryType = 0))

instance (h : Header) (resources : List Resource) : Decidable (h.ListedBy resources) :=
  decidable_of_iff ((memoryEntries resources).length = h.memorySlots.length
      ∧ (resources.filterMap Resource.asIoRange?).length = h.ioSlots.length)
    ⟨fun ⟨memory, ports⟩ => ⟨memory, ports⟩, fun ⟨memory, ports⟩ => ⟨memory, ports⟩⟩

variable {h : Header}

theorem Narrow.is64Bit_eq_false (narrow : h.Narrow) {slot : Fin 6}
    (memory : (h.register slot).isIoSpace = false) : (h.register slot).is64Bit = false := by
  unfold BaseRegister.is64Bit
  rw [narrow slot memory]
  rfl

theorem isZero_of_isIoSpace {slot : Fin 6} (ports : (h.register slot).isIoSpace = true) :
    (h.register slot).isZero = false := by
  refine Bool.eq_false_iff.2 fun zero => ?_
  unfold BaseRegister.isIoSpace at ports
  rw [of_decide_eq_true zero] at ports
  exact absurd ports (by decide)

/-- Without registers in I/O space the present slots are those with memory registers. -/
theorem Narrow.presentSlots_eq (narrow : h.Narrow)
    (plain : ∀ slot : Fin 6, (h.register slot).isIoSpace = false) :
    h.presentSlots = h.memorySlots := by
  have unclaimed : ∀ slot : Fin 6, h.isClaimed slot = false := by
    intro slot
    unfold isClaimed
    split
    · rfl
    · exact narrow.is64Bit_eq_false (plain _)
  unfold presentSlots memorySlots
  apply List.filter_congr
  intro slot _
  rw [isPresent, unclaimed, plain]

/-- If no register in I/O space is present, then there is none: the first of them would be. -/
theorem Narrow.plain_of_absent (narrow : h.Narrow)
    (absent : ∀ slot ∈ h.presentSlots, (h.register slot).isIoSpace = false) (slot : Fin 6) :
    (h.register slot).isIoSpace = false := by
  have next : ∀ slot : Fin 6,
      (∀ before : Fin 6, before.val + 1 = slot.val → (h.register before).isIoSpace = false) →
        (h.register slot).isIoSpace = false := by
    intro slot earlier
    refine Bool.eq_false_iff.2 fun ports => ?_
    have present : slot ∈ h.presentSlots := mem_presentSlots_iff.2 ⟨isZero_of_isIoSpace ports,
      fun before place => narrow.is64Bit_eq_false (earlier before place)⟩
    rw [absent slot present] at ports
    cases ports
  obtain ⟨n, room⟩ := slot
  induction n with
  | zero => exact next _ (by simp)
  | succ n ih =>
    refine next _ fun before place => ?_
    have same : before = ⟨n, by omega⟩ := Fin.ext (Nat.succ.inj place)
    rw [same]
    exact ih (by omega)

theorem isIoSpace_of_mem_memorySlots {slot : Fin 6} (memory : slot ∈ h.memorySlots) :
    (h.register slot).isIoSpace = false := by
  have found := (List.mem_filter.1 memory).2
  rw [Bool.not_eq_true', Bool.or_eq_false_iff] at found
  exact found.2

end Header

/-- A slot that is paired with one of enough entries holds registers. -/
theorem Pairs.isSome {slots : List (Fin 6)} {entries : List (PhysAddr × UInt64)}
    {registers : PerSlot (Option KernelRegion)} (pairs : Pairs slots entries registers)
    (enough : slots.length ≤ entries.length) {slot : Fin 6} (hslot : slot ∈ slots) :
    (registers.entry slot).isSome = true := by
  obtain ⟨n, hn, hget⟩ := List.getElem_of_mem hslot
  have entry : entries[n]? = some entries[n] := List.getElem?_eq_getElem (by omega)
  obtain ⟨base, recorded⟩ := pairs n slot entries[n].1 entries[n].2
    (by rw [List.getElem?_eq_getElem hn, hget]) entry
  rw [recorded]
  rfl

/-- No mapping of registers will be refused if the one that is to be refused has been asked for. -/
theorem KernelMemory.forall_grants_iff {m : KernelMemory} :
    (∀ n, m.Grants n) ↔ ∀ call ∈ m.refuseRegisters, call < m.registerCalls := by
  unfold Grants Granted
  constructor
  · intro granted call refused
    refine Nat.not_le.1 fun later => granted (call - m.registerCalls) ?_
    rw [Option.mem_def.1 refused, Nat.add_sub_of_le later]
  · intro past n refused
    exact absurd (past _ refused) (Nat.not_lt.2 (Nat.le_add_right _ _))

instance (m : KernelMemory) : Decidable (∀ n, m.Grants n) :=
  decidable_of_iff _ KernelMemory.forall_grants_iff.symm

/-- A card with memory registers that are not next to each other. -/
def memoryCard : BusFunction :=
  card.setRegisters #v[⟨0xF7E00000⟩, ⟨0⟩, ⟨0xF7F00008⟩, ⟨0⟩, ⟨0⟩, ⟨0xF8000000⟩]

def memoryResources : List Resource :=
  [.memory ⟨0xF7E00000⟩ 0x20000, .interrupt 64, .memory ⟨0xF7F00000⟩ 0x1000, .interrupt 65,
    .memory ⟨0xF8000000⟩ 0x4000]

namespace Instance

/-- Nothing outside the registers stands in the way of preparing the hardware: the instance is not
released, the header can be read, the resource list goes with the registers, and the memory manager
neither refuses nor runs out of addresses. -/
structure Unhindered (i : Instance) (resources : List Resource) : Prop where
  live : i.device.state ≠ .released
  full : Header.size ≤ i.platform.bus.readable
  listed : i.platform.bus.header.ListedBy resources
  granted : ∀ n, i.platform.memory.Grants n
  room : i.platform.memory.nextKernel.toNat
    + ((memoryEntries resources).map fun entry => entry.2.toNat).sum < UInt64.size

instance (i : Instance) (resources : List Resource) : Decidable (i.Unhindered resources) :=
  decidable_of_iff (i.device.state ≠ .released ∧ Header.size ≤ i.platform.bus.readable
      ∧ i.platform.bus.header.ListedBy resources ∧ (∀ n, i.platform.memory.Grants n)
      ∧ i.platform.memory.nextKernel.toNat
        + ((memoryEntries resources).map fun entry => entry.2.toNat).sum < UInt64.size)
    ⟨fun ⟨live, full, listed, granted, room⟩ => ⟨live, full, listed, granted, room⟩,
      fun ⟨live, full, listed, granted, room⟩ => ⟨live, full, listed, granted, room⟩⟩

/-- **Only memory is mapped, if there is nothing else.**  Take a header without 64-bit registers, and
let nothing else stand in the way.  Preparing succeeds, leaves every memory register with its own entry
and maps nothing else, exactly if no register is in I/O space. -/
theorem prepare_memory_only_iff {i : Instance} {resources : List Resource}
    (narrow : i.platform.bus.header.Narrow) (unhindered : i.Unhindered resources) :
    (∃ i', i.prepare resources = .ok (.ok (), i')
        ∧ i'.device.context.state = .hardwarePrepared
        ∧ Pairs i.platform.bus.header.memorySlots (memoryEntries resources)
          i'.device.context.registers
        ∧ (∀ slot ∉ i.platform.bus.header.memorySlots,
            i'.device.context.registers.entry slot = none)
        ∧ i'.platform.calls = i.platform.calls ++ (i.device.context.tearDown
            ++ .busRead 0 Header.size Header.size
              :: (regions i'.device.context.registers).map mapRegion))
      ↔ ∀ slot : Fin 6, (i.platform.bus.header.register slot).isIoSpace = false := by
  obtain ⟨live, full, listed, granted, room⟩ := unhindered
  constructor
  · rintro ⟨i', answered, -, -, unmapped, -⟩
    -- A present slot is given an entry, so it is one of those with memory registers.
    obtain ⟨calls, preparation, -⟩ := preparation_of_prepare live answered
    obtain ⟨-, enough, -⟩ := preparation.ok_iff.1 rfl
    obtain ⟨registers, device, pairs, -, -⟩ := preparation.of_ok
    refine narrow.plain_of_absent fun slot present => ?_
    have recorded := pairs.isSome enough present
    refine Header.isIoSpace_of_mem_memorySlots (Decidable.byContradiction fun other => ?_)
    have nothing := unmapped slot other
    rw [device] at nothing
    rw [nothing] at recorded
    cases recorded
  · intro plain
    have present := narrow.presentSlots_eq plain
    cases answered : i.prepare resources with
    | error fault =>
      obtain ⟨-, beyond⟩ := fault_of_prepare live answered
      rw [present, ← listed.memory, List.take_length] at beyond
      exact absurd room (Nat.not_lt.2 beyond)
    | ok answer =>
      obtain ⟨result, i'⟩ := answer
      obtain ⟨calls, preparation, effect⟩ := preparation_of_prepare live answered
      have enough : i.platform.bus.header.presentSlots.length ≤ (memoryEntries resources).length :=
        Nat.le_of_eq (by rw [present, listed.memory])
      obtain rfl := preparation.ok_iff.2 ⟨full, enough, fun n _ => granted n⟩
      obtain ⟨registers, device, pairs, others, hcalls⟩ := preparation.of_ok
      have recorded := effect.recorded
      rw [present] at pairs others
      rw [hcalls, Nat.min_eq_left full] at recorded
      refine ⟨i', rfl, ?_⟩
      rw [device]
      exact ⟨rfl, pairs, others, recorded⟩

/-- A card with memory registers in slots 0, 2 and 5, and its entries with interrupts between them. -/
theorem prepare_memory_only_card : ∃ i i', Reachable i
    ∧ i.platform.bus.header.memorySlots = [0, 2, 5]
    ∧ i.prepare memoryResources = .ok (.ok (), i')
    ∧ ∃ base, i'.device.context.registers.entry 2 = some ⟨⟨0xF7F00000⟩, base, 0x1000⟩ := by
  have launched : ((launch? (Platform.start memoryCard .fresh) []).any fun i =>
      i.platform.bus.header.Narrow ∧ i.Unhindered memoryResources
        ∧ i.platform.bus.header.memorySlots = [0, 2, 5]
        ∧ ∀ slot : Fin 6, (i.platform.bus.header.register slot).isIoSpace = false) = true := by
    decide +kernel
  obtain ⟨start, events, i, attached, course, checked⟩ := course_of_launch rfl launched
  obtain ⟨narrow, unhindered, slots, plain⟩ := of_decide_eq_true checked
  obtain ⟨i', prepared, -, pairs, -⟩ := (prepare_memory_only_iff narrow unhindered).2 plain
  rw [slots] at pairs
  exact ⟨i, i', reachable_iff_course.2 ⟨start, events, attached, course⟩, slots, prepared,
    pairs 1 2 _ _ rfl rfl⟩

end Instance

/-! ## A register in I/O space -/

/-- A card with ports in slot 0 and memory in slot 1. -/
def portCard : BusFunction :=
  card.setRegisters #v[⟨0xE001⟩, ⟨0xF7E00000⟩, ⟨0⟩, ⟨0⟩, ⟨0⟩, ⟨0⟩]

def portResources : List Resource :=
  [.interrupt 64, .ioRange 0xE000 32, .memory ⟨0xF7E00000⟩ 0x20000]

/-- **A register in I/O space uses up an entry.**  The card has one memory register and its list one
memory entry, and nothing stands in the way; but the register in I/O space comes first and takes the
entry, so that preparing fails for want of another one. -/
theorem io_register_takes_entry : ∃ i i', Reachable i
    ∧ i.platform.bus.header.Narrow ∧ i.Unhindered portResources
    ∧ i.platform.bus.header.memorySlots = [1] ∧ i.platform.bus.header.ioSlots = [0]
    ∧ i.prepare portResources = .ok (.error (.missingMemoryResource 1), i') := by
  have launched : ((Instance.launch? (Platform.start portCard .fresh) []).any fun i =>
      (i.platform.bus.header.Narrow ∧ i.Unhindered portResources
        ∧ i.platform.bus.header.memorySlots = [1] ∧ i.platform.bus.header.ioSlots = [0])
      && i.lacksEntry portResources 1) = true := by
    decide +kernel
  obtain ⟨start, events, i, attached, course, checked⟩ := course_of_launch rfl launched
  obtain ⟨surroundings, failed⟩ := Bool.and_eq_true_iff.1 checked
  obtain ⟨narrow, unhindered, memory, ports⟩ := of_decide_eq_true surroundings
  obtain ⟨i', answered⟩ := Instance.prepare_of_lacksEntry failed
  exact ⟨i, i', reachable_iff_course.2 ⟨start, events, attached, course⟩, narrow,
    unhindered, memory, ports, answered⟩

end Passthrough
