import Passthrough.Proofs.Driver.Balance

/-!
# Passthrough — preparing the hardware

Preparing pairs the present slots with the memory entries in order, or it undoes everything.

* `Instance.fault_of_prepare` — when it gives no answer.
* `Preparation.ok_iff`, `Preparation.of_ok`, `Preparation.of_error` — which answer it gives, and what it
  leaves behind.
* `Reachable.prepare_pairs_or_unwinds` — everything together, in every reachable instance.
-/

namespace Passthrough

open PlatformCall

/-- Whether a call maps registers into kernel space or takes such a mapping back. -/
def PlatformCall.isRegisterMapping : PlatformCall → Bool
  | .mapRegisters .. | .unmapRegisters .. => true
  | _ => false

namespace Instance

/-- Preparing an instance that is not released faults only when the addresses give out. -/
theorem fault_of_prepare {i : Instance} {resources : List Resource} {fault : Fault}
    (live : i.device.state ≠ .released) (h : i.prepare resources = .error fault) :
    fault = .overflow ∧ UInt64.size ≤ i.platform.memory.nextKernel.toNat
      + (((memoryEntries resources).take i.platform.bus.header.presentSlots.length).map
          fun entry => entry.2.toNat).sum := by
  obtain ⟨p, -, relisted, prepare⟩ := i.exists_prepare resources live
  have next : p.memory.nextKernel = i.platform.memory.nextKernel := by rw [relisted]
  rw [prepare] at h
  split at h
  · cases hmap : p.mapSlots i.platform.bus.header.presentSlots (memoryEntries resources)
        emptySlots with
    | error fault' =>
      rw [hmap] at h
      cases h
      rw [← next]
      exact Platform.fault_of_mapSlots hmap
    | ok answer =>
      obtain ⟨outcome, mapped, p'⟩ := answer
      rw [hmap] at h
      cases outcome <;> cases h
  · cases h

/-- Slots that all have an entry and are all granted do not stop the walk. -/
theorem Preparation.ok_iff {i : Instance} {resources : List Resource}
    {result : Except DriverError Unit} {calls : List PlatformCall} {d : Device}
    (preparation : i.Preparation resources result calls d) :
    result = .ok () ↔ Header.size ≤ i.platform.bus.readable
      ∧ i.platform.bus.header.presentSlots.length ≤ (memoryEntries resources).length
      ∧ ∀ n < i.platform.bus.header.presentSlots.length, i.platform.memory.Grants n := by
  cases preparation with
  | short few =>
    simp only [reduceCtorEq, false_iff]
    rintro ⟨full, -⟩
    exact Nat.not_le.2 few full
  | stopped e made refused full stops refusal =>
    simp only [reduceCtorEq, false_iff]
    rintro ⟨-, enough, granted⟩
    cases stops with
    | missing place before spent =>
      have inside := (List.getElem?_eq_some_iff.1 place).1
      omega
    | refused place before left refused => exact refused (granted _ (List.getElem?_eq_some_iff.1 place).1)
  | paired mapped full enough granted pairs others =>
    exact iff_of_true rfl ⟨full, enough, granted⟩

theorem Preparation.of_ok {i : Instance} {resources : List Resource} {calls : List PlatformCall}
    {d : Device} (preparation : i.Preparation resources (.ok ()) calls d) :
    ∃ registers, d = { i.device with
        context := ⟨.hardwarePrepared, registers, i.device.context.pool, none⟩ }
      ∧ Pairs i.platform.bus.header.presentSlots (memoryEntries resources) registers
      ∧ (∀ slot ∉ i.platform.bus.header.presentSlots, registers.entry slot = none)
      ∧ calls = (regions registers).map mapRegion := by
  cases preparation with
  | paired mapped full enough granted pairs others => exact ⟨mapped, rfl, pairs, others, rfl⟩

theorem Preparation.of_error {i : Instance} {resources : List Resource} {e : DriverError}
    {calls : List PlatformCall} {d : Device}
    (preparation : i.Preparation resources (.error e) calls d) :
    (i.platform.bus.readable < Header.size
        ∧ e = .shortHeaderRead Header.size i.platform.bus.readable
      ∨ Header.size ≤ i.platform.bus.readable
        ∧ Stops i.platform.memory i.platform.bus.header.presentSlots (memoryEntries resources) e)
      ∧ d = i.device.bare .attached := by
  cases preparation with
  | short few => exact ⟨.inl ⟨few, rfl⟩, rfl⟩
  | stopped e made refused full stops refusal => exact ⟨.inr ⟨full, stops⟩, rfl⟩

theorem Preparation.isRegisterMapping {i : Instance} {resources : List Resource}
    {result : Except DriverError Unit} {calls : List PlatformCall} {d : Device}
    (preparation : i.Preparation resources result calls d) :
    ∀ call ∈ calls, call.isRegisterMapping = true := by
  intro call hcall
  cases preparation with
  | short few => cases hcall
  | stopped e made refused full stops refusal =>
    simp only [List.mem_append, List.mem_map] at hcall
    rcases hcall with (⟨r, -, rfl⟩ | hcall) | ⟨r, -, rfl⟩
    · rfl
    · obtain ⟨start, length, rfl⟩ := refusal call hcall
      rfl
    · rfl
  | paired mapped full enough granted pairs others =>
    obtain ⟨r, -, rfl⟩ := List.mem_map.1 hcall
    rfl

/-- Preparing fails for want of a memory entry for slot `slot`. -/
def lacksEntry (i : Instance) (resources : List Resource) (slot : Nat) : Bool :=
  match i.prepare resources with
  | .ok (.error e, _) => e = .missingMemoryResource slot
  | _ => false

theorem prepare_of_lacksEntry {i : Instance} {resources : List Resource} {slot : Nat}
    (h : i.lacksEntry resources slot = true) :
    ∃ i', i.prepare resources = .ok (.error (.missingMemoryResource slot), i') := by
  unfold lacksEntry at h
  split at h
  · next e i' answered =>
    cases of_decide_eq_true h
    exact ⟨i', answered⟩
  · cases h

end Instance

/-- **Paired in order, or undone.**  A released instance refuses to be prepared and stays as it is.  Any
other instance that is reachable, whatever its header, the resource list and the memory manager's refusals:

* answers, unless the lengths of the entries that it needs lead past the last kernel address;
* first takes back everything that is mapped, in the process it is lent to and in the kernel, then reads
  the header, and after that makes and takes back mappings of registers only;
* succeeds exactly if the header was read in full, the list has a memory entry for every present slot, and
  none of these mappings is refused;
* after a success holds in each present slot the entry with the same number, at the address that the
  mapping answered, and nothing in the other slots;
* after a failure names the bytes read, or the first present slot that has no entry left or whose mapping
  was refused, and holds nothing but its pool: no registers and no process are mapped. -/
theorem Reachable.prepare_pairs_or_unwinds {i : Instance} (h : Reachable i)
    (resources : List Resource) :
    let bus := i.platform.bus
    let slots := bus.header.presentSlots
    let entries := memoryEntries resources
    (i.device.state = .released → i.prepare resources = .ok (.error .released, i))
      ∧ (i.device.state ≠ .released →
        (∀ fault, i.prepare resources = .error fault → fault = .overflow
          ∧ UInt64.size ≤ i.platform.memory.nextKernel.toNat
            + ((entries.take slots.length).map fun entry => entry.2.toNat).sum)
        ∧ ∀ result i', i.prepare resources = .ok (result, i') →
          (result = .ok () ↔ Header.size ≤ bus.readable ∧ slots.length ≤ entries.length
            ∧ ∀ n < slots.length, i.platform.memory.Grants n)
          ∧ i.platform.memory.ledger.replay i.device.context.tearDown
            = ⟨i.platform.memory.allocations, [], []⟩
          ∧ ∃ calls, i'.platform.calls = i.platform.calls ++ (i.device.context.tearDown
                ++ .busRead 0 Header.size (min Header.size bus.readable) :: calls)
            ∧ (∀ call ∈ calls, call.isRegisterMapping = true)
            ∧ (result = .ok () → ∃ registers,
                i'.device = { i.device with
                  context := ⟨.hardwarePrepared, registers, i.device.context.pool, none⟩ }
                ∧ Pairs slots entries registers
                ∧ (∀ slot ∉ slots, registers.entry slot = none)
                ∧ calls = (regions registers).map mapRegion)
            ∧ ∀ e, result = .error e →
                (bus.readable < Header.size ∧ e = .shortHeaderRead Header.size bus.readable
                  ∨ Header.size ≤ bus.readable ∧ Stops i.platform.memory slots entries e)
                ∧ i'.device = { i.device with
                  context := ⟨.attached, emptySlots, i.device.context.pool, none⟩ }
                ∧ i'.platform.memory.allocations = i.platform.memory.allocations
                ∧ i'.platform.memory.registerMappings = []
                ∧ i'.platform.memory.processMappings = []) := by
  dsimp only
  have balanced := h.balanced
  have pool : i.platform.memory.allocations = i.device.context.pool.toList :=
    congrArg Ledger.allocations balanced.ledger
  refine ⟨fun released => ?_, fun live => ⟨fun fault => Instance.fault_of_prepare live, ?_⟩⟩
  · exact Instance.prepare_of_released released
  · intro result i' answered
    obtain ⟨calls, preparation, effect⟩ := Instance.preparation_of_prepare live answered
    have balanced' := balanced.step (Instance.step_of_prepare answered)
    refine ⟨preparation.ok_iff, ?_, calls, effect.recorded, preparation.isRegisterMapping, ?_, ?_⟩
    · rw [balanced.ledger, Device.replay_tearDown, pool]
    · rintro rfl
      exact preparation.of_ok
    · rintro e rfl
      obtain ⟨reason, device⟩ := preparation.of_error
      -- What the memory manager lists is what the context stands for, and that is the pool.
      have ledger := balanced'.ledger
      rw [device] at ledger
      refine ⟨reason, device, ?_, congrArg Ledger.registers ledger,
        congrArg Ledger.processes ledger⟩
      rw [pool]
      exact congrArg Ledger.allocations ledger

/-- A card that process 7 has mapped and that is prepared anew with one entry for its two ranges: the
loan ends, and slot 3 is left without an entry. -/
theorem prepare_pairs_or_unwinds_card : ∃ i i', Reachable i ∧ i.device.state = .userMapped
    ∧ i.prepare [.interrupt 64, .memory ⟨0xF7E00000⟩ 0x20000]
      = .ok (.error (.missingMemoryResource 3), i')
    ∧ i'.device.context.registers = emptySlots
    ∧ i'.platform.memory.registerMappings = [] ∧ i'.platform.memory.processMappings = [] := by
  have launched : ((Instance.launch? (Platform.start card .fresh)
      [.prepare card.resources, .deviceControl ⟨⟨7⟩, ⟨1⟩⟩ mapCard]).any fun i =>
        i.device.state = .userMapped
          && i.lacksEntry [.interrupt 64, .memory ⟨0xF7E00000⟩ 0x20000] 3) = true := by
    decide +kernel
  obtain ⟨start, events, i, attached, course, checked⟩ := course_of_launch rfl launched
  have reachable := reachable_iff_course.2 ⟨start, events, attached, course⟩
  obtain ⟨mapped, starved⟩ := Bool.and_eq_true_iff.1 checked
  have mapped : i.device.state = .userMapped := of_decide_eq_true mapped
  obtain ⟨i', answered⟩ := Instance.prepare_of_lacksEntry starved
  obtain ⟨-, live⟩ := Reachable.prepare_pairs_or_unwinds reachable
    [.interrupt 64, .memory ⟨0xF7E00000⟩ 0x20000]
  obtain ⟨-, answers⟩ := live (by rw [mapped]; decide)
  obtain ⟨-, -, calls, -, -, -, failed⟩ := answers _ i' answered
  obtain ⟨-, device, -, registers, processes⟩ := failed _ rfl
  exact ⟨i, i', reachable, mapped, answered, by rw [device], registers, processes⟩

end Passthrough
