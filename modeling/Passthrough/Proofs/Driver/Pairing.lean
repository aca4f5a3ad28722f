import Mathlib.Algebra.GroupWithZero.Nat
import Passthrough.Proofs.Driver.Effect

/-!
# Passthrough — pairing slots with resources

Preparing the hardware gives back what is held, reads the header, and then walks over two sequences at
once: the slots that the header takes for present, and the memory entries of the resource list.  Every
slot uses up one entry and one mapping.

```text
 present slots        p₁      p₂          p₃
 resource list    ·   m₁      m₂   ·   ·   m₃   m₄      · an entry that is passed over
```

The walk ends at the first slot for which no entry is left or whose mapping is refused.  Whether there is
such a slot, and which, can be told before the walk from the two sequences and the number of the mapping
that the memory manager refuses.

* `Context.tearDown`, `Instance.effect_unmapRegisters_endLoan` — giving back what is held.
* `Stops`, `Pairs` — the two ways in which the walk ends.
* `Platform.stops_of_mapSlots`, `pairs_of_mapSlots`, `fault_of_mapSlots` — it ends in one of them, or the
  addresses give out.
* `Instance.exists_prepare`, `preparation_of_prepare` — what preparing does before the walk and what it
  makes of its end.
-/

namespace Passthrough

open PlatformCall
open Platform (Effect)

/-! ## Giving back what is held -/

/-- The calls that undo everything a context records but the pool: the loan first. -/
def Context.tearDown (c : Context) : List PlatformCall :=
  c.lent.map takeBack ++ (regions c.registers).map unmapRegion

theorem Context.givesBack_of_mem_tearDown (c : Context) {call : PlatformCall}
    (h : call ∈ c.tearDown) : (∃ m, call = takeBack m) ∨ ∃ r, call = unmapRegion r := by
  rcases List.mem_append.1 h with h | h
  · obtain ⟨m, -, rfl⟩ := List.mem_map.1 h
    exact .inl ⟨m, rfl⟩
  · obtain ⟨r, -, rfl⟩ := List.mem_map.1 h
    exact .inr ⟨r, rfl⟩

/-- The instance with nothing but its pool, in the given state. -/
def Device.bare (d : Device) (state : DeviceState) : Device :=
  { d with context := ⟨state, emptySlots, d.context.pool, none⟩ }

namespace Instance

open Platform (effect_unmapSlots effect_unmapUser)

theorem device_endLoan (i : Instance) :
    i.endLoan.device = { i.device with context := { i.device.context with user := none } } := by
  obtain ⟨⟨address, numaNode, state, registers, pool, user⟩, platform⟩ := i
  cases user with
  | none => rfl
  | some user => rfl

theorem effect_endLoan (i : Instance) :
    Effect i.platform (i.device.context.lent.map takeBack) i.endLoan.platform := by
  obtain ⟨⟨address, numaNode, state, registers, pool, user⟩, platform⟩ := i
  cases user with
  | none => exact .refl platform
  | some user => exact effect_unmapUser platform pool registers user

theorem effect_unmapRegisters (i : Instance) :
    Effect i.platform ((regions i.device.context.registers).map unmapRegion)
      i.unmapRegisters.platform :=
  effect_unmapSlots i.platform i.device.context.registers

theorem device_unmapRegisters_endLoan (i : Instance) :
    i.endLoan.unmapRegisters.device = i.device.bare i.device.state := by
  show { i.endLoan.device with context := { i.endLoan.device.context with registers := emptySlots } }
    = i.device.bare i.device.state
  rw [device_endLoan]
  rfl

theorem effect_unmapRegisters_endLoan (i : Instance) :
    Effect i.platform i.device.context.tearDown i.endLoan.unmapRegisters.platform := by
  have loan := effect_endLoan i
  have registers := effect_unmapRegisters i.endLoan
  rw [device_endLoan] at registers
  exact loan.trans registers

end Instance

/-! ## The two ends of the walk -/

/-- The call that comes after `n` others is granted, when `made` calls were made before them. -/
def Granted (refused : Option Nat) (made n : Nat) : Prop := refused ≠ some (made + n)

instance (refused : Option Nat) (made n : Nat) : Decidable (Granted refused made n) :=
  inferInstanceAs (Decidable (refused ≠ some (made + n)))

theorem granted_succ_iff {refused : Option Nat} {made n : Nat} :
    Granted refused (made + 1) n ↔ Granted refused made (n + 1) := by
  unfold Granted
  rw [Nat.add_right_comm, Nat.add_assoc]

/-- The mapping of registers that comes after `n` others is granted. -/
def KernelMemory.Grants (m : KernelMemory) (n : Nat) : Prop :=
  Granted m.refuseRegisters m.registerCalls n

/-- The pairing of slots with entries cannot be completed, and why. -/
inductive Stops (m : KernelMemory) (slots : List (Fin 6)) (entries : List (PhysAddr × UInt64)) :
    DriverError → Prop where
  | missing {n : Nat} {slot : Fin 6} (place : slots[n]? = some slot)
      (before : ∀ k < n, k < entries.length ∧ m.Grants k) (spent : entries.length ≤ n) :
      Stops m slots entries (.missingMemoryResource slot.val)
  | refused {n : Nat} {slot : Fin 6} (place : slots[n]? = some slot)
      (before : ∀ k < n, k < entries.length ∧ m.Grants k) (left : n < entries.length)
      (refusal : ¬m.Grants n) : Stops m slots entries (.registerMapping slot.val)

/-- Each slot holds the entry with the same number, mapped somewhere. -/
def Pairs (slots : List (Fin 6)) (entries : List (PhysAddr × UInt64))
    (registers : PerSlot (Option KernelRegion)) : Prop :=
  ∀ (n : Nat) (slot : Fin 6) (start : PhysAddr) (length : UInt64), slots[n]? = some slot →
    entries[n]? = some (start, length) → ∃ base, registers.entry slot = some ⟨start, base, length⟩

/-- A walk that has passed its first slot ends where the rest of it ends. -/
theorem Stops.cons {m m' : KernelMemory} {slots : List (Fin 6)}
    {entries : List (PhysAddr × UInt64)} {e : DriverError} {slot : Fin 6}
    {entry : PhysAddr × UInt64} (granted : m.Grants 0)
    (later : ∀ n, m'.Grants n ↔ m.Grants (n + 1)) (stops : Stops m' slots entries e) :
    Stops m (slot :: slots) (entry :: entries) e := by
  -- What comes before the end of the shorter walk comes one later in the longer one.
  have before : ∀ {n}, (∀ k < n, k < entries.length ∧ m'.Grants k) →
      ∀ k < n + 1, k < (entry :: entries).length ∧ m.Grants k := by
    intro n before k hk
    cases k with
    | zero => exact ⟨Nat.succ_pos _, granted⟩
    | succ k =>
      obtain ⟨left, grants⟩ := before k (Nat.lt_of_succ_lt_succ hk)
      exact ⟨Nat.succ_lt_succ left, (later k).1 grants⟩
  cases stops with
  | missing place earlier spent => exact .missing place (before earlier) (Nat.succ_le_succ spent)
  | @refused n slot place earlier left refusal =>
    exact .refused place (before earlier) (Nat.succ_lt_succ left) (mt (later n).2 refusal)

theorem Stops.congr {m m' : KernelMemory} {slots : List (Fin 6)}
    {entries : List (PhysAddr × UInt64)} {e : DriverError} (stops : Stops m' slots entries e)
    (same : ∀ n, m'.Grants n ↔ m.Grants n) : Stops m slots entries e := by
  cases stops with
  | missing place before spent =>
    exact .missing place (fun k hk => (before k hk).imp_right (same k).1) spent
  | refused place before left refusal =>
    exact .refused place (fun k hk => (before k hk).imp_right (same k).1) left
      (mt (same _).2 refusal)

/-! ## One mapping -/

namespace Platform

section One

variable {p p' : Platform} {start : PhysAddr} {length : UInt64} {cache : CacheKind}

/-- The answer to a mapping is known beforehand, and it takes no more addresses than it is long. -/
theorem answer_of_mapRegisters {answer : Option VirtAddr}
    (h : p.mapRegisters start length cache = .ok (answer, p')) :
    (answer.isSome = true ↔ p.memory.Grants 0)
      ∧ (∀ n, p'.memory.Grants n ↔ p.memory.Grants (n + 1))
      ∧ p'.memory.nextKernel.toNat ≤ p.memory.nextKernel.toNat + length.toNat := by
  obtain ⟨⟨answer', memory⟩, hm, hp⟩ := Checked.bind_eq_ok_iff.1 h
  cases hp
  -- The mapping counts, whatever the answer was.
  unfold KernelMemory.mapRegisters at hm
  dsimp only at hm
  split at hm
  · next refused =>
    cases hm
    exact ⟨iff_of_false (by simp) fun granted => granted refused, fun n => granted_succ_iff,
      Nat.le_add_right _ _⟩
  · next granted =>
    obtain ⟨next, hnext, hm⟩ := Checked.bind_eq_ok_iff.1 hm
    cases hm
    exact ⟨iff_of_true rfl granted, fun n => granted_succ_iff,
      Nat.le_of_eq (addChecked_eq_ok_iff.1 hnext)⟩

/-- A mapping faults only when its end would be no address. -/
theorem fault_of_mapRegisters {fault : Fault}
    (h : p.mapRegisters start length cache = .error fault) :
    fault = .overflow ∧ UInt64.size ≤ p.memory.nextKernel.toNat + length.toNat := by
  unfold mapRegisters KernelMemory.mapRegisters at h
  dsimp only at h
  split at h
  · cases h
  · unfold addChecked at h
    split at h
    · cases h
    · next beyond =>
      cases h
      exact ⟨rfl, Nat.not_lt.1 beyond⟩

end One

/-! ## The walk -/

section Walk

variable {slots : List (Fin 6)} {entries : List (PhysAddr × UInt64)}
  {mapped mapped' : PerSlot (Option KernelRegion)} {p p' : Platform}

/-- A walk that ends with an error ends at the first slot without an entry or whose mapping is
refused. -/
theorem stops_of_mapSlots {e : DriverError}
    (h : mapSlots slots entries mapped p = .ok (.error e, mapped', p')) :
    Stops p.memory slots entries e := by
  induction slots generalizing entries mapped p with
  | nil => cases h
  | cons slot slots ih =>
    cases entries with
    | nil =>
      cases h
      exact .missing (n := 0) rfl (by simp) (Nat.le_refl _)
    | cons entry entries =>
      obtain ⟨start, length⟩ := entry
      obtain ⟨⟨answer, p₁⟩, hmap, h⟩ := Checked.bind_eq_ok_iff.1 h
      obtain ⟨granted, later, -⟩ := answer_of_mapRegisters hmap
      cases answer with
      | none =>
        cases h
        exact .refused (n := 0) rfl (by simp) (Nat.succ_pos _) (mt granted.2 (by simp))
      | some base => exact (ih h).cons (granted.1 rfl) later

/-- A walk that goes through leaves every slot with the entry of the same number, and the slots that it
does not come to as they were. -/
theorem pairs_of_mapSlots (distinct : slots.Nodup)
    (h : mapSlots slots entries mapped p = .ok (.ok (), mapped', p')) :
    slots.length ≤ entries.length ∧ (∀ n < slots.length, p.memory.Grants n)
      ∧ Pairs slots entries mapped' ∧ ∀ slot ∉ slots, mapped'.entry slot = mapped.entry slot := by
  induction slots generalizing entries mapped p with
  | nil =>
    cases h
    exact ⟨Nat.zero_le _, by simp, by simp [Pairs], fun _ _ => rfl⟩
  | cons slot slots ih =>
    cases entries with
    | nil => cases h
    | cons entry entries =>
      obtain ⟨start, length⟩ := entry
      obtain ⟨⟨answer, p₁⟩, hmap, h⟩ := Checked.bind_eq_ok_iff.1 h
      obtain ⟨granted, later, -⟩ := answer_of_mapRegisters hmap
      obtain ⟨fresh, distinct⟩ := List.nodup_cons.1 distinct
      cases answer with
      | none => cases h
      | some base =>
        obtain ⟨enough, grants, pairs, others⟩ := ih distinct h
        refine ⟨Nat.succ_le_succ enough, ?_, ?_, ?_⟩
        · intro n hn
          cases n with
          | zero => exact granted.1 rfl
          | succ n => exact (later n).1 (grants n (Nat.lt_of_succ_lt_succ hn))
        · intro n slot' start' length' place entry
          cases n with
          | zero =>
            -- The walk does not come back to the slot, so it keeps what it was given.
            cases place
            cases entry
            refine ⟨base, ?_⟩
            rw [others _ fresh, PerSlot.entry_put]
          | succ n => exact pairs n slot' start' length' place entry
        · intro other hother
          rw [List.mem_cons, not_or] at hother
          rw [others other hother.2, PerSlot.entry_put_of_ne (Ne.symm hother.1)]

/-- The walk faults only when the addresses give out. -/
theorem fault_of_mapSlots {fault : Fault}
    (h : mapSlots slots entries mapped p = .error fault) :
    fault = .overflow ∧ UInt64.size ≤ p.memory.nextKernel.toNat
      + ((entries.take slots.length).map fun entry => entry.2.toNat).sum := by
  induction slots generalizing entries mapped p with
  | nil => cases h
  | cons slot slots ih =>
    cases entries with
    | nil => cases h
    | cons entry entries =>
      obtain ⟨start, length⟩ := entry
      unfold mapSlots at h
      rw [List.length_cons, List.take_succ_cons, List.map_cons, List.sum_cons]
      dsimp only
      cases hmap : p.mapRegisters start length .nonCached with
      | error fault' =>
        rw [hmap] at h
        cases h
        obtain ⟨overflow, beyond⟩ := fault_of_mapRegisters hmap
        exact ⟨overflow, by omega⟩
      | ok result =>
        obtain ⟨answer, p₁⟩ := result
        obtain ⟨-, -, next⟩ := answer_of_mapRegisters hmap
        rw [hmap] at h
        cases answer with
        | none => cases h
        | some base =>
          obtain ⟨overflow, beyond⟩ := ih h
          exact ⟨overflow, by omega⟩

end Walk

end Platform

/-! ## What is given back first -/

/-- The memory manager lists other mappings and is the same otherwise. -/
def KernelMemory.Relisted (m m' : KernelMemory) : Prop :=
  m' = { m with registerMappings := m'.registerMappings, processMappings := m'.processMappings }

theorem KernelMemory.Relisted.trans {m m' m'' : KernelMemory} (h : m.Relisted m')
    (h' : m'.Relisted m'') : m.Relisted m'' := by
  unfold Relisted at h h' ⊢
  rw [h', h]

theorem KernelMemory.Relisted.grants_iff {m m' : KernelMemory} (h : m.Relisted m') (n : Nat) :
    m'.Grants n ↔ m.Grants n := by
  rw [h]
  exact Iff.rfl

namespace Platform

theorem relisted_foldl {α : Type} (undo : Platform → α → Platform)
    (one : ∀ (p : Platform) (a : α), p.memory.Relisted (undo p a).memory) (undone : List α) (p : Platform) :
    p.memory.Relisted (undone.foldl undo p).memory := by
  induction undone generalizing p with
  | nil => rfl
  | cons a rest ih => exact (one p a).trans (ih (undo p a))

theorem relisted_unmapSlots (p : Platform) (registers : PerSlot (Option KernelRegion)) :
    p.memory.Relisted (p.unmapSlots registers).memory :=
  relisted_foldl unmapRegisters (fun _ _ => rfl) _ p

theorem relisted_unmapUser (p : Platform) (pool : Option KernelRegion)
    (registers : PerSlot (Option KernelRegion)) (user : UserMapping) :
    p.memory.Relisted (p.unmapUser pool registers user).memory := by
  rw [unmapUser_eq_foldl]
  refine relisted_foldl _ ?_ _ p
  intro p m
  rfl

end Platform

theorem Context.isBusAccess_of_mem_tearDown {c : Context} {call : PlatformCall}
    (h : call ∈ c.tearDown) : call.isBusAccess = false := by
  obtain ⟨m, rfl⟩ | ⟨r, rfl⟩ := c.givesBack_of_mem_tearDown h
  · rfl
  · rfl

namespace Instance

theorem relisted_endLoan (i : Instance) :
    i.platform.memory.Relisted i.endLoan.platform.memory := by
  obtain ⟨⟨address, numaNode, state, registers, pool, user⟩, platform⟩ := i
  cases user with
  | none => rfl
  | some user => exact Platform.relisted_unmapUser platform pool registers user

theorem relisted_unmapRegisters_endLoan (i : Instance) :
    i.platform.memory.Relisted i.endLoan.unmapRegisters.platform.memory :=
  i.relisted_endLoan.trans (Platform.relisted_unmapSlots _ _)

end Instance

/-! ## The header -/

/-- Reading at the front of configuration space never faults: it is read as far as it can be. -/
theorem BusFunction.read_front (f : BusFunction) {n : Nat} (within : n ≤ spaceSize) :
    f.read 0 n
      = .ok (f.space.take (min n f.readable), { f with accesses := f.accesses + 1 }) := by
  have first : min (UInt32.toNat 0) f.readable = 0 := Nat.zero_min _
  have inside : min n f.readable ≤ spaceSize := Nat.le_trans (Nat.min_le_left _ _) within
  unfold read
  dsimp only
  rw [first, Nat.zero_add, if_pos inside, Nat.sub_zero, List.drop_zero]

namespace Instance

/-- The header is read in full, or as far as configuration space can be read. -/
theorem exists_readHeader (p : Platform) :
    ∃ p', Effect p [.busRead 0 Header.size (min Header.size p.bus.readable)] p'
      ∧ p'.memory = p.memory
      ∧ readHeader p = .ok (if Header.size ≤ p.bus.readable then .ok p.bus.header
          else .error (.shortHeaderRead Header.size p.bus.readable), p') := by
  have length : (p.bus.space.take (min Header.size p.bus.readable)).length
      = min Header.size p.bus.readable := by
    rw [List.length_take, p.bus.length_space, Header.size]
    omega
  have read : p.busRead 0 Header.size = .ok (p.bus.space.take (min Header.size p.bus.readable),
      { p with bus := { p.bus with accesses := p.bus.accesses + 1 } }.record
        (.busRead 0 Header.size (min Header.size p.bus.readable))) := by
    unfold Platform.busRead
    rw [p.bus.read_front (by decide)]
    show Except.ok (_, Platform.record _ (.busRead _ _ (List.length _))) = _
    rw [length]
  have effect := Platform.effect_busRead read
  rw [length] at effect
  refine ⟨_, effect, rfl, ?_⟩
  unfold readHeader
  rw [read]
  simp only [bind, Except.bind]
  unfold Header.ofBytes?
  by_cases full : Header.size ≤ p.bus.readable
  · have whole : min Header.size p.bus.readable = 64 := Nat.min_eq_left full
    rw [dif_pos (by rw [length, whole]), if_pos full]
    simp only [whole]
    rfl
  · have short : min Header.size p.bus.readable = p.bus.readable :=
      Nat.min_eq_right (Nat.le_of_not_le full)
    have part : ¬(p.bus.space.take (min Header.size p.bus.readable)).length = 64 := by
      rw [length, short]
      exact fun heq => full (Nat.le_of_eq heq.symm)
    rw [dif_neg part, if_neg full]
    dsimp only
    rw [length, short]

end Instance

/-! ## What preparing comes to -/

/-- The memory entries of a resource list, in order. -/
def memoryEntries (resources : List Resource) : List (PhysAddr × UInt64) :=
  resources.filterMap Resource.asMemory?

namespace Instance

/-- The ways in which preparing an instance that is not released can end: what it answers, which calls it
makes after reading the header, and what the instance holds. -/
inductive Preparation (i : Instance) (resources : List Resource) :
    Except DriverError Unit → List PlatformCall → Device → Prop where
  | short (few : i.platform.bus.readable < Header.size) :
      Preparation i resources (.error (.shortHeaderRead Header.size i.platform.bus.readable)) []
        (i.device.bare .attached)
  | stopped (e : DriverError) (made : List KernelRegion) (refused : List PlatformCall)
      (full : Header.size ≤ i.platform.bus.readable)
      (stops : Stops i.platform.memory i.platform.bus.header.presentSlots (memoryEntries resources) e)
      (refusal : ∀ call ∈ refused, Platform.RefusedRegisters call) :
      Preparation i resources (.error e) (made.map mapRegion ++ refused ++ made.map unmapRegion)
        (i.device.bare .attached)
  | paired (mapped : PerSlot (Option KernelRegion)) (full : Header.size ≤ i.platform.bus.readable)
      (enough : i.platform.bus.header.presentSlots.length ≤ (memoryEntries resources).length)
      (granted : ∀ n < i.platform.bus.header.presentSlots.length, i.platform.memory.Grants n)
      (pairs : Pairs i.platform.bus.header.presentSlots (memoryEntries resources) mapped)
      (others : ∀ slot ∉ i.platform.bus.header.presentSlots, mapped.entry slot = none) :
      Preparation i resources (.ok ()) ((regions mapped).map mapRegion)
        { i.device with context := ⟨.hardwarePrepared, mapped, i.device.context.pool, none⟩ }

/-- What preparing does: it gives back what is held, reads the header, walks over the slots, and unless
the walk went through it gives back what the walk mapped. -/
theorem exists_prepare (i : Instance) (resources : List Resource) (live : i.device.state ≠ .released) :
    ∃ p : Platform,
      Effect i.platform (i.device.context.tearDown
        ++ [.busRead 0 Header.size (min Header.size i.platform.bus.readable)]) p
      ∧ i.platform.memory.Relisted p.memory
      ∧ i.prepare resources =
        if Header.size ≤ i.platform.bus.readable then do
          let (result, mapped, p) ← p.mapSlots i.platform.bus.header.presentSlots
            (memoryEntries resources) emptySlots
          match result with
          | .error e => .ok (.error e, ⟨i.device.bare .attached, p.unmapSlots mapped⟩)
          | .ok () =>
            let d : Device :=
              { i.device with context := ⟨.hardwarePrepared, mapped, i.device.context.pool, none⟩ }
            .ok (.ok (), ⟨d, p.say .info
              ("netUIO driver loaded on device (B:D:F) " ++ i.device.address.toText)⟩)
        else .ok (.error (.shortHeaderRead Header.size i.platform.bus.readable),
          ⟨i.device.bare .attached, p⟩) := by
  have undone := effect_unmapRegisters_endLoan i
  have relisted := i.relisted_unmapRegisters_endLoan
  have device := device_unmapRegisters_endLoan i
  unfold prepare
  rw [if_neg live]
  generalize i.endLoan.unmapRegisters = torn at undone relisted device
  have bus : torn.platform.bus = i.platform.bus :=
    undone.bus fun call => Context.isBusAccess_of_mem_tearDown
  obtain ⟨p, reading, memory, header⟩ := exists_readHeader torn.platform
  rw [bus] at reading header
  refine ⟨p, undone.trans reading, ?_, ?_⟩
  · rw [memory]
    exact relisted
  · obtain ⟨d, q⟩ := torn
    cases device
    show (readHeader q >>= _) = _
    rw [header]
    split
    · rfl
    · rfl

theorem prepare_of_released {i : Instance} {resources : List Resource}
    (state : i.device.state = .released) : i.prepare resources = .ok (.error .released, i) := by
  unfold prepare
  rw [if_pos state]

/-- The present slots of a header are walked upwards. -/
theorem pairwise_presentSlots (header : Header) : header.presentSlots.Pairwise (· < ·) :=
  (List.pairwise_lt_finRange 6).filter _

theorem preparation_of_prepare {i i' : Instance} {resources : List Resource}
    {result : Except DriverError Unit} (live : i.device.state ≠ .released)
    (h : i.prepare resources = .ok (result, i')) :
    ∃ calls, i.Preparation resources result calls i'.device
      ∧ Effect i.platform (i.device.context.tearDown
          ++ .busRead 0 Header.size (min Header.size i.platform.bus.readable) :: calls) i'.platform := by
  obtain ⟨p, asked, relisted, prepare⟩ := i.exists_prepare resources live
  rw [prepare] at h
  split at h
  · next full =>
    obtain ⟨⟨outcome, mapped, p'⟩, hmap, h⟩ := Checked.bind_eq_ok_iff.1 h
    obtain ⟨made, refused, hmade, effect, refusal, hall⟩ :=
      Platform.effect_mapSlots (pairwise_presentSlots _) (fun slot _ => freeFrom_emptySlots slot) hmap
    have hmade : regions mapped = made := hmade
    have whole := asked.trans effect
    rw [List.append_assoc, List.singleton_append] at whole
    cases outcome with
    | error e =>
      cases h
      have stops := (Platform.stops_of_mapSlots hmap).congr relisted.grants_iff
      have undone := Platform.effect_unmapSlots p' mapped
      rw [hmade] at undone
      have all := whole.trans undone
      rw [List.append_assoc, List.cons_append] at all
      exact ⟨_, .stopped e made refused full stops refusal, all⟩
    | ok u =>
      cases h
      obtain ⟨enough, granted, pairs, others⟩ :=
        Platform.pairs_of_mapSlots ((pairwise_presentSlots _).imp Fin.ne_of_lt) hmap
      rw [hall rfl, List.append_nil, ← hmade] at whole
      refine ⟨_, .paired mapped full enough (fun n hn => (relisted.grants_iff n).1 (granted n hn))
        pairs ?_, whole.say _ _⟩
      intro slot hslot
      rw [others slot hslot]
      exact freeFrom_emptySlots slot slot (Fin.le_refl slot)
  · next part =>
    cases h
    exact ⟨[], .short (Nat.lt_of_not_le part), asked⟩

end Instance

end Passthrough
