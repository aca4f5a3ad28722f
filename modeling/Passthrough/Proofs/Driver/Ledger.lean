import Passthrough.Driver.Run

/-!
# Passthrough — ledgers and the calls that move them

A driver instance and the kernel under it keep the same books twice.  The kernel's memory manager lists
what is allocated and mapped; the instance's context records what it has to give back.  Between them
stand the calls the instance made, and those alone move the kernel's lists.

* `Ledger`, `Ledger.replay` — the three lists, and what a sequence of calls makes of them.
* `Context.ledger` — the lists that a context stands for.
* `regions`, `slotLoans` — what the slots of a context hold, in order; the loops over slots fill them
  upwards (`regions_put`, `slotLoans_put`).
* `Ledger.replay_mapRegion`, `replay_lendSlot`, `replay_unmapRegion`, `replay_takeBack` — what calls of
  one kind make of a ledger.
-/

namespace Passthrough

/-- What a memory manager has given out and not got back. -/
@[ext]
structure Ledger where
  allocations : List KernelRegion
  registers : List RegisterMapping
  processes : List ProcessMapping
deriving DecidableEq

namespace Ledger

def after (l : Ledger) : PlatformCall → Ledger
  | .allocate _ _ (some region) => { l with allocations := l.allocations ++ [region] }
  | .free region => { l with allocations := l.allocations.filter (· ≠ region) }
  | .mapRegisters _ length _ (some base) => { l with registers := l.registers ++ [⟨base, length⟩] }
  | .unmapRegisters base length => { l with registers := l.registers.filter (· ≠ ⟨base, length⟩) }
  | .mapIntoProcess process _ length _ (some base) =>
    { l with processes := l.processes ++ [⟨process, base, length⟩] }
  | .unmapFromProcess process base length =>
    { l with processes := l.processes.filter (· ≠ ⟨process, base, length⟩) }
  | _ => l

def replay (l : Ledger) (calls : List PlatformCall) : Ledger := calls.foldl after l

@[simp] theorem replay_nil (l : Ledger) : l.replay [] = l := rfl

@[simp] theorem replay_cons (l : Ledger) (call : PlatformCall) (calls : List PlatformCall) :
    l.replay (call :: calls) = (l.after call).replay calls := rfl

@[simp] theorem replay_append (l : Ledger) (first second : List PlatformCall) :
    l.replay (first ++ second) = (l.replay first).replay second :=
  List.foldl_append

end Ledger

def KernelMemory.ledger (m : KernelMemory) : Ledger :=
  ⟨m.allocations, m.registerMappings, m.processMappings⟩

/-! ## What a context stands for -/

/-- The register mappings of a context, in the order of the slots. -/
def regions (registers : PerSlot (Option KernelRegion)) : List KernelRegion :=
  registers.toList.filterMap id

/-- The slots that have both a kernel mapping and a process mapping, with both. -/
def slotLoans (registers : PerSlot (Option KernelRegion)) (lent : PerSlot (Option VirtAddr)) :
    List (KernelRegion × VirtAddr) :=
  (registers.toList.zip lent.toList).filterMap fun
    | (some region, some base) => some (region, base)
    | _ => none

/-- The register mapping of a region. -/
def KernelRegion.registerMapping (r : KernelRegion) : RegisterMapping := ⟨r.virt, r.size⟩

/-- Where a process finds the registers of a slot. -/
def loanMapping (process : ProcessId) (loan : KernelRegion × VirtAddr) : ProcessMapping :=
  ⟨process, loan.2, loan.1.size⟩

/-- The process mappings that a loan consists of: the pool's, then those of the slots. -/
def UserMapping.mappings (user : UserMapping) (pool : Option KernelRegion)
    (registers : PerSlot (Option KernelRegion)) : List ProcessMapping :=
  pool.toList.map (fun r => ⟨user.owner.process, user.pool, r.size⟩)
    ++ (slotLoans registers user.registers).map (loanMapping user.owner.process)

namespace Context

/-- The process mappings that a context records. -/
def lent (c : Context) : List ProcessMapping :=
  match c.user with
  | none => []
  | some user => user.mappings c.pool c.registers

/-- The ledger that a context stands for: the pool, the register mappings of the slots, and the mappings
of the process that the hardware is lent to. -/
def ledger (c : Context) : Ledger where
  allocations := c.pool.toList
  registers := (regions c.registers).map KernelRegion.registerMapping
  processes := c.lent

end Context

/-! ## Slots filled in order

The loops over slots run upwards, so the slot they fill next has nothing at or above it. -/

/-- Filling the first free place of a list adds its value at the end of the values. -/
theorem filterMap_set_of_none {α β : Type} {f : α → Option β} {l : List α} {k : Nat} {a : α} {b : β}
    (hk : k < l.length) (hb : f a = some b) (hnone : ∀ x ∈ l.drop k, f x = none) :
    (l.set k a).filterMap f = l.filterMap f ++ [b] := by
  -- From place `k` on nothing counts, before the change and, but for the new value, after it.
  have htail : (l.drop k).filterMap f = [] := List.filterMap_eq_nil_iff.2 hnone
  have hrest : (l.drop (k + 1)).filterMap f = [] := by
    apply List.filterMap_eq_nil_iff.2
    intro x hx
    rw [← List.drop_drop] at hx
    exact hnone x (List.mem_of_mem_drop hx)
  have hfront : l.filterMap f = (l.take k).filterMap f := by
    calc l.filterMap f = (l.take k ++ l.drop k).filterMap f := by rw [List.take_append_drop]
      _ = (l.take k).filterMap f := by rw [List.filterMap_append, htail, List.append_nil]
  rw [List.set_eq_take_append_cons_drop, if_pos hk, List.filterMap_append,
    List.filterMap_cons_some hb, hrest, hfront]

theorem zip_set {α β : Type} {l : List α} {m : List β} {k : Nat} {a : α} {b : β}
    (ha : l[k]? = some a) : l.zip (m.set k b) = (l.zip m).set k (a, b) := by
  induction l generalizing m k with
  | nil => cases ha
  | cons x l ih =>
    cases m with
    | nil => simp
    | cons y m =>
      cases k with
      | zero =>
        cases ha
        rfl
      | succ k =>
        rw [List.set_cons_succ, List.zip_cons_cons, ih ha]
        rfl

/-- Nothing is in `slot` or above it. -/
def FreeFrom {α : Type} (values : PerSlot (Option α)) (slot : Fin 6) : Prop :=
  ∀ t : Fin 6, slot ≤ t → values.entry t = none

theorem freeFrom_emptySlots {α : Type} (slot : Fin 6) :
    FreeFrom (emptySlots : PerSlot (Option α)) slot := by
  intro t _
  simp [emptySlots, PerSlot.entry]

theorem FreeFrom.put {α : Type} {values : PerSlot (Option α)} {slot next : Fin 6} {a : α}
    (h : FreeFrom values slot) (hlt : slot < next) :
    FreeFrom (values.put slot (some a)) next := by
  intro t ht
  have hne : slot ≠ t := by omega
  have hle : slot ≤ t := by omega
  rw [PerSlot.entry_put_of_ne hne]
  exact h t hle

theorem regions_put {registers : PerSlot (Option KernelRegion)} {slot : Fin 6} {region : KernelRegion}
    (h : FreeFrom registers slot) :
    regions (registers.put slot (some region)) = regions registers ++ [region] := by
  unfold regions
  rw [PerSlot.toList_put]
  refine filterMap_set_of_none (by simp) rfl ?_
  -- What lies in the list from the slot on is what the slots from there on hold.
  intro x hx
  obtain ⟨j, hj, rfl⟩ := List.mem_drop_iff_getElem.1 hx
  have hj' : j + slot.val < 6 := by simpa using hj
  have hfree := h ⟨j + slot.val, hj'⟩ (by rw [Fin.le_def]; exact Nat.le_add_left _ _)
  simpa [Nat.add_comm, PerSlot.entry] using hfree

theorem slotLoans_emptySlots (registers : PerSlot (Option KernelRegion)) :
    slotLoans registers emptySlots = [] := by
  apply List.filterMap_eq_nil_iff.2
  rintro ⟨region, base⟩ hmem
  have hbase : base ∈ (emptySlots : PerSlot (Option VirtAddr)).toList := (List.of_mem_zip hmem).2
  have hnone : base = none := List.eq_of_mem_replicate hbase
  rw [hnone]
  cases region <;> rfl

theorem slotLoans_put {registers : PerSlot (Option KernelRegion)} {lent : PerSlot (Option VirtAddr)}
    {slot : Fin 6} {region : KernelRegion} {base : VirtAddr} (hregion : registers.entry slot = some region)
    (h : FreeFrom lent slot) :
    slotLoans registers (lent.put slot (some base))
      = slotLoans registers lent ++ [(region, base)] := by
  unfold slotLoans
  have hget : registers.toList[slot.val]? = some (some region) := by
    rw [PerSlot.getElem?_toList, hregion]
  rw [PerSlot.toList_put, zip_set hget]
  -- A pair counts only if both halves are there, and the right half is missing from the slot on.
  refine filterMap_set_of_none (by simp) rfl ?_
  intro x hx
  obtain ⟨j, hj, rfl⟩ := List.mem_drop_iff_getElem.1 hx
  have hj' : j + slot.val < 6 := by simpa using hj
  have hfree := h ⟨j + slot.val, hj'⟩ (by rw [Fin.le_def]; exact Nat.le_add_left _ _)
  have hlent : lent[slot.val + j] = none := by simpa [Nat.add_comm, PerSlot.entry] using hfree
  simp [hlent]

/-! ## What is in the slots -/

theorem mem_regions_iff {registers : PerSlot (Option KernelRegion)} {region : KernelRegion} :
    region ∈ regions registers ↔ ∃ slot : Fin 6, registers.entry slot = some region := by
  have hmem : region ∈ regions registers ↔ some region ∈ registers.toList := by
    simp [regions]
  rw [hmem, Vector.mem_toList_iff]
  constructor
  · intro h
    obtain ⟨k, hk, hget⟩ := Vector.getElem_of_mem h
    exact ⟨⟨k, hk⟩, hget⟩
  · rintro ⟨slot, hslot⟩
    exact Vector.mem_of_getElem hslot

theorem PerSlot.toList_eq_map {α : Type} (values : PerSlot α) :
    values.toList = (List.finRange 6).map values.entry := by
  apply List.ext_getElem
  · simp
  · simp [PerSlot.entry]

/-- The loans slot by slot. -/
theorem slotLoans_eq (registers : PerSlot (Option KernelRegion)) (lent : PerSlot (Option VirtAddr)) :
    slotLoans registers lent = (List.finRange 6).filterMap fun slot =>
      match registers.entry slot, lent.entry slot with
      | some region, some base => some (region, base)
      | _, _ => none := by
  unfold slotLoans
  rw [PerSlot.toList_eq_map, PerSlot.toList_eq_map, List.zip_map', List.filterMap_map]
  congr 1
  funext slot
  show (match (registers.entry slot, lent.entry slot) with
    | (some region, some base) => some (region, base)
    | _ => none) = _
  cases registers.entry slot <;> cases lent.entry slot <;> rfl

theorem mem_slotLoans_iff {registers : PerSlot (Option KernelRegion)}
    {lent : PerSlot (Option VirtAddr)} {region : KernelRegion} {base : VirtAddr} :
    (region, base) ∈ slotLoans registers lent
      ↔ ∃ slot : Fin 6, registers.entry slot = some region ∧ lent.entry slot = some base := by
  rw [slotLoans_eq, List.mem_filterMap]
  refine exists_congr fun slot => ?_
  cases registers.entry slot <;> cases lent.entry slot <;> simp

theorem mem_regions_of_mem_slotLoans {registers : PerSlot (Option KernelRegion)}
    {lent : PerSlot (Option VirtAddr)} {loan : KernelRegion × VirtAddr}
    (h : loan ∈ slotLoans registers lent) : loan.1 ∈ regions registers := by
  obtain ⟨slot, hregion, -⟩ := mem_slotLoans_iff.1 h
  exact mem_regions_iff.2 ⟨slot, hregion⟩

/-! ## Calls that give back -/

namespace PlatformCall

def isBusAccess : PlatformCall → Bool
  | .busRead .. | .busWrite .. => true
  | _ => false

/-- The call that maps the registers of a region. -/
def mapRegion (r : KernelRegion) : PlatformCall :=
  .mapRegisters r.phys r.size .nonCached (some r.virt)

/-- The call that undoes it. -/
def unmapRegion (r : KernelRegion) : PlatformCall := .unmapRegisters r.virt r.size

/-- The call that maps the registers of a region into a process, with its answer. -/
def lendRegion (process : ProcessId) (r : KernelRegion) (answer : Option VirtAddr) : PlatformCall :=
  .mapIntoProcess process r.virt r.size .nonCached answer

/-- The call that mapped the registers of a slot into a process. -/
def lendSlot (process : ProcessId) (loan : KernelRegion × VirtAddr) : PlatformCall :=
  lendRegion process loan.1 (some loan.2)

/-- The call that takes a process mapping back. -/
def takeBack (m : ProcessMapping) : PlatformCall := .unmapFromProcess m.process m.base m.length

end PlatformCall

open PlatformCall

namespace Ledger

/-- Mappings that are made are added in order. -/
theorem replay_mapRegion (l : Ledger) (made : List KernelRegion) :
    l.replay (made.map mapRegion)
      = { l with registers := l.registers ++ made.map KernelRegion.registerMapping } := by
  induction made generalizing l with
  | nil => simp
  | cons r rest ih =>
    rw [List.map_cons, replay_cons, ih]
    simp [after, mapRegion, KernelRegion.registerMapping]

theorem replay_lendSlot (l : Ledger) (process : ProcessId) (made : List (KernelRegion × VirtAddr)) :
    l.replay (made.map (lendSlot process))
      = { l with processes := l.processes ++ made.map (loanMapping process) } := by
  induction made generalizing l with
  | nil => simp
  | cons r rest ih =>
    rw [List.map_cons, replay_cons, ih]
    simp [after, lendSlot, lendRegion, loanMapping]

/-- Mappings that are undone are missing afterwards, however often they were listed. -/
theorem replay_unmapRegion (l : Ledger) (undone : List KernelRegion) :
    l.replay (undone.map unmapRegion)
      = { l with
          registers := l.registers.filter (· ∉ undone.map KernelRegion.registerMapping) } := by
  induction undone generalizing l with
  | nil =>
    have hall : l.registers.filter (· ∉ ([] : List RegisterMapping)) = l.registers :=
      List.filter_eq_self.2 fun _ _ => by simp
    rw [List.map_nil, List.map_nil, hall, replay_nil]
  | cons r rest ih =>
    rw [List.map_cons, replay_cons, ih]
    -- Two filters after each other are one; only the order of their tests differs.
    simp only [after, unmapRegion, List.filter_filter, List.map_cons]
    congr 1
    apply List.filter_congr
    intro m _
    simp only [KernelRegion.registerMapping, List.mem_cons, not_or, Bool.decide_and]
    exact Bool.and_comm _ _

theorem replay_takeBack (l : Ledger) (undone : List ProcessMapping) :
    l.replay (undone.map takeBack)
      = { l with processes := l.processes.filter (· ∉ undone) } := by
  induction undone generalizing l with
  | nil =>
    have hall : l.processes.filter (· ∉ ([] : List ProcessMapping)) = l.processes :=
      List.filter_eq_self.2 fun _ _ => by simp
    rw [List.map_nil, hall, replay_nil]
  | cons m rest ih =>
    rw [List.map_cons, replay_cons, ih]
    simp only [after, takeBack, List.filter_filter]
    congr 1
    apply List.filter_congr
    intro m' _
    simp only [List.mem_cons, not_or, Bool.decide_and]
    exact Bool.and_comm _ _

end Ledger

end Passthrough
