import Passthrough.Proofs.Driver.Ledger

/-!
# Passthrough — the calls an operation makes

A platform records every call together with its answer.  `Platform.Effect p calls p'` says that `p'` is
what `p` becomes by `calls`: they are on its record, in order, and what else can be seen of the platform
follows from them.  Effects compose (`Effect.trans`), so the effect of an operation is put together from
those of its parts.

* `LaidOut` — how the mappings lie that processes were given.
* `effect_zero`, `effect_mapRegisters`, … — one call each.
* `effect_unmapSlots`, `effect_unmapUser` — the loops that give back.
* `effect_mapSlots`, `effect_lendSlots` — the loops that map slot after slot and stop at a refusal.
-/

namespace Passthrough

open PlatformCall

/-! ## Addresses in processes -/

/-- The first address behind a mapping. -/
def ProcessMapping.stop (m : ProcessMapping) : Nat := m.base.val.toNat + m.length.toNat

/-- The mappings lie one behind the other, from `floor` on and before `next`. -/
structure LaidOut (floor : Nat) (next : UInt64) (mappings : List ProcessMapping) : Prop where
  ordered : mappings.Pairwise fun a b => a.stop ≤ b.base.val.toNat
  above : ∀ m ∈ mappings, floor ≤ m.base.val.toNat
  below : ∀ m ∈ mappings, m.stop ≤ next.toNat
  floor_le : floor ≤ next.toNat

namespace LaidOut

variable {floor : Nat} {next : UInt64} {mappings : List ProcessMapping}

theorem sublist {fewer : List ProcessMapping} (h : LaidOut floor next mappings)
    (sub : fewer.Sublist mappings) : LaidOut floor next fewer where
  ordered := h.ordered.sublist sub
  above m hm := h.above m (sub.subset hm)
  below m hm := h.below m (sub.subset hm)
  floor_le := h.floor_le

/-- A mapping at the next address comes behind all others. -/
theorem concat {length next' : UInt64} (h : LaidOut floor next mappings) (process : ProcessId)
    (hnext : next'.toNat = next.toNat + length.toNat) :
    LaidOut floor next' (mappings ++ [⟨process, ⟨next⟩, length⟩]) where
  ordered := by
    refine List.pairwise_append.2 ⟨h.ordered, List.pairwise_singleton _ _, ?_⟩
    intro a ha b hb
    cases List.mem_singleton.1 hb
    exact h.below a ha
  above m hm := by
    rcases List.mem_append.1 hm with hm | hm
    · exact h.above m hm
    · cases List.mem_singleton.1 hm
      exact h.floor_le
  below m hm := by
    rcases List.mem_append.1 hm with hm | hm
    · have before := h.below m hm
      omega
    · cases List.mem_singleton.1 hm
      exact Nat.le_of_eq hnext.symm
  floor_le := by
    have before := h.floor_le
    omega

end LaidOut

namespace Platform

/-- `p'` is what `p` becomes by `calls`. -/
structure Effect (p : Platform) (calls : List PlatformCall) (p' : Platform) : Prop where
  recorded : p'.calls = p.calls ++ calls
  ledger : p'.memory.ledger = p.memory.ledger.replay calls
  bus : (∀ call ∈ calls, call.isBusAccess = false) → p'.bus = p.bus
  kernel : p.memory.nextKernel ≤ p'.memory.nextKernel
  /-- Kernel addresses are handed out in increasing order. -/
  fresh : ∀ start length cache base,
    .mapRegisters start length cache (some base) ∈ calls → p.memory.nextKernel ≤ base.val
  /-- So are addresses in processes. -/
  laid : ∀ floor, LaidOut floor p.memory.nextUser p.memory.processMappings →
    LaidOut floor p'.memory.nextUser p'.memory.processMappings

namespace Effect

theorem refl (p : Platform) : Effect p [] p where
  recorded := (List.append_nil _).symm
  ledger := rfl
  bus _ := rfl
  kernel := UInt64.le_refl _
  fresh := by simp
  laid _ h := h

theorem trans {p p' p'' : Platform} {first second : List PlatformCall}
    (h : Effect p first p') (h' : Effect p' second p'') : Effect p (first ++ second) p'' where
  recorded := by rw [h'.recorded, h.recorded, List.append_assoc]
  ledger := by rw [h'.ledger, h.ledger, Ledger.replay_append]
  bus hbus := by
    simp only [List.mem_append] at hbus
    rw [h'.bus fun call hc => hbus call (.inr hc), h.bus fun call hc => hbus call (.inl hc)]
  kernel := UInt64.le_trans h.kernel h'.kernel
  fresh start length cache base hmem := by
    rcases List.mem_append.1 hmem with hmem | hmem
    · exact h.fresh start length cache base hmem
    · exact UInt64.le_trans h.kernel (h'.fresh start length cache base hmem)
  laid floor before := h'.laid floor (h.laid floor before)

/-- What a platform says has no effect. -/
theorem say {p p' : Platform} {calls : List PlatformCall} (h : Effect p calls p')
    (severity : Severity) (text : String) : Effect p calls (p'.say severity text) where
  recorded := h.recorded
  ledger := h.ledger
  bus := h.bus
  kernel := h.kernel
  fresh := h.fresh
  laid := h.laid

end Effect

/-! ## Single calls -/

/-- A single call that stays off the bus and hands out no kernel address. -/
theorem effect_single {p p' : Platform} {call : PlatformCall}
    (recorded : p'.calls = p.calls ++ [call])
    (ledger : p'.memory.ledger = p.memory.ledger.after call) (bus : p'.bus = p.bus)
    (kernel : p'.memory.nextKernel = p.memory.nextKernel)
    (other : ∀ start length cache base, call ≠ .mapRegisters start length cache (some base))
    (laid : ∀ floor, LaidOut floor p.memory.nextUser p.memory.processMappings →
      LaidOut floor p'.memory.nextUser p'.memory.processMappings) :
    Effect p [call] p' where
  recorded := recorded
  ledger := ledger
  bus _ := bus
  kernel := by
    rw [kernel]
    exact UInt64.le_refl _
  fresh start length cache base hmem :=
    absurd (List.mem_singleton.1 hmem).symm (other start length cache base)
  laid := laid

theorem effect_free (p : Platform) (region : KernelRegion) :
    Effect p [.free region] (p.free region) :=
  effect_single rfl rfl rfl rfl (by simp) fun _ h => h

theorem effect_unmapRegisters (p : Platform) (region : KernelRegion) :
    Effect p [unmapRegion region] (p.unmapRegisters region) :=
  effect_single rfl rfl rfl rfl (by simp [unmapRegion]) fun _ h => h

theorem effect_unmapFromProcess (p : Platform) (m : ProcessMapping) :
    Effect p [takeBack m] (p.unmapFromProcess m.process m.base m.length) :=
  effect_single rfl rfl rfl rfl (by simp [takeBack]) fun _ h => h.sublist List.filter_sublist

theorem effect_zero {p p' : Platform} {region : KernelRegion} (h : p.zero region = .ok p') :
    Effect p [.zero region.virt region.size] p' := by
  obtain ⟨memory, hm, hp⟩ := Checked.bind_eq_ok_iff.1 h
  obtain ⟨zeroed, _, hm⟩ := Checked.bind_eq_ok_iff.1 hm
  cases hm
  cases hp
  exact effect_single rfl rfl rfl rfl (by simp) fun _ h => h

/-- A word is not above a sum that it is part of. -/
theorem le_of_addChecked {a b c : UInt64} (h : addChecked a b = .ok c) : a ≤ c := by
  rw [UInt64.le_iff_toNat_le, addChecked_eq_ok_iff.1 h]
  omega

/-- An allocation that is granted ends where the next one or the next register mapping begins. -/
theorem effect_allocate {p p' : Platform} {size : UInt64} {cache : CacheKind} {region : KernelRegion}
    (h : p.allocate size cache = .ok (some region, p')) :
    Effect p [.allocate size cache (some region)] p' ∧ region.size = size
      ∧ region.virt.val.toNat + size.toNat = p'.memory.nextKernel.toNat := by
  obtain ⟨⟨answer, memory⟩, hm, hp⟩ := Checked.bind_eq_ok_iff.1 h
  cases hp
  unfold KernelMemory.allocate at hm
  split at hm
  · cases hm
  · obtain ⟨nextPhys, _, hm⟩ := Checked.bind_eq_ok_iff.1 hm
    obtain ⟨nextKernel, hnext, hm⟩ := Checked.bind_eq_ok_iff.1 hm
    cases hm
    refine ⟨⟨rfl, rfl, fun _ => rfl, le_of_addChecked hnext, by simp, fun _ h => h⟩, rfl, ?_⟩
    exact (addChecked_eq_ok_iff.1 hnext).symm

theorem effect_mapRegisters {p p' : Platform} {start : PhysAddr} {length : UInt64}
    {cache : CacheKind} {answer : Option VirtAddr}
    (h : p.mapRegisters start length cache = .ok (answer, p')) :
    Effect p [.mapRegisters start length cache answer] p' := by
  obtain ⟨⟨answer', memory⟩, hm, hp⟩ := Checked.bind_eq_ok_iff.1 h
  cases hp
  unfold KernelMemory.mapRegisters at hm
  dsimp only at hm
  split at hm
  · cases hm
    exact effect_single rfl rfl rfl rfl (by simp) fun _ h => h
  · obtain ⟨next, hnext, hm⟩ := Checked.bind_eq_ok_iff.1 hm
    cases hm
    refine ⟨rfl, rfl, fun _ => rfl, le_of_addChecked hnext, ?_, fun _ h => h⟩
    intro start' length' cache' base hmem
    cases List.mem_singleton.1 hmem
    exact UInt64.le_refl _

theorem effect_mapIntoProcess {p p' : Platform} {process : ProcessId} {region : KernelRegion}
    {cache : CacheKind} {answer : Option VirtAddr}
    (h : p.mapIntoProcess process region cache = .ok (answer, p')) :
    Effect p [.mapIntoProcess process region.virt region.size cache answer] p' := by
  obtain ⟨⟨answer', memory⟩, hm, hp⟩ := Checked.bind_eq_ok_iff.1 h
  cases hp
  unfold KernelMemory.mapIntoProcess at hm
  dsimp only at hm
  split at hm
  · cases hm
    exact effect_single rfl rfl rfl rfl (by simp) fun _ h => h
  · obtain ⟨next, hnext, hm⟩ := Checked.bind_eq_ok_iff.1 hm
    cases hm
    exact effect_single rfl rfl rfl rfl (by simp) fun _ h =>
      h.concat process (addChecked_eq_ok_iff.1 hnext)

theorem effect_busRead {p p' : Platform} {offset : UInt32} {length : Nat} {data : Bytes}
    (h : p.busRead offset length = .ok (data, p')) :
    Effect p [.busRead offset length data.length] p' := by
  obtain ⟨⟨data', bus⟩, hb, hp⟩ := Checked.bind_eq_ok_iff.1 h
  cases hp
  refine ⟨rfl, rfl, fun hbus => ?_, UInt64.le_refl _, by simp, fun _ h => h⟩
  simp [isBusAccess] at hbus

theorem effect_busWrite (p : Platform) (offset : UInt32) (data : Bytes) :
    Effect p [.busWrite offset data (p.busWrite offset data).1] (p.busWrite offset data).2 := by
  refine ⟨rfl, rfl, fun hbus => ?_, UInt64.le_refl _, by simp, fun _ h => h⟩
  simp [isBusAccess] at hbus

/-! ## Changes of the surroundings

They concern what the bus and the memory manager will answer, not what was recorded. -/

section Adjust

variable (p : Platform) (operation : Operation)

@[simp] theorem calls_adjust : (p.adjust operation).calls = p.calls := by
  cases operation <;> rfl

@[simp] theorem ledger_adjust : (p.adjust operation).memory.ledger = p.memory.ledger := by
  cases operation <;> rfl

@[simp] theorem nextKernel_adjust :
    (p.adjust operation).memory.nextKernel = p.memory.nextKernel := by
  cases operation <;> rfl

@[simp] theorem nextUser_adjust :
    (p.adjust operation).memory.nextUser = p.memory.nextUser := by
  cases operation <;> rfl

@[simp] theorem processMappings_adjust :
    (p.adjust operation).memory.processMappings = p.memory.processMappings := by
  cases operation <;> rfl

end Adjust

/-! ## The loops that give back -/

theorem effect_foldl_unmapRegisters (p : Platform) (undone : List KernelRegion) :
    Effect p (undone.map unmapRegion) (undone.foldl unmapRegisters p) := by
  induction undone generalizing p with
  | nil => exact .refl p
  | cons r rest ih => exact (effect_unmapRegisters p r).trans (ih _)

theorem effect_unmapSlots (p : Platform) (registers : PerSlot (Option KernelRegion)) :
    Effect p ((regions registers).map unmapRegion) (p.unmapSlots registers) :=
  effect_foldl_unmapRegisters p (regions registers)

theorem effect_foldl_unmapFromProcess (p : Platform) (undone : List ProcessMapping) :
    Effect p (undone.map takeBack)
      (undone.foldl (fun p m => p.unmapFromProcess m.process m.base m.length) p) := by
  induction undone generalizing p with
  | nil => exact .refl p
  | cons m rest ih => exact (effect_unmapFromProcess p m).trans (ih _)

/-- Undoing a loan undoes its mappings one after the other. -/
theorem unmapUser_eq_foldl (p : Platform) (pool : Option KernelRegion)
    (registers : PerSlot (Option KernelRegion)) (user : UserMapping) :
    p.unmapUser pool registers user
      = (user.mappings pool registers).foldl
          (fun p m => p.unmapFromProcess m.process m.base m.length) p := by
  have hslots : slotMappings registers user.registers
      = (slotLoans registers user.registers).map fun loan => (loan.2, loan.1.size) := by
    unfold slotMappings slotLoans
    rw [List.map_filterMap]
    congr 1
    funext pair
    rcases pair with ⟨_ | region, _ | base⟩ <;> rfl
  unfold unmapUser UserMapping.mappings
  rw [hslots, List.foldl_append, List.foldl_map, List.foldl_map]
  cases pool with
  | none => rfl
  | some region => rfl

theorem effect_unmapUser (p : Platform) (pool : Option KernelRegion)
    (registers : PerSlot (Option KernelRegion)) (user : UserMapping) :
    Effect p ((user.mappings pool registers).map takeBack) (p.unmapUser pool registers user) := by
  rw [unmapUser_eq_foldl]
  exact effect_foldl_unmapFromProcess p _

/-! ## The loops that map

Both loops walk slots upwards.  What they have mapped so far is what the slots below hold, in order, so
the calls they made can be read off the slots in the end.  A refusal is the last call of a loop. -/

/-- A call that asked for a mapping of registers and was refused. -/
def RefusedRegisters (call : PlatformCall) : Prop :=
  ∃ start length, call = .mapRegisters start length .nonCached none

theorem effect_mapSlots {slots : List (Fin 6)} {resources : List (PhysAddr × UInt64)}
    {mapped mapped' : PerSlot (Option KernelRegion)} {p p' : Platform}
    {result : Except DriverError Unit} (sorted : slots.Pairwise (· < ·))
    (free : ∀ slot ∈ slots, FreeFrom mapped slot)
    (h : mapSlots slots resources mapped p = .ok (result, mapped', p')) :
    ∃ made refused, regions mapped' = regions mapped ++ made
      ∧ Effect p (made.map mapRegion ++ refused) p'
      ∧ (∀ call ∈ refused, RefusedRegisters call)
      ∧ (result = .ok () → refused = []) := by
  induction slots generalizing resources mapped p with
  | nil =>
    cases h
    exact ⟨[], [], by simp, .refl _, by simp, fun _ => rfl⟩
  | cons slot slots ih =>
    cases resources with
    | nil =>
      cases h
      exact ⟨[], [], by simp, .refl _, by simp, fun _ => rfl⟩
    | cons resource resources =>
      obtain ⟨start, length⟩ := resource
      obtain ⟨⟨answer, p₁⟩, hmap, h⟩ := Checked.bind_eq_ok_iff.1 h
      have effect := effect_mapRegisters hmap
      cases answer with
      | none =>
        -- The refusal is recorded and the loop is over.
        cases h
        refine ⟨[], [.mapRegisters start length .nonCached none], by simp, effect, ?_, by simp⟩
        intro call hcall
        exact ⟨start, length, List.mem_singleton.1 hcall⟩
      | some virt =>
        -- The slots that are left lie above this one, so they stay free when it is filled.
        have sorted' := List.pairwise_cons.1 sorted
        have free' : ∀ next ∈ slots, FreeFrom (mapped.put slot (some ⟨start, virt, length⟩)) next :=
          fun next hnext => (free slot List.mem_cons_self).put (sorted'.1 next hnext)
        obtain ⟨made, refused, hregions, rest, hrefused, hall⟩ := ih sorted'.2 free' h
        rw [regions_put (free slot List.mem_cons_self), List.append_assoc] at hregions
        exact ⟨⟨start, virt, length⟩ :: made, refused, hregions, effect.trans rest, hrefused, hall⟩

theorem effect_lendSlots {process : ProcessId} {registers : PerSlot (Option KernelRegion)}
    {slots : List (Fin 6)} {lent lent' : PerSlot (Option VirtAddr)} {p p' : Platform}
    {complete : Bool} (sorted : slots.Pairwise (· < ·)) (free : ∀ slot ∈ slots, FreeFrom lent slot)
    (h : lendSlots process registers slots lent p = .ok (complete, lent', p')) :
    ∃ made refused, slotLoans registers lent' = slotLoans registers lent ++ made
      ∧ Effect p (made.map (lendSlot process) ++ refused) p'
      ∧ (∀ slot ∉ slots, lent'.entry slot = lent.entry slot)
      ∧ (if complete then
          refused = [] ∧ ∀ slot ∈ slots, (lent'.entry slot).isSome = (registers.entry slot).isSome
        else ∃ region ∈ regions registers, refused = [lendRegion process region none]) := by
  induction slots generalizing lent p with
  | nil =>
    cases h
    exact ⟨[], [], by simp, .refl _, by simp, by simp⟩
  | cons slot slots ih =>
    have sorted' := List.pairwise_cons.1 sorted
    have hnotin : slot ∉ slots := fun hmem => absurd (sorted'.1 slot hmem) (by omega)
    unfold lendSlots at h
    cases hregion : registers.entry slot with
    | none =>
      -- A slot without registers is passed over, and nothing is lent there.
      rw [hregion] at h
      obtain ⟨made, refused, hloans, effect, hsame, hend⟩ :=
        ih sorted'.2 (fun next hnext => free next (List.mem_cons_of_mem _ hnext)) h
      refine ⟨made, refused, hloans, effect, ?_, ?_⟩
      · intro t ht
        exact hsame t fun hmem => ht (List.mem_cons_of_mem _ hmem)
      · cases complete with
        | false => exact hend
        | true =>
          refine ⟨hend.1, ?_⟩
          intro t ht
          rcases List.mem_cons.1 ht with rfl | ht
          · have hnone := free t List.mem_cons_self t (Fin.le_refl t)
            rw [hsame t hnotin, hnone, hregion]
            rfl
          · exact hend.2 t ht
    | some region =>
      rw [hregion] at h
      obtain ⟨⟨answer, p₁⟩, hmap, h⟩ := Checked.bind_eq_ok_iff.1 h
      have effect := effect_mapIntoProcess hmap
      cases answer with
      | none =>
        cases h
        refine ⟨[], [lendRegion process region none], by simp, effect, fun _ _ => rfl, region, ?_, rfl⟩
        exact mem_regions_iff.2 ⟨slot, hregion⟩
      | some base =>
        have free' : ∀ next ∈ slots, FreeFrom (lent.put slot (some base)) next :=
          fun next hnext => (free slot List.mem_cons_self).put (sorted'.1 next hnext)
        obtain ⟨made, refused, hloans, rest, hsame, hend⟩ := ih sorted'.2 free' h
        rw [slotLoans_put hregion (free slot List.mem_cons_self), List.append_assoc] at hloans
        refine ⟨(region, base) :: made, refused, hloans, effect.trans rest, ?_, ?_⟩
        · intro t ht
          have hne : slot ≠ t := fun heq => ht (heq ▸ List.mem_cons_self)
          rw [hsame t fun hmem => ht (List.mem_cons_of_mem _ hmem)]
          exact PerSlot.entry_put_of_ne hne
        · cases complete with
          | false => exact hend
          | true =>
            refine ⟨hend.1, ?_⟩
            intro t ht
            rcases List.mem_cons.1 ht with rfl | ht
            · rw [hsame t hnotin, hregion]
              simp
            · exact hend.2 t ht

end Platform

end Passthrough
