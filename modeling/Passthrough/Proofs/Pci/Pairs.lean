import Passthrough.Pci.Header

/-!
# Passthrough — registers that go in pairs

A 64-bit base takes two registers, and the second one holds nothing but address bits.  Who walks over the
registers from the first slot on, and steps over the upper half of a pair, comes to every slot where a base
begins.

```text
 slot      0        1        2        3        4        5
           ├─ low ──┼ upper ─┼─ 32 ───┼─ low ──┼ upper ─┼─ 32 ───┤
 walk      ●                 ●        ●                 ●
```

The header decides on a slot by the register before it alone, without asking whether that one is an upper
half.

* `Header.Visits` — the slots that the walk comes to, and `visits_succ_iff`, how it goes on.
* `Header.mem_presentSlots_iff_visits` — the slots that the header takes for present, in terms of the walk.
* `Header.present_iff_visited_iff` — when these are the slots of the walk that are not zero.
* `Header.hidden_behind_upper` — a slot that is hidden by the address bits before it.
-/

namespace Passthrough.Header

/-- The walk over the registers comes to a slot. -/
inductive Visits (h : Header) : Nat → Prop where
  | start : Visits h 0
  | single {slot : Fin 6} (visited : Visits h slot)
      (narrow : (h.register slot).is64Bit = false) : Visits h (slot + 1)
  | pair {slot : Fin 6} (visited : Visits h slot)
      (wide : (h.register slot).is64Bit = true) : Visits h (slot + 2)

variable {h : Header}

/-- The walk comes to a slot from the one before, which is no low half, or over an upper half. -/
theorem Visits.origin {n : Nat} (visited : h.Visits (n + 1)) :
    (∃ slot : Fin 6, slot.val = n ∧ (h.register slot).is64Bit = false)
      ∨ ∃ slot : Fin 6, slot.val + 1 = n ∧ h.Visits slot ∧ (h.register slot).is64Bit = true := by
  generalize place : n + 1 = next at visited
  cases visited with
  | start => cases place
  | @single slot _ narrow => exact .inl ⟨slot, (Nat.succ.inj place).symm, narrow⟩
  | @pair slot visited wide => exact .inr ⟨slot, (Nat.succ.inj place).symm, visited, wide⟩

/-- The walk leaves a slot out exactly if it has found the low half of a pair before it. -/
theorem visits_succ_iff (slot : Fin 6) :
    h.Visits (slot + 1) ↔ ¬(h.Visits slot ∧ (h.register slot).is64Bit = true) := by
  obtain ⟨n, room⟩ := slot
  -- Whether a slot is an upper half depends on the one before it, and so on back to the start.
  induction n with
  | zero =>
    constructor
    · rintro visited ⟨-, wide⟩
      rcases visited.origin with ⟨slot, place, narrow⟩ | ⟨slot, place, -⟩
      · obtain rfl := Fin.ext place
        rw [wide] at narrow
        cases narrow
      · cases place
    · intro low
      exact .single .start (Bool.eq_false_iff.2 fun wide => low ⟨.start, wide⟩)
  | succ n ih =>
    have before := ih (by omega)
    constructor
    · rintro visited ⟨reached, wide⟩
      rcases visited.origin with ⟨slot, place, narrow⟩ | ⟨slot, place, visited', wide'⟩
      · obtain rfl := Fin.ext place
        rw [wide] at narrow
        cases narrow
      · -- The slot is an upper half, so the walk does not come to it.
        have same : slot = ⟨n, by omega⟩ := Fin.ext (Nat.succ.inj place)
        rw [same] at visited' wide'
        exact before.1 reached ⟨visited', wide'⟩
    · intro low
      by_cases reached : h.Visits (n + 1)
      · exact .single reached (Bool.eq_false_iff.2 fun wide => low ⟨reached, wide⟩)
      · obtain ⟨visited, wide⟩ := Classical.not_not.1 (mt before.2 reached)
        exact .pair visited wide

/-! ## Present slots -/

/-- The header looks at the register of a slot and at the one before it. -/
theorem mem_presentSlots_iff {slot : Fin 6} :
    slot ∈ h.presentSlots ↔ (h.register slot).isZero = false
      ∧ ∀ before : Fin 6, before.val + 1 = slot.val → (h.register before).is64Bit = false := by
  have claimed : h.isClaimed slot = false
      ↔ ∀ before : Fin 6, before.val + 1 = slot.val → (h.register before).is64Bit = false := by
    unfold isClaimed
    split
    · next first =>
      simp only [true_iff]
      intro before place
      omega
    · next later =>
      constructor
      · intro narrow before place
        have same : before = ⟨slot.val - 1, by omega⟩ := Fin.ext (by dsimp only; omega)
        rw [same]
        exact narrow
      · intro narrow
        exact narrow _ (by dsimp only; omega)
  unfold presentSlots isPresent
  rw [List.mem_filter, Bool.not_eq_true', Bool.or_eq_false_iff, claimed]
  exact and_iff_right (List.mem_finRange slot)

/-- The upper half of a pair never counts as present. -/
theorem visits_of_mem_presentSlots {slot : Fin 6} (present : slot ∈ h.presentSlots) :
    h.Visits slot := by
  obtain ⟨n, room⟩ := slot
  cases n with
  | zero => exact .start
  | succ n =>
    have narrow := (mem_presentSlots_iff.1 present).2 ⟨n, by omega⟩ rfl
    refine (visits_succ_iff ⟨n, by omega⟩).2 ?_
    rintro ⟨-, wide⟩
    rw [wide] at narrow
    cases narrow

/-- A slot of the walk whose register is not zero is present, unless it is behind an upper half with the
type bits of a pair. -/
theorem mem_presentSlots_iff_visits {slot : Fin 6} :
    slot ∈ h.presentSlots ↔ (h.register slot).isZero = false ∧ h.Visits slot
      ∧ ∀ upper : Fin 6, upper.val + 1 = slot.val → ¬h.Visits upper →
        (h.register upper).is64Bit = false := by
  constructor
  · intro present
    obtain ⟨nonzero, narrow⟩ := mem_presentSlots_iff.1 present
    exact ⟨nonzero, visits_of_mem_presentSlots present, fun upper place _ => narrow upper place⟩
  · rintro ⟨nonzero, visited, plain⟩
    refine mem_presentSlots_iff.2 ⟨nonzero, fun before place => ?_⟩
    by_cases reached : h.Visits before
    · -- The walk goes on from there to the slot, so it found no pair.
      rw [← place] at visited
      exact Bool.eq_false_iff.2 fun wide => (visits_succ_iff before).1 visited ⟨reached, wide⟩
    · exact plain before place reached

/-- **Registers that go in pairs.**  The upper half of a pair never counts as present.  The slots that
count as present are those of the walk with registers that are not zero, exactly if no such register is
behind an upper half that has the type bits of a pair among its address bits. -/
theorem present_iff_visited_iff (h : Header) :
    (∀ slot : Fin 6, ¬h.Visits slot → slot ∉ h.presentSlots)
      ∧ ((∀ slot : Fin 6,
            slot ∈ h.presentSlots ↔ (h.register slot).isZero = false ∧ h.Visits slot)
          ↔ ∀ upper slot : Fin 6, ¬h.Visits upper → upper.val + 1 = slot.val →
            (h.register upper).is64Bit = true → (h.register slot).isZero = true) := by
  refine ⟨fun slot left present => left (visits_of_mem_presentSlots present), ?_, ?_⟩
  · intro agree upper slot left place wide
    -- The walk steps over the upper half and comes to the slot, so only a zero can hide it.
    have visited : h.Visits slot := by
      rw [← place]
      exact (visits_succ_iff upper).2 fun low => left low.1
    refine Bool.of_not_eq_false fun nonzero => ?_
    have present := (agree slot).2 ⟨nonzero, visited⟩
    rw [(mem_presentSlots_iff.1 present).2 upper place] at wide
    cases wide
  · intro plain slot
    rw [mem_presentSlots_iff_visits]
    refine and_congr_right fun nonzero => and_iff_left_of_imp fun _ upper place left => ?_
    refine Bool.eq_false_iff.2 fun wide => ?_
    rw [plain upper slot left place wide] at nonzero
    cases nonzero

/-- A 64-bit base at `0x4_F7E0_0000` in the first two slots, and a 32-bit one in the third. -/
def highPair : Header where
  bytes := List.replicate 16 0 ++ [0x04, 0x00, 0xE0, 0xF7] ++ [0x04, 0x00, 0x00, 0x00]
    ++ [0x00, 0x00, 0xF0, 0xF7] ++ List.replicate 36 0
  length_bytes := rfl

/-- **A slot is hidden.**  No register is in I/O space, the walk comes to the third slot and its register
is not zero; but the upper half before it has the type bits of a pair, and so it does not count. -/
theorem hidden_behind_upper :
    (∀ slot : Fin 6, (highPair.register slot).isIoSpace = false)
      ∧ ¬((2 : Fin 6) ∈ highPair.presentSlots
        ↔ (highPair.register 2).isZero = false ∧ highPair.Visits (2 : Fin 6)) := by
  have visited : highPair.Visits (2 : Fin 6) := @Visits.pair _ 0 .start (by decide)
  refine ⟨by decide, fun agree => ?_⟩
  exact absurd (agree.2 ⟨by decide, visited⟩) (by decide)

end Passthrough.Header
