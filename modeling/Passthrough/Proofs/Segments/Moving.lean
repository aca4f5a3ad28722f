import Passthrough.Proofs.Segments.Foreign
import Passthrough.Proofs.Segments.PartialMap
import Passthrough.Proofs.Segments.Storing

/-!
# Passthrough — reservations and the lists they stand for

A list moves segment by segment.  Each segment is put as far behind the new base as it was behind the old
one, so where the list was in between leaves no trace.

```text
 old   base                 addr
       ├───── distance ──────●────────┤
 new             base                 addr
                 ├───── distance ──────●────────┤
```

* `SegmentList.Shifted` — a list and the same list at another base.
* `SegmentList.shifted_of_movedTo`, `SegmentList.rebase_rebase_iff` — moving once, and twice.
* `MemConfig.numbers_eq_filter` — the numbers of the lists that have segments.
* `MemConfig.reservations_match_lists` — what reservations say of the lists, and what stays.
-/

namespace Passthrough

/-- The numbers of the entries that pass a test, from the lowest to the highest. -/
theorem Arena.map_fst_filter_entries {α : Type} [Inhabited α] (a : Arena α) (p : α → Bool) :
    (a.entries.filter fun e => p e.2).map Prod.fst
      = (List.range a.capacity).filter fun i => (a.get? i).any p := by
  rw [entries_eq_filterMap, List.filter_filterMap, List.map_filterMap,
    ← List.map_coe_finRange_eq_range, List.filter_map, ← List.filterMap_eq_map,
    ← List.filterMap_eq_filter, List.filterMap_filterMap]
  refine List.filterMap_congr fun i _ => ?_
  cases there : a.get? i with
  | none => simp [there, Option.guard]
  | some v => cases passes : p v <;> simp [there, passes, Option.guard, Option.filter]

namespace SegmentList

variable {l m : SegmentList}

/-! ## Segments -/

/-- A segment that moved is as far behind the base as before. -/
theorem toNat_addr_of_moveSegment {old new : VirtAddr} {s s' : Segment}
    (h : moveSegment old new s = .ok s') :
    s'.addr.val.toNat + old.val.toNat = s.addr.val.toNat + new.val.toNat := by
  obtain ⟨low, room, rfl⟩ := moveSegment_eq_ok_iff.1 h
  have le : old.val ≤ s.addr.val := UInt64.le_iff_toNat_le.2 low
  show (new.val + (s.addr.val - old.val)).toNat + old.val.toNat = _
  rw [UInt64.toNat_add, UInt64.toNat_sub_of_le _ _ le, Nat.mod_eq_of_lt room]
  omega

theorem moveSegment_moveSegment {old mid new : VirtAddr} {s s' : Segment}
    (h : moveSegment old mid s = .ok s') : moveSegment mid new s' = moveSegment old new s := by
  have there := toNat_addr_of_moveSegment h
  obtain ⟨low, room, rfl⟩ := moveSegment_eq_ok_iff.1 h
  have le : old.val ≤ s.addr.val := UInt64.le_iff_toNat_le.2 low
  -- Both moves start from one distance.
  have distance : subChecked (mid.val + (s.addr.val - old.val)) mid.val = .ok (s.addr.val - old.val) := by
    rw [subChecked_eq_ok_iff, UInt64.toNat_sub_of_le _ _ le]
    dsimp only at there
    omega
  have distance' : subChecked s.addr.val old.val = .ok (s.addr.val - old.val) := if_pos le
  rw [moveSegment, moveSegment, distance, distance']

/-! ## Lists -/

/-- The same list at another base, with each segment as far behind the base as before. -/
structure Shifted (l m : SegmentList) : Prop where
  name : m.name = l.name
  pageSize : m.pageSize = l.pageSize
  socket : m.socket = l.socket
  capacity : m.capacity = l.capacity
  unused : ∀ j, l.segments.get? j = none → m.segments.get? j = none
  segment : ∀ j s, l.segments.get? j = some s → ∃ s', m.segments.get? j = some s'
    ∧ s'.iova = s.iova ∧ s'.length = s.length ∧ s'.pageSize = s.pageSize ∧ s'.socket = s.socket
    ∧ s'.addr.val.toNat + l.base.val.toNat = s.addr.val.toNat + m.base.val.toNat

theorem Shifted.refl (l : SegmentList) : l.Shifted l :=
  ⟨rfl, rfl, rfl, rfl, fun _ unused => unused, fun _ s there => ⟨s, there, rfl, rfl, rfl, rfl, rfl⟩⟩

theorem shifted_of_rebase {base : VirtAddr} (h : l.rebase base = .ok m) : l.Shifted m := by
  obtain ⟨segments, moved, rfl⟩ := rebase_eq_ok_iff.1 h
  obtain ⟨capacity, view⟩ := Arena.mapUsed_eq_ok_iff.1 moved
  refine ⟨rfl, rfl, rfl, capacity, fun j unused => ?_, fun j s there => ?_⟩
  · have slot := view j
    rw [unused] at slot
    exact (Except.ok.inj slot).symm
  · have slot := view j
    rw [there, Option.mapM_some] at slot
    cases answer : moveSegment l.base base s with
    | error fault =>
      rw [answer] at slot
      cases slot
    | ok s' =>
      rw [answer] at slot
      have distance := toNat_addr_of_moveSegment answer
      obtain ⟨-, -, rfl⟩ := moveSegment_eq_ok_iff.1 answer
      exact ⟨_, (Except.ok.inj slot).symm, rfl, rfl, rfl, rfl, distance⟩

theorem shifted_of_movedTo {base : VirtAddr} (h : l.movedTo base = .ok m) : l.Shifted m := by
  unfold movedTo at h
  split at h
  · cases h
    exact .refl l
  · exact shifted_of_rebase h

/-- **Moving twice is moving once**, to the last base. -/
theorem rebase_rebase_iff {n : SegmentList} {base base' : VirtAddr} (h : l.rebase base = .ok m) :
    m.rebase base' = .ok n ↔ l.rebase base' = .ok n := by
  obtain ⟨segments, moved, rfl⟩ := rebase_eq_ok_iff.1 h
  obtain ⟨capacity, view⟩ := Arena.mapUsed_eq_ok_iff.1 moved
  have slots (j : Nat) : (segments.get? j).mapM (moveSegment base base')
      = (l.segments.get? j).mapM (moveSegment l.base base') := by
    have slot := view j
    cases there : l.segments.get? j with
    | none =>
      rw [there] at slot
      rw [← Except.ok.inj slot]
      rfl
    | some s =>
      rw [there, Option.mapM_some] at slot
      cases answer : moveSegment l.base base s with
      | error fault =>
        rw [answer] at slot
        cases slot
      | ok s' =>
        rw [answer] at slot
        rw [← Except.ok.inj slot, Option.mapM_some, Option.mapM_some, moveSegment_moveSegment answer]
  simp only [rebase_eq_ok_iff, Arena.mapUsed_eq_ok_iff, capacity, slots]

end SegmentList

namespace MemConfig

variable {c : MemConfig}

/-- The numbers of the lists that have segments. -/
theorem numbers_eq_filter (c : MemConfig) :
    (c.lists.entries.filter fun e => e.2.capacity ≠ 0).map Prod.fst
      = (List.range 8).filter fun i => (c.list? i).any fun l => l.capacity ≠ 0 := by
  have numbers := c.lists.map_fst_filter_entries fun l => decide (l.capacity ≠ 0)
  rwa [c.capacity_lists] at numbers

/-- **Reservations match the lists they stand for**, for every configuration whose lists are bounded and
every system that grants no range that wraps.  Reserving answers.  If it is not refused there is one
reservation for each list that has segments, in their order, as long as the list and where the list is
now.  Lists keep what they are: each segment keeps its number, its device address and its distance from
the base; what has no segments, or was granted its own base, stays as it was.  And a list that is moved
twice is as if it had been moved once. -/
theorem reservations_match_lists {place : Placement} (inRange : place.InRange)
    (bounded : ∀ i l, c.list? i = some l → l.Bounded) :
    (∃ reserved, reserveLists place c = .ok reserved
      ∧ ∀ reservations, reserved.result = .ok reservations →
        reservations.map Reservation.list
            = (List.range 8).filter (fun i => (c.list? i).any fun l => l.capacity ≠ 0)
          ∧ (∀ i, c.list? i = none → reserved.config.list? i = none)
          ∧ ∀ i l, c.list? i = some l → ∃ l', reserved.config.list? i = some l' ∧ l.Shifted l'
            ∧ (l.capacity = 0 → l' = l)
            ∧ ∀ r ∈ reservations, r.list = i → r.range.length.toNat = l.pageSize.toNat * l.capacity
              ∧ r.range.base = l'.base ∧ (r.range.base = l.base → l' = l))
    ∧ ∀ (l m n : SegmentList) (base base' : VirtAddr), l.rebase base = .ok m →
      (m.rebase base' = .ok n ↔ l.rebase base' = .ok n) := by
  refine ⟨?_, fun l m n base base' moved => SegmentList.rebase_rebase_iff moved⟩
  obtain ⟨reserved, answers⟩ := exists_reserveLists_of_bounded bounded inRange
  refine ⟨reserved, answers, fun reservations done => ?_⟩
  obtain ⟨numbers, settled, others⟩ := settled_of_reserveLists answers done
  have listed {i : Nat} (there : i ∈ reservations.map Reservation.list) :
      ∃ l, c.list? i = some l ∧ l.capacity ≠ 0 := by
    obtain ⟨r, hr, rfl⟩ := List.mem_map.1 there
    obtain ⟨l, -, there, filled, -⟩ := settled r hr
    exact ⟨l, there, filled⟩
  refine ⟨numbers.trans c.numbers_eq_filter, fun i unused => ?_, fun i l there => ?_⟩
  · rw [others i fun granted => ?_, unused]
    obtain ⟨l, there, -⟩ := listed granted
    rw [unused] at there
    cases there
  by_cases granted : i ∈ reservations.map Reservation.list
  · obtain ⟨r, hr, rfl⟩ := List.mem_map.1 granted
    obtain ⟨l₀, l', there₀, filled, spans, there', moved⟩ := settled r hr
    obtain rfl := Option.some.inj (there.symm.trans there₀)
    refine ⟨l', there', SegmentList.shifted_of_movedTo moved, fun empty => absurd empty filled, ?_⟩
    intro r' hr' same
    -- The list has one reservation only, but it is enough that any of them moved it here.
    obtain ⟨l₁, l₁', there₁, -, spans₁, there₁', moved₁⟩ := settled r' hr'
    rw [same] at there₁ there₁'
    obtain rfl := Option.some.inj (there.symm.trans there₁)
    obtain rfl := Option.some.inj (there'.symm.trans there₁')
    obtain ⟨base, -, -⟩ := SegmentList.of_movedTo moved₁
    refine ⟨SegmentList.toNat_of_spanBytes_of_lt (bounded _ l there).word spans₁, base.symm, ?_⟩
    intro own
    rw [own, SegmentList.movedTo_base] at moved₁
    exact (Except.ok.inj moved₁).symm
  · refine ⟨l, (others i granted).trans there, .refl l, fun _ => rfl, ?_⟩
    rintro r hr rfl
    exact absurd (List.mem_map_of_mem hr) granted

/-- Two lists at one base, of which the second has to move. -/
theorem reservations_match_lists_holed : ∃ reserved reservations l',
    reserveLists AddressSpace.empty.placement holed = .ok reserved
      ∧ reserved.result = .ok reservations ∧ reservations.map Reservation.list = [0, 2]
      ∧ reserved.config.list? 2 = some l' ∧ (listOf twoPages 0 2).Shifted l'
      ∧ l'.base ≠ (listOf twoPages 0 2).base := by
  have bounded (i : Nat) (l : SegmentList) (there : holed.list? i = some l) : l.Bounded := by
    rw [eq_listOf_of_holed there]
    exact (paged_listOf (by decide) (by decide) (by decide) (by decide)).bounded
  obtain ⟨⟨reserved, answers, matching⟩, -⟩ :=
    reservations_match_lists AddressSpace.empty.inRange_placement bounded
  have computed : ((reserveLists AddressSpace.empty.placement holed).toOption.any fun reserved =>
      reserved.result.toOption.any fun _ =>
        reserved.config.base? 2 ≠ some (listOf twoPages 0 2).base) = true := by
    decide +kernel
  obtain ⟨_, answers', computed⟩ := exists_ok_of_any computed
  obtain rfl := Except.ok.inj (answers.symm.trans answers')
  obtain ⟨reservations, done, away⟩ := exists_ok_of_any computed
  obtain ⟨numbers, -, settled⟩ := matching reservations done
  obtain ⟨l', there', shifted, -⟩ := settled 2 (listOf twoPages 0 2) (Layout.list?_tabulate _ (by decide))
  refine ⟨reserved, reservations, l', answers, done, ?_, there', shifted, fun same => ?_⟩
  · rw [numbers]
    decide +kernel
  · rw [decide_eq_true_iff, base?, there', Option.map_some, same] at away
    exact away rfl

end MemConfig

end Passthrough
