import Passthrough.Proofs.Segments.Attainable

/-!
# Passthrough — what is asked for and what is moved

Reserving address space first asks for a range for each list that has segments, and then moves the lists,
one after the other, each on its own: what moves one list says nothing about the others.

* `Checked.exists_mapM_eq_ok_iff` and its companions — computations for the elements of a list.
* `SegmentList.moveSegment_eq_ok_iff`, `SegmentList.rebase_eq_ok_iff` — a list moves segment by segment.
* `MemConfig.asked_of_wantedRanges` — the ranges that are asked for.
* `MemConfig.exists_moveList_iff`, `MemConfig.list?_of_moveList` — when a list moves, and what stays.
* `MemConfig.grants`, `MemConfig.of_reserveRanges` — what is granted up to the first refusal, and what was
  done to the lists by then.
* `MemConfig.settled_of_reserveLists`, `MemConfig.reserved_of_reserveLists` — one reservation for each list
  that has segments.
-/

namespace Passthrough

namespace Checked

variable {α β γ : Type}

theorem exists_map_eq_ok_iff {x : Checked α} {f : α → β} :
    (∃ b, x.map f = .ok b) ↔ ∃ a, x = .ok a := by
  cases x with
  | error e =>
    refine iff_of_false ?_ ?_
    · rintro ⟨b, h⟩
      cases h
    · rintro ⟨a, h⟩
      cases h
  | ok a => exact iff_of_true ⟨f a, rfl⟩ ⟨a, rfl⟩

/-- A list of computations answers exactly if each of them does. -/
theorem exists_mapM_eq_ok_iff {f : α → Checked β} {l : List α} :
    (∃ l', l.mapM f = .ok l') ↔ ∀ a ∈ l, ∃ b, f a = .ok b := by
  induction l with
  | nil => exact ⟨fun _ _ h => absurd h List.not_mem_nil, fun _ => ⟨[], rfl⟩⟩
  | cons a l ih =>
    rw [List.forall_mem_cons, ← ih]
    constructor
    · rintro ⟨l', h⟩
      rw [List.mapM_cons] at h
      obtain ⟨b, head, h⟩ := Checked.bind_eq_ok_iff.1 h
      obtain ⟨bs, tail, -⟩ := Checked.bind_eq_ok_iff.1 h
      exact ⟨⟨b, head⟩, bs, tail⟩
    · rintro ⟨⟨b, head⟩, bs, tail⟩
      refine ⟨b :: bs, ?_⟩
      rw [List.mapM_cons, head, tail]
      rfl

/-- The answers are those of the elements. -/
theorem mem_of_mapM {f : α → Checked β} {l : List α} {l' : List β}
    (h : l.mapM f = .ok l') (b : β) : b ∈ l' ↔ ∃ a ∈ l, f a = .ok b := by
  induction l generalizing l' with
  | nil =>
    cases h
    simp
  | cons a l ih =>
    rw [List.mapM_cons] at h
    obtain ⟨b', head, h⟩ := Checked.bind_eq_ok_iff.1 h
    obtain ⟨bs, tail, h⟩ := Checked.bind_eq_ok_iff.1 h
    cases h
    simp only [List.mem_cons, ih tail, exists_eq_or_imp, head, Except.ok.injEq, eq_comm (a := b)]

/-- What the answers have of their elements, they have in their order. -/
theorem map_of_mapM {f : α → Checked β} {g : α → γ} {g' : β → γ} {l : List α}
    {l' : List β} (h : l.mapM f = .ok l') (keeps : ∀ a b, f a = .ok b → g' b = g a) :
    l'.map g' = l.map g := by
  induction l generalizing l' with
  | nil =>
    cases h
    rfl
  | cons a l ih =>
    rw [List.mapM_cons] at h
    obtain ⟨b, head, h⟩ := Checked.bind_eq_ok_iff.1 h
    obtain ⟨bs, tail, h⟩ := Checked.bind_eq_ok_iff.1 h
    cases h
    rw [List.map_cons, List.map_cons, keeps a b head, ih tail]

end Checked

theorem Arena.nodup_entries {α : Type} [Inhabited α] (a : Arena α) :
    (a.entries.map Prod.fst).Nodup := by
  have numbers : (a.slots.toList.zipIdx.map Prod.snd).Nodup := by
    rw [List.zipIdx_map_snd]
    exact List.nodup_range'
  rw [entries, List.map_map]
  exact numbers.sublist (List.filter_sublist.map Prod.snd)

namespace SegmentList

/-- A segment moves if it is not below the old base and its new address is a word. -/
theorem moveSegment_eq_ok_iff {old new : VirtAddr} {s s' : Segment} :
    moveSegment old new s = .ok s' ↔ old.val.toNat ≤ s.addr.val.toNat
      ∧ new.val.toNat + (s.addr.val.toNat - old.val.toNat) < 2 ^ 64
      ∧ s' = { s with addr := ⟨new.val + (s.addr.val - old.val)⟩ } := by
  unfold moveSegment subChecked
  by_cases le : old.val ≤ s.addr.val
  · have low := UInt64.le_iff_toNat_le.1 le
    rw [if_pos le, Checked.ok_bind, Checked.bind_eq_ok_iff, and_iff_right low,
      ← UInt64.toNat_sub_of_le _ _ le]
    constructor
    · rintro ⟨addr, sum, moved⟩
      obtain ⟨room, rfl⟩ := VirtAddr.add_eq_ok_iff.1 sum
      exact ⟨room, (Except.ok.inj moved).symm⟩
    · rintro ⟨room, rfl⟩
      exact ⟨_, VirtAddr.add_eq_ok_iff.2 ⟨room, rfl⟩, rfl⟩
  · rw [if_neg le]
    refine iff_of_false ?_ fun h => le (UInt64.le_iff_toNat_le.2 h.1)
    intro moved
    cases moved

/-- A list moves exactly if each of its segments does. -/
theorem rebase_eq_ok_iff {l m : SegmentList} {base : VirtAddr} :
    l.rebase base = .ok m ↔ ∃ segments, l.segments.mapUsed (moveSegment l.base base) = .ok segments
      ∧ m = { l with base, segments } := by
  rw [rebase, Checked.bind_eq_ok_iff]
  simp only [Except.ok.injEq, eq_comm (a := m)]

/-- A list that moves keeps its length. -/
theorem of_rebase {l l' : SegmentList} {base : VirtAddr} (h : l.rebase base = .ok l') :
    l'.base = base ∧ l'.capacity = l.capacity ∧ l'.spanBytes = l.spanBytes := by
  obtain ⟨segments, moved, rfl⟩ := rebase_eq_ok_iff.1 h
  have same : segments.capacity = l.capacity := (Arena.mapUsed_eq_ok_iff.1 moved).1
  refine ⟨rfl, same, ?_⟩
  unfold spanBytes
  rw [capacity, same]

/-- The list at `base`: as it is if it is there, and otherwise moved. -/
def movedTo (l : SegmentList) (base : VirtAddr) : Checked SegmentList :=
  if l.base = base then .ok l else l.rebase base

theorem movedTo_base (l : SegmentList) : l.movedTo l.base = .ok l := if_pos rfl

/-- A list has its new base, and is as long as before. -/
theorem of_movedTo {l l' : SegmentList} {base : VirtAddr} (h : l.movedTo base = .ok l') :
    l'.base = base ∧ l'.capacity = l.capacity ∧ l'.spanBytes = l.spanBytes := by
  unfold movedTo at h
  split at h
  · next here =>
    cases h
    exact ⟨here, rfl, rfl⟩
  · exact of_rebase h

end SegmentList

namespace MemConfig

variable {c : MemConfig}

/-! ## Asking -/

theorem mem_entries_iff {i : Nat} {l : SegmentList} :
    (i, l) ∈ c.lists.entries.filter (fun e => e.2.capacity ≠ 0)
      ↔ c.list? i = some l ∧ l.capacity ≠ 0 := by
  rw [List.mem_filter, Arena.mem_entries, decide_eq_true_iff]
  rfl

/-- The entry that a list asks for. -/
theorem asks_iff {i j : Nat} {l : SegmentList} {range : AddressRange} :
    (l.spanBytes >>= fun length => .ok (j, ⟨l.base, length⟩) : Checked (Nat × AddressRange))
        = .ok (i, range)
      ↔ j = i ∧ l.base = range.base ∧ l.spanBytes = .ok range.length := by
  rw [Checked.bind_eq_ok_iff]
  constructor
  · rintro ⟨length, h, same⟩
    cases same
    exact ⟨rfl, rfl, h⟩
  · rintro ⟨rfl, base, h⟩
    exact ⟨_, h, by rw [base]⟩

theorem numbers_of_wantedRanges {wanted : List (Nat × AddressRange)} (h : wantedRanges c = .ok wanted) :
    wanted.map Prod.fst = (c.lists.entries.filter fun e => e.2.capacity ≠ 0).map Prod.fst := by
  refine Checked.map_of_mapM h ?_
  rintro ⟨j, l⟩ entry asks
  exact (asks_iff.1 asks).1.symm

/-- What is asked for: the range of each list that has segments, once. -/
theorem asked_of_wantedRanges {wanted : List (Nat × AddressRange)} (h : wantedRanges c = .ok wanted) :
    (wanted.map Prod.fst).Nodup ∧ ∀ i range, (i, range) ∈ wanted ↔
      ∃ l, c.list? i = some l ∧ l.capacity ≠ 0 ∧ l.base = range.base
        ∧ l.spanBytes = .ok range.length := by
  constructor
  · rw [numbers_of_wantedRanges h]
    exact c.lists.nodup_entries.sublist (List.filter_sublist.map Prod.fst)
  · intro i range
    rw [Checked.mem_of_mapM h]
    constructor
    · rintro ⟨⟨j, l⟩, entry, asks⟩
      obtain ⟨rfl, base, length⟩ := asks_iff.1 asks
      obtain ⟨there, filled⟩ := mem_entries_iff.1 entry
      exact ⟨l, there, filled, base, length⟩
    · rintro ⟨l, there, filled, base, length⟩
      exact ⟨(i, l), mem_entries_iff.2 ⟨there, filled⟩, asks_iff.2 ⟨rfl, base, length⟩⟩

/-- Asking answers exactly if each list that has segments has a length. -/
theorem exists_wantedRanges_iff :
    (∃ wanted, wantedRanges c = .ok wanted) ↔
      ∀ i l, c.list? i = some l → l.capacity ≠ 0 → ∃ length, l.spanBytes = .ok length := by
  unfold wantedRanges
  rw [Checked.exists_mapM_eq_ok_iff]
  constructor
  · intro answers i l there filled
    obtain ⟨⟨j, range⟩, asks⟩ := answers (i, l) (mem_entries_iff.2 ⟨there, filled⟩)
    exact ⟨_, (asks_iff.1 asks).2.2⟩
  · rintro spans ⟨i, l⟩ entry
    obtain ⟨there, filled⟩ := mem_entries_iff.1 entry
    obtain ⟨length, h⟩ := spans i l there filled
    exact ⟨(i, ⟨l.base, length⟩), asks_iff.2 ⟨rfl, rfl, h⟩⟩

/-! ## Moving -/

theorem exists_moveList_iff {i : Nat} {base : VirtAddr} :
    (∃ c', moveList c i base = .ok c') ↔
      ∀ l, c.list? i = some l → l.base = base ∨ ∃ m, l.rebase base = .ok m := by
  unfold moveList
  cases c.list? i with
  | none => simp
  | some l =>
    simp only [Option.some.injEq, forall_eq']
    split
    · next here => exact iff_of_true ⟨c, rfl⟩ (.inl here)
    · next away => rw [Checked.exists_map_eq_ok_iff, or_iff_right away]

theorem list?_of_moveList {c' : MemConfig} {i j : Nat} {base : VirtAddr}
    (h : moveList c i base = .ok c') (other : j ≠ i) : c'.list? j = c.list? j := by
  unfold moveList at h
  split at h
  · cases h
    rfl
  · next l there =>
    split at h
    · cases h
      rfl
    · cases moved : l.rebase base with
      | error fault =>
        rw [moved] at h
        cases h
      | ok m =>
        rw [moved] at h
        cases h
        rw [list?_setList there, if_neg other]

theorem list?_of_moveList_self {c' : MemConfig} {i : Nat} {base : VirtAddr} {l : SegmentList}
    (h : moveList c i base = .ok c') (there : c.list? i = some l) :
    ∃ l', c'.list? i = some l' ∧ l.movedTo base = .ok l' := by
  unfold moveList at h
  unfold SegmentList.movedTo
  rw [there] at h
  dsimp only at h
  split at h
  · next here =>
    cases h
    exact ⟨l, there, if_pos here⟩
  · next away =>
    rw [if_neg away]
    cases moved : l.rebase base with
    | error fault =>
      rw [moved] at h
      cases h
    | ok l' =>
      rw [moved] at h
      cases h
      exact ⟨l', by rw [list?_setList there, if_pos rfl], rfl⟩

/-! ## What was granted -/

/-- The reservations for ranges that are asked for in a row after those in `granted`, up to the first
refusal. -/
def grants (place : Placement) (granted : List Reservation) :
    List (Nat × AddressRange) → List Reservation
  | [] => []
  | (i, wanted) :: rest =>
    match place (granted.map Reservation.range) wanted.base wanted.length with
    | .error _ => []
    | .ok base =>
      let r : Reservation := ⟨i, base, wanted.length⟩
      r :: grants place (granted ++ [r]) rest

/-- Nothing is granted that was not asked for, and it is granted in the order of asking. -/
theorem asked_of_grants (place : Placement) (granted : List Reservation)
    (wanted : List (Nat × AddressRange)) :
    (grants place granted wanted).map (fun r => (r.list, r.range.length))
      <+: wanted.map (fun w => (w.1, w.2.length)) := by
  induction wanted generalizing granted with
  | nil => exact List.prefix_rfl
  | cons entry wanted ih =>
    unfold grants
    split
    · exact List.nil_prefix
    · exact (List.prefix_cons_inj _).2 (ih _)

theorem numbers_of_grants (place : Placement) (granted : List Reservation)
    (wanted : List (Nat × AddressRange)) :
    (grants place granted wanted).map Reservation.list <+: wanted.map Prod.fst := by
  have pairs := (asked_of_grants place granted wanted).map Prod.fst
  rwa [List.map_map, List.map_map] at pairs

/-- **What reserving in a row does**, whether it is refused in the end or not: the lists that ranges were
granted for are where the ranges are, and the others as they were. -/
theorem of_reserveRanges {place : Placement} {wanted : List (Nat × AddressRange)}
    {granted : List Reservation} {reserved : Reserved} (nodup : (wanted.map Prod.fst).Nodup)
    (h : reserveRanges place wanted granted c = .ok reserved) :
    (∀ reservations, reserved.result = .ok reservations →
      reservations = granted ++ grants place granted wanted
        ∧ (grants place granted wanted).length = wanted.length)
      ∧ (∀ r ∈ grants place granted wanted, ∀ l, c.list? r.list = some l →
        ∃ l', reserved.config.list? r.list = some l' ∧ l.movedTo r.range.base = .ok l')
      ∧ ∀ j, j ∉ (grants place granted wanted).map Reservation.list →
        reserved.config.list? j = c.list? j := by
  induction wanted generalizing granted c reserved with
  | nil =>
    cases h
    refine ⟨fun reservations answer => ?_, fun r hr => absurd hr List.not_mem_nil, fun _ _ => rfl⟩
    cases answer
    exact ⟨(List.append_nil _).symm, rfl⟩
  | cons entry wanted ih =>
    obtain ⟨i, range⟩ := entry
    obtain ⟨out, distinct⟩ := List.nodup_cons.1 nodup
    unfold reserveRanges at h
    unfold grants
    cases placed : place (granted.map Reservation.range) range.base range.length with
    | error reason =>
      rw [placed] at h
      cases h
      refine ⟨fun reservations answer => ?_, fun r hr => absurd hr List.not_mem_nil, fun _ _ => rfl⟩
      cases answer
    | ok base =>
      rw [placed] at h
      obtain ⟨c₁, moved, h⟩ := Checked.bind_eq_ok_iff.1 h
      obtain ⟨later, ran, h⟩ := Checked.bind_eq_ok_iff.1 h
      cases h
      obtain ⟨done, settled, others⟩ := ih distinct ran
      -- No later range is for the list of the first one.
      have later (j : Nat) (granted' : List Reservation)
          (hj : j ∈ (grants place granted' wanted).map Reservation.list) : j ≠ i := by
        rintro rfl
        exact out ((numbers_of_grants place granted' wanted).subset hj)
      refine ⟨fun reservations answer => ?_, fun r hr l there => ?_, fun j outside => ?_⟩
      · obtain ⟨rfl, length⟩ := done reservations answer
        exact ⟨List.append_assoc .., congrArg (· + 1) length⟩
      · rcases List.mem_cons.1 hr with rfl | hr
        · obtain ⟨l', there', same⟩ := list?_of_moveList_self moved there
          exact ⟨l', (others _ fun again => later _ _ again rfl).trans there', same⟩
        · have other := later r.list _ (List.mem_map_of_mem hr)
          exact settled r hr l ((list?_of_moveList moved other).trans there)
      · obtain ⟨other, outside⟩ := not_or.1 (mt List.mem_cons.2 outside)
        exact (others j outside).trans (list?_of_moveList moved other)

/-! ## What was reserved -/

/-- Reservations for the lists that have segments, in their order: each list is where its range is, and the
other lists are as they were. -/
theorem settled_of_reserveLists {place : Placement} {reserved : Reserved}
    {reservations : List Reservation} (h : reserveLists place c = .ok reserved)
    (done : reserved.result = .ok reservations) :
    reservations.map Reservation.list
        = (c.lists.entries.filter fun e => e.2.capacity ≠ 0).map Prod.fst
      ∧ (∀ r ∈ reservations, ∃ l l', c.list? r.list = some l ∧ l.capacity ≠ 0
        ∧ l.spanBytes = .ok r.range.length ∧ reserved.config.list? r.list = some l'
        ∧ l.movedTo r.range.base = .ok l')
      ∧ ∀ i, i ∉ reservations.map Reservation.list → reserved.config.list? i = c.list? i := by
  obtain ⟨wanted, asking, reserving⟩ := Checked.bind_eq_ok_iff.1 h
  obtain ⟨nodup, asked⟩ := asked_of_wantedRanges asking
  obtain ⟨granted, settled, others⟩ := of_reserveRanges nodup reserving
  obtain ⟨rfl, length⟩ := granted reservations done
  rw [List.nil_append]
  have pairs : (grants place [] wanted).map (fun r => (r.list, r.range.length))
      = wanted.map (fun w => (w.1, w.2.length)) :=
    (asked_of_grants place [] wanted).eq_of_length (by rw [List.length_map, List.length_map, length])
  have numbers : (grants place [] wanted).map Reservation.list = wanted.map Prod.fst :=
    (numbers_of_grants place [] wanted).eq_of_length (by rw [List.length_map, List.length_map, length])
  refine ⟨numbers.trans (numbers_of_wantedRanges asking), fun r hr => ?_, others⟩
  have listed := List.mem_map_of_mem (f := fun r => (r.list, r.range.length)) hr
  rw [pairs] at listed
  obtain ⟨⟨i, range⟩, hw, pair⟩ := List.mem_map.1 listed
  obtain ⟨rfl, length⟩ := Prod.mk.inj pair
  obtain ⟨l, there, filled, -, spans⟩ := (asked _ range).1 hw
  obtain ⟨l', there', moved⟩ := settled r hr l there
  exact ⟨l, l', there, filled, by rw [← length]; exact spans, there', moved⟩

/-- **One reservation for each list that has segments**, where the list lies now and as long. -/
theorem reserved_of_reserveLists {place : Placement} {reserved : Reserved}
    {reservations : List Reservation} (h : reserveLists place c = .ok reserved)
    (done : reserved.result = .ok reservations) :
    (reservations.map Reservation.list).Nodup
      ∧ (∀ i, i ∈ reservations.map Reservation.list
          ↔ ∃ l, reserved.config.list? i = some l ∧ l.capacity ≠ 0)
      ∧ ∀ r ∈ reservations, ∃ l, reserved.config.list? r.list = some l ∧ l.base = r.range.base
          ∧ l.spanBytes = .ok r.range.length := by
  obtain ⟨numbers, settled, others⟩ := settled_of_reserveLists h done
  refine ⟨?_, fun i => ?_, fun r hr => ?_⟩
  · rw [numbers]
    exact c.lists.nodup_entries.sublist (List.filter_sublist.map Prod.fst)
  · constructor
    · intro listed
      obtain ⟨r, hr, rfl⟩ := List.mem_map.1 listed
      obtain ⟨l, l', -, filled, -, there', moved⟩ := settled r hr
      obtain ⟨-, capacity, -⟩ := SegmentList.of_movedTo moved
      exact ⟨l', there', by rwa [capacity]⟩
    · rintro ⟨l', there', filled⟩
      refine Decidable.byContradiction fun outside => outside ?_
      -- A list that nothing is asked for is as it was, so it has no segments.
      have there := (others i outside).symm.trans there'
      rw [numbers]
      exact List.mem_map_of_mem (f := Prod.fst) (mem_entries_iff.2 ⟨there, filled⟩)
  · obtain ⟨l, l', -, -, spans, there', moved⟩ := settled r hr
    obtain ⟨base, -, same⟩ := SegmentList.of_movedTo moved
    exact ⟨l', there', base, same.trans spans⟩

end MemConfig

end Passthrough
