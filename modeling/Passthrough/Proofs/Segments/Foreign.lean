import Passthrough.Proofs.Segments.Paged

/-!
# Passthrough — tables that others wrote

A table is read from bytes that every process on the host can write.  Reading looks at the numbers of
lists and segments and at the names; addresses and sizes are taken as they are, and what is computed from
them later answers only if they stay in bounds.

```text
 process   base            addr                 base + span
           ├────────────────●──────────────────────┤        span = page size × segments, a word
 devices   first                                first + span
           ├───────────────────────────────────────┤        up to the last word
```

* `SegmentList.Bounded`, `MemConfig.Bounded` — the bounds.
* `MemConfig.exists_translate_iff` — translation answers for every address exactly within the bounds of
  the first list.
* `MemConfig.exists_reserveLists_iff` — reserving address space answers, wherever the system puts the
  ranges, exactly if every list is bounded.
* `Layout.answers_iff_bounded` — both, for a table that was read.
* `Layout.unbounded_is_read` — tables out of bounds are read all the same.
-/

namespace Passthrough

theorem PhysAddr.exists_add_iff {a : PhysAddr} {offset : UInt64} :
    (∃ b, a.add offset = .ok b) ↔ a.val.toNat + offset.toNat < 2 ^ 64 := by
  constructor
  · rintro ⟨b, h⟩
    exact (add_eq_ok_iff.1 h).1
  · intro room
    exact ⟨_, add_eq_ok_iff.2 ⟨room, rfl⟩⟩

namespace SegmentList

variable {l : SegmentList}

/-- Length of a list, also where it is no word. -/
def span (l : SegmentList) : Nat := l.pageSize.toNat * l.capacity

/-- The length of a list is a word, and its segments are within. -/
structure Bounded (l : SegmentList) : Prop where
  word : l.span < 2 ^ 64
  segment : ∀ j s, l.segments.get? j = some s → l.base.val.toNat ≤ s.addr.val.toNat
    ∧ s.addr.val.toNat < l.base.val.toNat + max l.span 1

theorem toNat_of_spanBytes (fits : l.Fits) {length : UInt64} (h : l.spanBytes = .ok length) :
    length.toNat = l.span := by
  have few : l.capacity ≤ 65536 := fits.capacity
  have word : (UInt64.ofNat l.capacity).toNat = l.capacity :=
    UInt64.toNat_ofNat_of_lt' (by simp only [UInt64.size]; omega)
  rw [mulChecked_eq_ok_iff.1 h, word, span]

/-- A length that is a word is found, whatever the number of segments. -/
theorem spanBytes_eq (word : l.span < 2 ^ 64) : l.spanBytes = .ok (UInt64.ofNat l.span) := by
  refine mulChecked_eq_ok_iff.2 ?_
  rw [UInt64.toNat_ofNat_of_lt' word, span]
  rcases Nat.eq_zero_or_pos l.pageSize.toNat with zero | pos
  · rw [zero, Nat.zero_mul, Nat.zero_mul]
  · have few : l.capacity < 2 ^ 64 := Nat.lt_of_le_of_lt (Nat.le_mul_of_pos_left _ pos) word
    rw [UInt64.toNat_ofNat_of_lt' few]

theorem toNat_of_spanBytes_of_lt (word : l.span < 2 ^ 64) {length : UInt64}
    (h : l.spanBytes = .ok length) : length.toNat = l.span := by
  rw [spanBytes_eq word] at h
  cases h
  exact UInt64.toNat_ofNat_of_lt' word

theorem exists_spanBytes_iff (fits : l.Fits) :
    (∃ length, l.spanBytes = .ok length) ↔ l.span < 2 ^ 64 := by
  constructor
  · rintro ⟨length, h⟩
    rw [← toNat_of_spanBytes fits h]
    exact length.toNat_lt
  · exact fun word => ⟨_, spanBytes_eq word⟩

/-! ## Moving -/

theorem exists_moveSegment_iff {old new : VirtAddr} {s : Segment} :
    (∃ s', moveSegment old new s = .ok s') ↔ old.val.toNat ≤ s.addr.val.toNat
      ∧ new.val.toNat + (s.addr.val.toNat - old.val.toNat) < 2 ^ 64 := by
  constructor
  · rintro ⟨s', moved⟩
    obtain ⟨low, room, -⟩ := moveSegment_eq_ok_iff.1 moved
    exact ⟨low, room⟩
  · rintro ⟨low, room⟩
    exact ⟨_, moveSegment_eq_ok_iff.2 ⟨low, room, rfl⟩⟩

/-- A list moves exactly if each of its segments does. -/
theorem exists_rebase_iff {base : VirtAddr} :
    (∃ m, l.rebase base = .ok m) ↔ ∀ j s, l.segments.get? j = some s →
      l.base.val.toNat ≤ s.addr.val.toNat
        ∧ base.val.toNat + (s.addr.val.toNat - l.base.val.toNat) < 2 ^ 64 := by
  have segments : (∃ m, l.rebase base = .ok m)
      ↔ ∃ segments, l.segments.mapUsed (moveSegment l.base base) = .ok segments := by
    simp only [rebase_eq_ok_iff]
    constructor
    · rintro ⟨m, segments, moved, -⟩
      exact ⟨segments, moved⟩
    · rintro ⟨segments, moved⟩
      exact ⟨_, segments, moved, rfl⟩
  rw [segments, Arena.exists_mapUsed_iff]
  simp only [exists_moveSegment_iff]

/-- A list is bounded if its length is a word and it can be moved to every place that has room for it. -/
theorem bounded_iff : l.Bounded ↔ l.span < 2 ^ 64 ∧ ∀ base : VirtAddr,
    base.val.toNat + l.span ≤ 2 ^ 64 → l.base = base ∨ ∃ m, l.rebase base = .ok m := by
  constructor
  · rintro ⟨word, segment⟩
    refine ⟨word, fun base room => .inr (exists_rebase_iff.2 fun j s there => ?_)⟩
    obtain ⟨low, high⟩ := segment j s there
    have bound := base.val.toNat_lt
    exact ⟨low, by omega⟩
  · rintro ⟨word, moves⟩
    refine ⟨word, fun j s there => ?_⟩
    -- Away from its base, every place shows that the segment is not below the base.
    have moved {n : Nat} (room : n + max l.span 1 ≤ 2 ^ 64) (other : n ≠ l.base.val.toNat) :
        l.base.val.toNat ≤ s.addr.val.toNat ∧ n + (s.addr.val.toNat - l.base.val.toNat) < 2 ^ 64 := by
      have value : (UInt64.ofNat n).toNat = n :=
        UInt64.toNat_ofNat_of_lt' (by simp only [UInt64.size]; omega)
      rcases moves ⟨UInt64.ofNat n⟩ (by dsimp only; omega) with here | away
      · rw [here] at other
        exact absurd value.symm other
      · have spread := exists_rebase_iff.1 away j s there
        rwa [value] at spread
    have low : l.base.val.toNat ≤ s.addr.val.toNat := by
      by_cases start : l.base.val.toNat = 0
      · omega
      · exact (moved (n := 0) (by omega) (by omega)).1
    refine ⟨low, ?_⟩
    -- The last place shows that it is within the length.
    by_cases last : 2 ^ 64 - max l.span 1 = l.base.val.toNat
    · have bound := s.addr.val.toNat_lt
      omega
    · have high := (moved (by omega) last).2
      omega

/-- A list that pools became is bounded. -/
theorem Paged.span_eq {first : PhysAddr} {n : Nat} (paged : l.Paged first n) : l.span = n * 4096 := by
  rw [span, paged.pageSize, paged.capacity]
  exact Nat.mul_comm ..

theorem Paged.bounded {first : PhysAddr} {n : Nat} (paged : l.Paged first n) : l.Bounded := by
  have few : n ≤ 65536 := paged.few
  refine ⟨by rw [paged.span_eq]; omega, fun j s there => ?_⟩
  have below := paged.lt_of_get? there
  obtain rfl := Option.some.inj ((paged.segment j below).symm.trans there)
  rw [paged.toNat_addr below, paged.span_eq]
  omega

end SegmentList

namespace MemConfig

variable {c : MemConfig}

/-! ## Reserving address space -/

/-- Ranges are reserved in a row without a fault if every list can be moved to where its range may be
put; what was done to the lists before does not matter. -/
theorem exists_reserveRanges_of_moves {place : Placement} {wanted : List (Nat × AddressRange)}
    {granted : List Reservation} (nodup : (wanted.map Prod.fst).Nodup)
    (moves : ∀ i range, (i, range) ∈ wanted → ∀ granted base,
      place granted range.base range.length = .ok base → ∃ c', moveList c i base = .ok c') :
    ∃ reserved, reserveRanges place wanted granted c = .ok reserved := by
  induction wanted generalizing granted c with
  | nil => exact ⟨_, rfl⟩
  | cons entry wanted ih =>
    obtain ⟨i, range⟩ := entry
    obtain ⟨out, distinct⟩ := List.nodup_cons.1 nodup
    unfold reserveRanges
    cases placed : place (granted.map Reservation.range) range.base range.length with
    | error reason => exact ⟨_, rfl⟩
    | ok base =>
      obtain ⟨c₁, moved⟩ := moves i range List.mem_cons_self _ base placed
      have later : ∀ j range, (j, range) ∈ wanted → ∀ granted base,
          place granted range.base range.length = .ok base → ∃ c', moveList c₁ j base = .ok c' := by
        intro j range there granted base placed
        have number := List.mem_map_of_mem (f := Prod.fst) there
        have other : j ≠ i := by
          rintro rfl
          exact out number
        rw [exists_moveList_iff, list?_of_moveList moved other, ← exists_moveList_iff]
        exact moves j range (List.mem_cons_of_mem _ there) granted base placed
      have rest := @ih c₁ (granted ++ [⟨i, base, range.length⟩]) distinct later
      obtain ⟨reserved, ran⟩ := rest
      dsimp only
      rw [moved, Checked.ok_bind, ran]
      exact ⟨_, rfl⟩

/-- A system that refuses nothing and puts ranges where `f` says shows that every list can be moved
there. -/
theorem moves_of_reserveRanges {f : VirtAddr → UInt64 → VirtAddr}
    {wanted : List (Nat × AddressRange)} {granted : List Reservation} {reserved : Reserved}
    (nodup : (wanted.map Prod.fst).Nodup)
    (h : reserveRanges (fun _ base length => .ok (f base length)) wanted granted c = .ok reserved)
    {i : Nat} {range : AddressRange} (there : (i, range) ∈ wanted) :
    ∃ c', moveList c i (f range.base range.length) = .ok c' := by
  induction wanted generalizing granted c reserved with
  | nil => cases there
  | cons entry wanted ih =>
    obtain ⟨j, range'⟩ := entry
    obtain ⟨out, distinct⟩ := List.nodup_cons.1 nodup
    obtain ⟨c₁, moved, h⟩ := Checked.bind_eq_ok_iff.1 h
    obtain ⟨later, ran, h⟩ := Checked.bind_eq_ok_iff.1 h
    cases h
    rcases List.mem_cons.1 there with here | there
    · cases here
      exact ⟨c₁, moved⟩
    · have number := List.mem_map_of_mem (f := Prod.fst) there
      have other : i ≠ j := by
        rintro rfl
        exact out number
      rw [exists_moveList_iff, ← list?_of_moveList moved other, ← exists_moveList_iff]
      exact ih distinct ran there

theorem exists_wantedRanges_iff_span (fits : c.Fits) :
    (∃ wanted, wantedRanges c = .ok wanted) ↔ ∀ i l, c.list? i = some l → l.span < 2 ^ 64 := by
  rw [exists_wantedRanges_iff]
  refine forall_congr' fun i => forall_congr' fun l => forall_congr' fun there => ?_
  rw [SegmentList.exists_spanBytes_iff (fits i l there)]
  refine ⟨fun filled => ?_, fun word _ => word⟩
  by_cases empty : l.capacity = 0
  · rw [SegmentList.span, empty, Nat.mul_zero]
    decide
  · exact filled empty

theorem exists_reserveLists_of_bounded (bounded : ∀ i l, c.list? i = some l → l.Bounded)
    {place : Placement} (inRange : place.InRange) :
    ∃ reserved, reserveLists place c = .ok reserved := by
  obtain ⟨wanted, asking⟩ := exists_wantedRanges_iff.2 fun i l there _ =>
    ⟨_, SegmentList.spanBytes_eq (bounded i l there).word⟩
  obtain ⟨nodup, asked⟩ := asked_of_wantedRanges asking
  have moves : ∀ i range, (i, range) ∈ wanted → ∀ granted base,
      place granted range.base range.length = .ok base → ∃ c', moveList c i base = .ok c' := by
    intro i range entry granted base placed
    obtain ⟨l, there, -, -, spans⟩ := (asked i range).1 entry
    have room := inRange _ _ _ _ placed
    rw [SegmentList.toNat_of_spanBytes_of_lt (bounded i l there).word spans] at room
    rw [exists_moveList_iff]
    intro l' there'
    obtain rfl := Option.some.inj (there.symm.trans there')
    exact (SegmentList.bounded_iff.1 (bounded i l there)).2 base room
  obtain ⟨reserved, done⟩ : ∃ reserved, reserveRanges place wanted [] c = .ok reserved :=
    exists_reserveRanges_of_moves nodup moves
  refine ⟨reserved, ?_⟩
  unfold reserveLists
  rw [asking]
  exact done

/-- **Reserving address space answers exactly if every list is bounded**, when nothing is known about the
system but that the ranges it grants do not wrap. -/
theorem exists_reserveLists_iff (fits : c.Fits) :
    (∀ place : Placement, place.InRange → ∃ reserved, reserveLists place c = .ok reserved)
      ↔ ∀ i l, c.list? i = some l → l.Bounded := by
  constructor
  · intro answers
    have words : ∀ i l, c.list? i = some l → l.span < 2 ^ 64 := by
      have refusing : Placement.InRange fun _ _ _ => .error .outOfMemory := by
        intro _ _ _ _ placed
        cases placed
      obtain ⟨reserved, h⟩ := answers _ refusing
      obtain ⟨wanted, asking, -⟩ := Checked.bind_eq_ok_iff.1 h
      exact (exists_wantedRanges_iff_span fits).1 ⟨wanted, asking⟩
    intro i l there
    refine SegmentList.bounded_iff.2 ⟨words i l there, fun base room => ?_⟩
    by_cases empty : l.capacity = 0
    · -- No segment, nothing that could be in the way.
      refine .inr (SegmentList.exists_rebase_iff.2 fun j s slot => ?_)
      have inside : j < l.capacity := Arena.lt_of_get? slot
      omega
    · -- A system that grants ranges of this length at `base`, and other ranges at zero.
      let f (_ : VirtAddr) (length : UInt64) : VirtAddr :=
        if length.toNat = l.span then base else .null
      have inRange : Placement.InRange fun _ wanted length => .ok (f wanted length) := by
        intro _ wanted length b placed
        cases placed
        dsimp only [f]
        split
        · next same => rwa [same]
        · have bound := length.toNat_lt
          show 0 + length.toNat ≤ 2 ^ 64
          omega
      obtain ⟨reserved, h⟩ := answers _ inRange
      obtain ⟨wanted, asking, reserving⟩ := Checked.bind_eq_ok_iff.1 h
      obtain ⟨nodup, asked⟩ := asked_of_wantedRanges asking
      obtain ⟨length, spans⟩ := (SegmentList.exists_spanBytes_iff (fits i l there)).2 (words i l there)
      have entry := (asked i ⟨l.base, length⟩).2 ⟨l, there, empty, rfl, spans⟩
      have moves := moves_of_reserveRanges nodup reserving entry
      have placed : f l.base length = base :=
        if_pos (SegmentList.toNat_of_spanBytes (fits i l there) spans)
      dsimp only at moves
      rw [placed] at moves
      exact exists_moveList_iff.1 moves l there
  · exact fun bounded place inRange => exists_reserveLists_of_bounded bounded inRange

/-! ## Translating addresses -/

/-- Looking an address up in the first list, which has a first segment. -/
theorem exists_translate_of_first (fits : c.Fits) {l : SegmentList} {first : Segment}
    (there : c.list? 0 = some l) (slot : l.segments.get? 0 = some first) (va : VirtAddr) :
    (∃ answer, c.translate va = .ok answer) ↔ (l.base.val.toNat ≤ va.val.toNat → l.span < 2 ^ 64
      ∧ (va.val.toNat - l.base.val.toNat < l.span →
        first.iova.val.toNat + (va.val.toNat - l.base.val.toNat) < 2 ^ 64)) := by
  unfold translate
  rw [there]
  dsimp only
  rw [slot]
  dsimp only
  unfold SegmentList.contains
  by_cases below : va.val < l.base.val
  · rw [if_pos below]
    refine iff_of_true ⟨none, rfl⟩ fun low => ?_
    exact absurd (UInt64.lt_iff_toNat_lt.1 below) (Nat.not_lt.2 low)
  · have low := UInt64.not_lt.1 below
    rw [if_neg below, imp_iff_right (UInt64.le_iff_toNat_le.1 low),
      ← UInt64.toNat_sub_of_le _ _ low, ← SegmentList.exists_spanBytes_iff (fits 0 l there),
      ← PhysAddr.exists_add_iff]
    cases spans : l.spanBytes with
    | error fault =>
      refine iff_of_false ?_ ?_
      · rintro ⟨answer, h⟩
        cases h
      · rintro ⟨⟨length, h⟩, -⟩
        cases h
    | ok length =>
      rw [← SegmentList.toNat_of_spanBytes (fits 0 l there) spans, ← UInt64.lt_iff_toNat_lt,
        and_iff_right ⟨length, rfl⟩]
      show (∃ answer, (if decide (va.val - l.base.val < length) = true then
        (first.iova.add (va.val - l.base.val)).map some else .ok none) = .ok answer) ↔ _
      simp only [decide_eq_true_iff]
      split
      · next inside => rw [Checked.exists_map_eq_ok_iff, imp_iff_right inside]
      · next outside => exact iff_of_true ⟨none, rfl⟩ fun inside => absurd inside outside

/-- Translation answers for every address exactly if the length of the first list is a word and no
device address behind its first one, as far as process addresses reach, is behind the last word. -/
theorem exists_translate_iff (fits : c.Fits) :
    (∀ va, ∃ answer, c.translate va = .ok answer) ↔ ∀ l first, c.list? 0 = some l →
      l.segments.get? 0 = some first → l.span < 2 ^ 64
        ∧ first.iova.val.toNat + min l.span (2 ^ 64 - l.base.val.toNat) ≤ 2 ^ 64 := by
  constructor
  · intro answers l first there slot
    have finds (va : VirtAddr) := (exists_translate_of_first fits there slot va).1 (answers va)
    have bound := l.base.val.toNat_lt
    have bound' := first.iova.val.toNat_lt
    refine ⟨(finds l.base (Nat.le_refl _)).1, ?_⟩
    by_cases empty : l.span = 0
    · omega
    · -- The last address of the list, or the last one there is.
      have value : (UInt64.ofNat (l.base.val.toNat + min l.span (2 ^ 64 - l.base.val.toNat) - 1)).toNat
          = l.base.val.toNat + min l.span (2 ^ 64 - l.base.val.toNat) - 1 :=
        UInt64.toNat_ofNat_of_lt' (by simp only [UInt64.size]; omega)
      have last := (finds ⟨UInt64.ofNat _⟩ (by rw [value]; omega)).2 (by rw [value]; omega)
      rw [value] at last
      omega
  · intro within va
    cases there : c.list? 0 with
    | none =>
      unfold translate
      rw [there]
      exact ⟨none, rfl⟩
    | some l =>
      cases slot : l.segments.get? 0 with
      | none =>
        unfold translate
        rw [there]
        dsimp only
        rw [slot]
        exact ⟨none, rfl⟩
      | some first =>
        obtain ⟨word, devices⟩ := within l first there slot
        have bound := va.val.toNat_lt
        exact (exists_translate_of_first fits there slot va).2 fun low => ⟨word, fun inside => by omega⟩

/-! ## Both -/

/-- Every list is bounded, and so are the device addresses of the first one. -/
structure Bounded (c : MemConfig) : Prop where
  list : ∀ i l, c.list? i = some l → l.Bounded
  devices : ∀ l first, c.list? 0 = some l → l.segments.get? 0 = some first →
    first.iova.val.toNat + min l.span (2 ^ 64 - l.base.val.toNat) ≤ 2 ^ 64

/-- What is made of pools is bounded. -/
theorem Paged.bounded (paged : c.Paged) : c.Bounded where
  list i l there := by
    obtain ⟨first, n, run⟩ := paged i l there
    exact run.bounded
  devices l segment there slot := by
    obtain ⟨first, n, run⟩ := paged 0 l there
    obtain rfl := Option.some.inj ((run.segment 0 run.pos).symm.trans slot)
    have devices := run.devices
    rw [run.toNat_iova run.pos, run.span_eq]
    omega

end MemConfig

namespace Layout

/-- Every configuration for which a table has room is read from some region. -/
theorem exists_read {c : MemConfig} (fits : c.Fits) : ∃ region, read region = .ok c := by
  obtain ⟨region, -, -, found⟩ :=
    exists_write_read fits (Nat.le_of_eq (Packed.size_zeros regionSize).symm)
  exact ⟨region, found⟩

/-- **What is computed from a table that was read.**  Translation answers for every address, and reserving
address space answers wherever the system puts the ranges, exactly if the table is in bounds. -/
theorem answers_iff_bounded {region : ByteArray} {c : MemConfig} (found : read region = .ok c) :
    ((∀ va, ∃ answer, c.translate va = .ok answer)
        ∧ ∀ place : Placement, place.InRange → ∃ reserved, reserveLists place c = .ok reserved)
      ↔ c.Bounded := by
  rw [MemConfig.exists_translate_iff (fits_of_read found),
    MemConfig.exists_reserveLists_iff (fits_of_read found)]
  constructor
  · rintro ⟨translates, bounded⟩
    exact ⟨bounded, fun l first there slot => (translates l first there slot).2⟩
  · rintro ⟨bounded, devices⟩
    exact ⟨fun l first there slot => ⟨(bounded 0 l there).word, devices l first there slot⟩, bounded⟩

theorem answers_twoPages : ∃ region c, c.len = 1 ∧ read region = .ok c
    ∧ (∀ va, ∃ answer, c.translate va = .ok answer)
    ∧ ∀ place : Placement, place.InRange → ∃ reserved, reserveLists place c = .ok reserved := by
  obtain ⟨index, c, log, stored, one⟩ := MemConfig.exists_stored_twoPages
  have attainable : c.Attainable := .stored .empty stored
  have paged := MemConfig.paged_empty.storePool stored (by decide) (by decide)
  obtain ⟨region, found⟩ := exists_read attainable.fits
  exact ⟨region, c, one, found, (answers_iff_bounded found).2 paged.bounded⟩

/-! ## Out of bounds -/

/-- A list of two segments with half of all addresses each; only the first one is there. -/
def wide : SegmentList where
  name := "wide"
  pageSize := 0x8000000000000000
  socket := 0
  base := ⟨0x400000000000⟩
  segments := .tabulate 2 fun k =>
    if k = 0 then some ⟨⟨0x100000000⟩, ⟨0x400000000000⟩, 4096, 4096, 0⟩ else none

/-- A list with a segment one page below it. -/
def misplaced : SegmentList where
  name := "misplaced"
  pageSize := 4096
  socket := 0
  base := ⟨0x400000001000⟩
  segments := .tabulate 1 fun _ => some ⟨⟨0x100000000⟩, ⟨0x400000000000⟩, 4096, 4096, 0⟩

/-- A configuration of one list. -/
def single (l : SegmentList) : MemConfig :=
  ⟨.tabulate 8 fun i => if i = 0 then some l else none, Arena.capacity_tabulate ..⟩

theorem fits_single {l : SegmentList} (fits : l.Fits) : (single l).Fits := by
  intro i l' there
  rw [single, list?_tabulate _ (MemConfig.lt_of_list? there)] at there
  split at there
  · cases there
    exact fits
  · cases there

/-- **Tables out of bounds are read.**  A list whose length is no word, and a list with a segment below
its base, are taken for sound.  Translating the base of the first, reserving address space for it whatever
the system answers, and reserving it for the second anywhere else, all fault. -/
theorem unbounded_is_read :
    (∃ region, read region = .ok (single wide) ∧ 2 ^ 64 ≤ wide.pageSize.toNat * wide.capacity
        ∧ (single wide).translate wide.base = .error .overflow
        ∧ ∀ place, reserveLists place (single wide) = .error .overflow)
      ∧ ∃ region s, read region = .ok (single misplaced) ∧ misplaced.segments.get? 0 = some s
        ∧ s.addr.val < misplaced.base.val
        ∧ ∃ place : Placement, place.InRange
          ∧ ¬∃ reserved, reserveLists place (single misplaced) = .ok reserved := by
  constructor
  · obtain ⟨region, found⟩ := exists_read (fits_single (l := wide) ⟨by decide, by decide⟩)
    exact ⟨region, found, by decide, rfl, fun place => rfl⟩
  · obtain ⟨region, found⟩ := exists_read (fits_single (l := misplaced) ⟨by decide, by decide⟩)
    have unbounded : ¬misplaced.Bounded := fun bounded => absurd (bounded.segment 0 _ rfl).1 (by decide)
    have faults := mt (MemConfig.exists_reserveLists_iff (fits_of_read found)).1 fun bounded =>
      unbounded (bounded 0 _ rfl)
    obtain ⟨place, faults⟩ := Classical.not_forall.1 faults
    obtain ⟨inRange, fault⟩ := Classical.not_imp.1 faults
    exact ⟨region, _, found, rfl, by decide, place, inRange, fault⟩

end Layout

end Passthrough
