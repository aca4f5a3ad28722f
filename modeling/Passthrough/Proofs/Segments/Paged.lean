import Passthrough.Proofs.Segments.Reserving

/-!
# Passthrough — lists as runs of pages

The list that a pool becomes is a run of pages: page `k` is `k` pages behind the first one, for devices
and for the process alike (`SegmentList.Paged l first n`).  A run has what translation needs, the first
address for devices and the length, and keeps it when the list moves, since a segment keeps its distance
from the base.

```text
 devices   first            first + k pages
           ├───────┼── … ───┼───────┼── …
 process   base             base + k pages
```

* `MemConfig.Paged.storePool`, `MemConfig.Paged.storeAll` — pools that are stored become runs.
* `SegmentList.Paged.translate`, `SegmentList.Paged.translate_outside` — translation inside and outside of
  the first list.
* `SegmentList.Paged.exists_rebase` — a run that moves is the same run at another base.
* `MemConfig.Paged.exists_reserveLists` — what reserving address space makes of all the lists.
-/

namespace Passthrough

def spanOf (n : Nat) : UInt64 := UInt64.ofNat (n * 4096)

theorem toNat_spanOf {n : Nat} (few : n ≤ maxSegments) : (spanOf n).toNat = n * 4096 := by
  have few : n ≤ 65536 := few
  exact UInt64.toNat_ofNat_of_lt' (by simp only [UInt64.size]; omega)

namespace SegmentList

/-- The list is a run of `n` pages that devices see from `first` on, and no address of it wraps. -/
structure Paged (l : SegmentList) (first : PhysAddr) (n : Nat) : Prop where
  pageSize : l.pageSize = Passthrough.pageSize
  capacity : l.capacity = n
  pos : 0 < n
  few : n ≤ maxSegments
  devices : first.val.toNat + n * 4096 ≤ 2 ^ 64
  process : l.base.val.toNat + n * 4096 ≤ 2 ^ 64
  segment : ∀ k, k < n → l.segments.get? k = some (page first l.base l.socket k)

/-- A virtual address is in the address range of a run. -/
def InRun (base : VirtAddr) (n : Nat) (va : VirtAddr) : Prop :=
  base.val.toNat ≤ va.val.toNat ∧ va.val.toNat < base.val.toNat + n * 4096

namespace Paged

variable {l : SegmentList} {first : PhysAddr} {n : Nat}

theorem lt_of_get? (paged : l.Paged first n) {k : Nat} {s : Segment}
    (there : l.segments.get? k = some s) : k < n :=
  paged.capacity ▸ Arena.lt_of_get? there

theorem spanBytes (paged : l.Paged first n) : l.spanBytes = .ok (spanOf n) := by
  have few : n ≤ 65536 := paged.few
  have word : (UInt64.ofNat n).toNat = n :=
    UInt64.toNat_ofNat_of_lt' (by simp only [UInt64.size]; omega)
  unfold SegmentList.spanBytes
  rw [paged.pageSize, paged.capacity, mulChecked_eq_ok_iff, toNat_spanOf paged.few, word]
  exact Nat.mul_comm ..

theorem toNat_addr (paged : l.Paged first n) {k : Nat} (below : k < n) :
    (page first l.base l.socket k).addr.val.toNat = l.base.val.toNat + k * 4096 := by
  have offset := toNat_pageOffset (Nat.le_of_lt (Nat.lt_of_lt_of_le below paged.few))
  have process := paged.process
  show (l.base.val + UInt64.ofNat k * Passthrough.pageSize).toNat = _
  rw [UInt64.toNat_add, offset]
  exact Nat.mod_eq_of_lt (by omega)

theorem toNat_iova (paged : l.Paged first n) {k : Nat} (below : k < n) :
    (page first l.base l.socket k).iova.val.toNat = first.val.toNat + k * 4096 := by
  have offset := toNat_pageOffset (Nat.le_of_lt (Nat.lt_of_lt_of_le below paged.few))
  have devices := paged.devices
  show (first.val + UInt64.ofNat k * Passthrough.pageSize).toNat = _
  rw [UInt64.toNat_add, offset]
  exact Nat.mod_eq_of_lt (by omega)

/-! ## Translation -/

theorem contains_iff (paged : l.Paged first n) (va : VirtAddr) :
    ∃ answer, l.contains va = .ok answer ∧ (answer = true ↔ InRun l.base n va) := by
  unfold SegmentList.contains InRun
  by_cases low : va.val < l.base.val
  · rw [if_pos low]
    rw [UInt64.lt_iff_toNat_lt] at low
    exact ⟨false, rfl, by simp only [reduceCtorEq, false_iff]; omega⟩
  · rw [if_neg low, paged.spanBytes]
    have high := UInt64.not_lt.1 low
    refine ⟨_, rfl, ?_⟩
    rw [decide_eq_true_iff, UInt64.lt_iff_toNat_lt, UInt64.toNat_sub_of_le _ _ high,
      toNat_spanOf paged.few]
    rw [UInt64.le_iff_toNat_le] at high
    omega

/-- An address in the first list is as far behind the list's first address for devices as it is behind
the base. -/
theorem translate (paged : l.Paged first n) {c : MemConfig} (there : c.list? 0 = some l)
    {va : VirtAddr} (inside : InRun l.base n va) :
    c.translate va = .ok (some ⟨first.val + (va.val - l.base.val)⟩) := by
  have segment := paged.segment 0 paged.pos
  obtain ⟨answer, contains, run⟩ := paged.contains_iff va
  obtain rfl := run.2 inside
  have low : l.base.val ≤ va.val := UInt64.le_iff_toNat_le.2 inside.1
  have start : (page first l.base l.socket 0).iova = first := by
    have zero := paged.toNat_iova paged.pos
    rw [Nat.zero_mul, Nat.add_zero] at zero
    exact congrArg PhysAddr.mk (UInt64.toNat_inj.1 zero)
  have sum : first.add (va.val - l.base.val) = .ok ⟨first.val + (va.val - l.base.val)⟩ := by
    have devices := paged.devices
    obtain ⟨behind, within⟩ := inside
    refine PhysAddr.add_eq_ok_iff.2 ⟨?_, rfl⟩
    rw [UInt64.toNat_sub_of_le _ _ low, UInt64.size]
    omega
  unfold MemConfig.translate
  rw [there]
  dsimp only
  rw [segment]
  dsimp only
  rw [contains, start, sum]
  rfl

theorem translate_outside (paged : l.Paged first n) {c : MemConfig} (there : c.list? 0 = some l)
    {va : VirtAddr} (outside : ¬InRun l.base n va) : c.translate va = .ok none := by
  have segment := paged.segment 0 paged.pos
  obtain ⟨answer, contains, run⟩ := paged.contains_iff va
  have missed : answer = false := Bool.eq_false_iff.2 fun hit => outside (run.1 hit)
  unfold MemConfig.translate
  rw [there]
  dsimp only
  rw [segment]
  dsimp only
  rw [contains, missed]
  rfl

/-! ## Moving -/

theorem moveSegment_page (paged : l.Paged first n) {base : VirtAddr}
    (room : base.val.toNat + n * 4096 ≤ 2 ^ 64) {k : Nat} (below : k < n) :
    moveSegment l.base base (page first l.base l.socket k) = .ok (page first base l.socket k) := by
  have offset := toNat_pageOffset (Nat.le_of_lt (Nat.lt_of_lt_of_le below paged.few))
  have distance : subChecked (page first l.base l.socket k).addr.val l.base.val
      = .ok (UInt64.ofNat k * Passthrough.pageSize) := by
    rw [subChecked_eq_ok_iff, paged.toNat_addr below, offset]
  have moved : base.add (UInt64.ofNat k * Passthrough.pageSize)
      = .ok ⟨base.val + UInt64.ofNat k * Passthrough.pageSize⟩ :=
    VirtAddr.add_eq_ok_iff.2 ⟨by rw [UInt64.size]; omega, rfl⟩
  unfold moveSegment
  rw [distance]
  show (base.add _ >>= _) = _
  rw [moved]
  rfl

/-- A run that moves to a base where it has room is the same run there. -/
theorem exists_rebase (paged : l.Paged first n) {base : VirtAddr}
    (room : base.val.toNat + n * 4096 ≤ 2 ^ 64) :
    ∃ m, l.rebase base = .ok m ∧ m.Paged first n ∧ m.base = base ∧ m.socket = l.socket := by
  have moved : ∃ segments, l.segments.mapUsed (moveSegment l.base base) = .ok segments :=
    Arena.exists_mapUsed_iff.2 fun k s there => by
      have below := paged.lt_of_get? there
      obtain rfl := Option.some.inj (there.symm.trans (paged.segment k below))
      exact ⟨_, paged.moveSegment_page room below⟩
  obtain ⟨segments, moved⟩ := moved
  obtain ⟨capacity, view⟩ := Arena.mapUsed_eq_ok_iff.1 moved
  refine ⟨{ l with base, segments }, rebase_eq_ok_iff.2 ⟨_, moved, rfl⟩, ?_, rfl, rfl⟩
  refine ⟨paged.pageSize, capacity.trans paged.capacity, paged.pos, paged.few, paged.devices, room,
    fun k below => ?_⟩
  -- Every page moves, and keeps its number.
  have there := view k
  rw [paged.segment k below, Option.mapM_some, paged.moveSegment_page room below] at there
  exact (Except.ok.inj there).symm

end Paged

end SegmentList

/-! ## All lists of a configuration -/

namespace MemConfig

/-- Every list is a run of pages. -/
def Paged (c : MemConfig) : Prop := ∀ i l, c.list? i = some l → ∃ first n, l.Paged first n

theorem paged_empty : empty.Paged := by
  intro i l there
  rw [list?_empty] at there
  cases there

/-- The list that a pool becomes is a run, if neither of its ranges wraps. -/
theorem paged_listOf {pool : Region} {socket : Int32} {index : Nat} (pos : 0 < pagesOf pool)
    (few : pagesOf pool ≤ maxSegments)
    (devices : pool.phys.val.toNat + pool.size.toNat ≤ 2 ^ 64)
    (process : pool.user.val.toNat + pool.size.toNat ≤ 2 ^ 64) :
    (listOf pool socket index).Paged pool.phys (pagesOf pool) := by
  have within : pagesOf pool * 4096 ≤ pool.size.toNat := by
    have whole : pagesOf pool = pool.size.toNat / 4096 := UInt64.toNat_div ..
    omega
  have process' : (listOf pool socket index).base.val.toNat + pagesOf pool * 4096 ≤ 2 ^ 64 := by
    show pool.user.val.toNat + _ ≤ _
    omega
  refine ⟨rfl, capacity_listOf pool socket index, pos, few, by omega, process', fun k below => ?_⟩
  rw [listOf, segmentsOf, Arena.get?_tabulate, if_pos below]

theorem Paged.storePool {c c' : MemConfig} {pool : Region} {socket : Int32} {index : Nat}
    {log : List Message} (paged : c.Paged)
    (stored : c.storePool pool socket = .ok ⟨.ok index, c', log⟩)
    (devices : pool.phys.val.toNat + pool.size.toNat ≤ 2 ^ 64)
    (process : pool.user.val.toNat + pool.size.toNat ≤ 2 ^ 64) : c'.Paged := by
  obtain ⟨pos, few, -, -, lists⟩ := stored_of_storePool stored
  intro i l there
  rw [lists] at there
  split at there
  · cases there
    exact ⟨_, _, paged_listOf pos few devices process⟩
  · exact paged i l there

theorem Paged.storeAll {c c' : MemConfig} {pools : List (Region × Int32)} (paged : c.Paged)
    (stored : c.storeAll pools = .ok (.ok c'))
    (within : ∀ p ∈ pools, p.1.phys.val.toNat + p.1.size.toNat ≤ 2 ^ 64
      ∧ p.1.user.val.toNat + p.1.size.toNat ≤ 2 ^ 64) : c'.Paged := by
  induction pools generalizing c with
  | nil =>
    cases stored
    exact paged
  | cons p pools ih =>
    obtain ⟨pool, socket⟩ := p
    obtain ⟨devices, process⟩ := within _ List.mem_cons_self
    unfold MemConfig.storeAll at stored
    obtain ⟨⟨result, c₁, log⟩, first, rest⟩ := Checked.bind_eq_ok_iff.1 stored
    cases result with
    | error e => cases rest
    | ok index =>
      exact ih (paged.storePool first devices process) rest
        fun p h => within p (List.mem_cons_of_mem _ h)

theorem Attainable.storeAll {c c' : MemConfig} {pools : List (Region × Int32)}
    (attainable : c.Attainable) (stored : c.storeAll pools = .ok (.ok c')) : c'.Attainable := by
  induction pools generalizing c with
  | nil =>
    cases stored
    exact attainable
  | cons p pools ih =>
    obtain ⟨pool, socket⟩ := p
    unfold MemConfig.storeAll at stored
    obtain ⟨⟨result, c₁, log⟩, first, rest⟩ := Checked.bind_eq_ok_iff.1 stored
    cases result with
    | error e => cases rest
    | ok index => exact ih (.stored attainable first) rest

end MemConfig

/-! ## Reserving address space -/

/-- No range that the system grants wraps. -/
def Placement.InRange (place : Placement) : Prop :=
  ∀ granted base length b, place granted base length = .ok b →
    b.val.toNat + length.toNat ≤ 2 ^ 64

/-- The system puts no range where it would wrap. -/
theorem AddressSpace.inRange_placement (space : AddressSpace) : space.placement.InRange := by
  intro granted base length b placed
  have free := AddressSpace.isFree_of_place placed
  simp only [AddressSpace.isFree, Bool.and_eq_true, decide_eq_true_eq] at free
  have top : (⟨b, length⟩ : AddressRange).pageEnd ≤ AddressSpace.highest := free.1.2
  have pages := le_pagesFor length.toNat
  simp only [AddressRange.pageEnd, AddressRange.start, AddressSpace.highest] at top
  omega

/-- The lists of `d` are those of `c`, each where a range was set aside for it; the lists whose numbers
are not among `numbers` are as they were. -/
structure MemConfig.Follows (c d : MemConfig) (numbers : List Nat) (reservations : List Reservation) :
    Prop where
  kept : ∀ i, i ∉ numbers → d.list? i = c.list? i
  moved : ∀ i ∈ numbers, ∃ l m first n r, c.list? i = some l ∧ d.list? i = some m
    ∧ l.Paged first n ∧ m.Paged first n ∧ m.socket = l.socket
    ∧ r ∈ reservations ∧ r.list = i ∧ r.range = ⟨m.base, spanOf n⟩

namespace MemConfig

/-- Every list asks for a range of its length at its base. -/
theorem Paged.exists_wantedRanges {c : MemConfig} (paged : c.Paged) :
    ∃ wanted, wantedRanges c = .ok wanted ∧ (wanted.map Prod.fst).Nodup
      ∧ (∀ i, i ∈ wanted.map Prod.fst ↔ (c.list? i).isSome)
      ∧ ∀ i range, (i, range) ∈ wanted →
        ∃ l first n, c.list? i = some l ∧ l.Paged first n ∧ range = ⟨l.base, spanOf n⟩ := by
  have spans : ∀ i l, c.list? i = some l → l.capacity ≠ 0 → ∃ length, l.spanBytes = .ok length := by
    intro i l there _
    obtain ⟨first, n, run⟩ := paged i l there
    exact ⟨_, run.spanBytes⟩
  obtain ⟨wanted, asking⟩ := exists_wantedRanges_iff.2 spans
  obtain ⟨nodup, entries⟩ := asked_of_wantedRanges asking
  refine ⟨wanted, asking, nodup, fun i => ?_, fun i range entry => ?_⟩
  · rw [List.mem_map, Option.isSome_iff_exists]
    constructor
    · rintro ⟨⟨j, range⟩, entry, rfl⟩
      obtain ⟨l, there, -⟩ := (entries _ _).1 entry
      exact ⟨l, there⟩
    · rintro ⟨l, there⟩
      obtain ⟨first, n, run⟩ := paged i l there
      have filled := Nat.ne_of_gt run.pos
      rw [← run.capacity] at filled
      exact ⟨(i, ⟨l.base, spanOf n⟩), (entries _ _).2 ⟨l, there, filled, rfl, run.spanBytes⟩, rfl⟩
  · obtain ⟨l, there, -, base, length⟩ := (entries i range).1 entry
    obtain ⟨first, n, run⟩ := paged i l there
    rw [run.spanBytes] at length
    exact ⟨l, first, n, there, run, by rw [base, Except.ok.inj length]⟩

theorem exists_moveList {c : MemConfig} {i : Nat} {l : SegmentList} {first : PhysAddr} {n : Nat}
    (there : c.list? i = some l) (paged : l.Paged first n) {base : VirtAddr}
    (room : base.val.toNat + n * 4096 ≤ 2 ^ 64) :
    ∃ c' m, moveList c i base = .ok c' ∧ m.Paged first n ∧ m.base = base ∧ m.socket = l.socket
      ∧ ∀ j, c'.list? j = if j = i then some m else c.list? j := by
  unfold moveList
  rw [there]
  dsimp only
  by_cases same : l.base = base
  · rw [if_pos same]
    refine ⟨c, l, rfl, paged, same, rfl, fun j => ?_⟩
    split
    · next here => rw [here, there]
    · rfl
  · rw [if_neg same]
    obtain ⟨m, moved, paged', base', socket⟩ := paged.exists_rebase room
    rw [moved]
    exact ⟨_, m, rfl, paged', base', socket, list?_setList there⟩

theorem Follows.trans {c d e : MemConfig} {numbers rest : List Nat} {reservations : List Reservation}
    (first : c.Follows d numbers reservations) (second : d.Follows e rest reservations)
    (apart : ∀ i ∈ numbers, i ∉ rest) : c.Follows e (numbers ++ rest) reservations where
  kept i out := by
    rw [List.mem_append, not_or] at out
    rw [second.kept i out.2, first.kept i out.1]
  moved i there := by
    rcases List.mem_append.1 there with there | there
    · rw [second.kept i (apart i there)]
      exact first.moved i there
    · have out : i ∉ numbers := fun other => apart i other there
      rw [← first.kept i out]
      exact second.moved i there

/-- Ranges that are reserved in a row, for lists that are runs: nothing faults, and if nothing is refused
every list is moved to the range that was set aside for it. -/
theorem exists_reserveRanges {place : Placement} (inRange : place.InRange)
    {wanted : List (Nat × AddressRange)} {granted : List Reservation} {c : MemConfig}
    (nodup : (wanted.map Prod.fst).Nodup)
    (asked : ∀ i range, (i, range) ∈ wanted →
      ∃ l first n, c.list? i = some l ∧ l.Paged first n ∧ range = ⟨l.base, spanOf n⟩) :
    ∃ reserved, reserveRanges place wanted granted c = .ok reserved
      ∧ ∀ reservations, reserved.result = .ok reservations →
        (∀ r ∈ granted, r ∈ reservations)
          ∧ c.Follows reserved.config (wanted.map Prod.fst) reservations := by
  induction wanted generalizing granted c with
  | nil =>
    refine ⟨_, rfl, fun reservations result => ?_⟩
    cases result
    exact ⟨fun _ => id, fun _ _ => rfl, by simp⟩
  | cons range wanted ih =>
    obtain ⟨i, range⟩ := range
    obtain ⟨out, distinct⟩ := List.nodup_cons.1 nodup
    obtain ⟨l, first, n, there, run, rfl⟩ := asked i _ List.mem_cons_self
    unfold reserveRanges
    cases placed : place (granted.map Reservation.range) l.base (spanOf n) with
    | error reason =>
      exact ⟨_, rfl, by simp⟩
    | ok base =>
      have room := inRange _ _ _ _ placed
      rw [toNat_spanOf run.few] at room
      obtain ⟨c₁, m, moved, run', rfl, socket, lists⟩ := exists_moveList there run room
      -- The other lists are where they were, so they are asked for as before.
      have others : ∀ j, j ≠ i → c₁.list? j = c.list? j := fun j other => by
        rw [lists, if_neg other]
      have asked₁ : ∀ j range, (j, range) ∈ wanted →
          ∃ l first n, c₁.list? j = some l ∧ l.Paged first n ∧ range = ⟨l.base, spanOf n⟩ := by
        intro j range entry
        have number := List.mem_map_of_mem (f := Prod.fst) entry
        have other : j ≠ i := by
          rintro rfl
          exact out number
        rw [others j other]
        exact asked j range (List.mem_cons_of_mem _ entry)
      have later := fun granted => @ih granted c₁ distinct asked₁
      obtain ⟨reserved, rest, ends⟩ := later (granted ++ [⟨i, m.base, spanOf n⟩])
      dsimp only
      rw [moved, Checked.ok_bind, rest]
      refine ⟨_, rfl, fun reservations result => ?_⟩
      obtain ⟨kept, follows⟩ := ends reservations result
      have head : (⟨i, m.base, spanOf n⟩ : Reservation) ∈ reservations := kept _ (by simp)
      refine ⟨fun r hr => kept r (List.mem_append_left _ hr), ?_⟩
      have one : c.Follows c₁ [i] reservations := by
        refine ⟨fun j outside => others j (by simpa using outside), fun j inside => ?_⟩
        obtain rfl := List.mem_singleton.1 inside
        refine ⟨l, m, first, n, _, there, ?_, run, run', socket, head, rfl, rfl⟩
        rw [lists, if_pos rfl]
      exact one.trans follows fun j inside => List.mem_singleton.1 inside ▸ out

/-- Reserving address space for lists that are runs: nothing faults, and if nothing is refused every list
lies where a range of its length was set aside for it, its pages as they were for devices. -/
theorem Paged.exists_reserveLists {c : MemConfig} (paged : c.Paged) {place : Placement}
    (inRange : place.InRange) :
    ∃ reserved, reserveLists place c = .ok reserved
      ∧ ∀ reservations, reserved.result = .ok reservations →
        ∃ numbers, (∀ i, i ∈ numbers ↔ (c.list? i).isSome)
          ∧ c.Follows reserved.config numbers reservations := by
  obtain ⟨wanted, asking, nodup, numbers, asked⟩ := paged.exists_wantedRanges
  obtain ⟨reserved, done, ends⟩ := exists_reserveRanges inRange nodup asked
  refine ⟨reserved, ?_, fun reservations result => ?_⟩
  · unfold reserveLists
    rw [asking]
    exact done
  · exact ⟨_, numbers, (ends reservations result).2⟩

end MemConfig

end Passthrough
