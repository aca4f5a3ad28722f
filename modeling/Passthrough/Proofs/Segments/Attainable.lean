import Passthrough.Proofs.Segments.Table
import Passthrough.Segments.Reservation

/-!
# Passthrough — the configurations a process can come to

A process comes to its memory configuration by storing pools, by reading a published table and by
reserving address space for what it read.  Whatever it does, every list has a name and a number of
segments for which a table has room (`MemConfig.Attainable.fits`), so what it publishes is what others
find (`MemConfig.Attainable.survives_publication`).

The bounds come from where a list is made: a list made of a pool is named after three numbers, and a
list of a table had its room there.  Lists that move keep both.

What a list made of a pool is, the loop that cuts the pool does not show at once.  `MemConfig.cut_eq` gives
its segments one by one, and with them `MemConfig.storePool_eq_storeWhole` says what storing a pool does
without the loop.
-/

namespace Passthrough

/-- The configurations that storing pools, reading tables and reserving address space lead to. -/
inductive MemConfig.Attainable : MemConfig → Prop where
  | empty : Attainable .empty
  | stored {c c' : MemConfig} {pool : Region} {socket : Int32} {index : Nat} {log : List Message}
      (before : Attainable c) (stored : c.storePool pool socket = .ok ⟨.ok index, c', log⟩) :
      Attainable c'
  | read {region : ByteArray} {c : MemConfig} (found : Layout.read region = .ok c) : Attainable c
  /-- Reserving moves lists, up to the first refusal. -/
  | moved {c : MemConfig} {place : Placement} {reserved : Reserved} (before : Attainable c)
      (reserving : reserveLists place c = .ok reserved) : Attainable reserved.config

/-! ## Names -/

theorem utf8Size_digitChar {n : Nat} (h : n < 10) : (Nat.digitChar n).utf8Size = 1 := by
  decide +revert

theorem utf8ByteSize_repr_of_lt {n : Nat} (h : n < 10) : n.repr.utf8ByteSize = 1 := by
  rw [Nat.repr_of_lt h, String.utf8ByteSize_singleton, utf8Size_digitChar h]

theorem utf8ByteSize_repr_le {n k : Nat} (h : n < 10 ^ (k + 1)) : n.repr.utf8ByteSize ≤ k + 1 := by
  induction k generalizing n with
  | zero => exact Nat.le_of_eq (utf8ByteSize_repr_of_lt h)
  | succ k ih =>
    by_cases single : n < 10
    · have one := utf8ByteSize_repr_of_lt single
      omega
    · -- The last digit is one byte more than the number without it.
      have front := ih (n := n / 10) (by rw [Nat.pow_succ] at h; omega)
      have last := utf8Size_digitChar (n := n % 10) (by omega)
      rw [Nat.repr_of_ge (by omega), String.utf8ByteSize_append, String.utf8ByteSize_singleton, last]
      omega

theorem utf8ByteSize_toString_int32_le (n : Int32) : (toString n.toInt).utf8ByteSize ≤ 11 := by
  have low := n.le_toInt
  have high := n.toInt_lt
  rw [Int.toString_eq_repr, Int.repr_eq_if]
  split
  · have digits := utf8ByteSize_repr_le (n := n.toInt.toNat) (k := 9) (by omega)
    omega
  · have digits := utf8ByteSize_repr_le (n := (-n.toInt).toNat) (k := 9) (by omega)
    have sign : ("-" : String).utf8ByteSize = 1 := rfl
    rw [String.utf8ByteSize_append, sign]
    omega

/-- The names of lists that are made of pools fit. -/
theorem SegmentList.utf8ByteSize_nameFor_le (pageSize : UInt64) (socket : Int32) {index : Nat}
    (h : index < 10) : (nameFor pageSize socket index).utf8ByteSize ≤ Layout.nameSize := by
  have size : (toString (pageSize >>> 10).toNat).utf8ByteSize ≤ 20 := by
    have bound := (pageSize >>> 10).toNat_lt
    exact utf8ByteSize_repr_le (by omega)
  have socketDigits := utf8ByteSize_toString_int32_le socket
  have place : (toString index).utf8ByteSize ≤ 1 := utf8ByteSize_repr_le h
  have words : ("memseg-" : String).utf8ByteSize = 7 ∧ ("k-" : String).utf8ByteSize = 2
      ∧ ("-" : String).utf8ByteSize = 1 := ⟨rfl, rfl, rfl⟩
  simp only [nameFor, String.utf8ByteSize_append, Layout.nameSize]
  omega

/-! ## Cutting a pool -/

theorem toNat_pageOffset {k : Nat} (few : k ≤ maxSegments) :
    (UInt64.ofNat k * pageSize).toNat = k * 4096 := by
  have few : k ≤ 65536 := few
  have word : (UInt64.ofNat k).toNat = k :=
    UInt64.toNat_ofNat_of_lt' (by simp only [UInt64.size]; omega)
  rw [UInt64.toNat_mul, word]
  exact Nat.mod_eq_of_lt (by simp only [pageSize, UInt64.toNat_ofNat]; omega)

/-- Page `k` of a run of pages that devices see from `first` on. -/
def SegmentList.page (first : PhysAddr) (base : VirtAddr) (socket : Int32) (k : Nat) : Segment :=
  ⟨⟨first.val + UInt64.ofNat k * Passthrough.pageSize⟩,
    ⟨base.val + UInt64.ofNat k * Passthrough.pageSize⟩, Passthrough.pageSize, Passthrough.pageSize,
    socket⟩

namespace MemConfig

/-- Number of segments that a pool is cut into. -/
def pagesOf (pool : Region) : Nat := (pool.size / pageSize).toNat

/-- The addresses of page `k` of a pool do not wrap. -/
structure Reaches (pool : Region) (k : Nat) : Prop where
  devices : pool.phys.val.toNat + k * 4096 < UInt64.size
  process : pool.user.val.toNat + k * 4096 < UInt64.size

instance (pool : Region) (k : Nat) : Decidable (Reaches pool k) :=
  decidable_of_iff (_ ∧ _) ⟨fun h => ⟨h.1, h.2⟩, fun h => ⟨h.devices, h.process⟩⟩

theorem Reaches.mono {pool : Region} {i k : Nat} (reaches : Reaches pool k) (h : i ≤ k) :
    Reaches pool i := by
  have before := Nat.mul_le_mul_right 4096 h
  exact ⟨Nat.lt_of_le_of_lt (Nat.add_le_add_left before _) reaches.devices,
    Nat.lt_of_le_of_lt (Nat.add_le_add_left before _) reaches.process⟩

/-- The first `n` pages of a pool. -/
def segmentsOf (pool : Region) (socket : Int32) (n : Nat) : Arena Segment :=
  .tabulate n fun k => some (SegmentList.page pool.phys pool.user socket k)

/-- One round of cutting: page `k` is put in its slot. -/
theorem cutFrom_succ {pool : Region} {k : Nat} {segments : Arena Segment} (reaches : Reaches pool k)
    (few : k < maxSegments) (free : segments.Free k) (socket : Int32) (n : Nat) :
    cutFrom pool socket k (UInt64.ofNat k * pageSize) segments (n + 1)
      = cutFrom pool socket (k + 1) (UInt64.ofNat (k + 1) * pageSize)
          (segments.put k (SegmentList.page pool.phys pool.user socket k) free) n := by
  have few : k < 65536 := few
  have offset : (UInt64.ofNat k * pageSize).toNat = k * 4096 := toNat_pageOffset (Nat.le_of_lt few)
  have next : addChecked (UInt64.ofNat k * pageSize) pageSize
      = .ok (UInt64.ofNat (k + 1) * pageSize) := by
    rw [addChecked_eq_ok_iff, toNat_pageOffset few, offset]
    simp only [pageSize, UInt64.toNat_ofNat]
    omega
  rw [cutFrom, PhysAddr.add_eq, VirtAddr.add_eq, offset, if_pos reaches.devices,
    if_pos reaches.process]
  simp only [bind, Except.bind]
  rw [← SegmentList.page, Arena.claimAt_eq_ok free]
  dsimp only
  rw [next]

/-- Cutting stops at a page whose addresses wrap. -/
theorem cutFrom_of_wraps {pool : Region} {k : Nat} (wraps : ¬Reaches pool k) (few : k ≤ maxSegments)
    (socket : Int32) (segments : Arena Segment) (n : Nat) :
    cutFrom pool socket k (UInt64.ofNat k * pageSize) segments (n + 1) = .error .overflow := by
  rw [cutFrom, PhysAddr.add_eq, VirtAddr.add_eq, toNat_pageOffset few]
  by_cases devices : pool.phys.val.toNat + k * 4096 < UInt64.size
  · rw [if_pos devices, if_neg fun process => wraps ⟨devices, process⟩]
    rfl
  · rw [if_neg devices]
    rfl

/-- With the pages before page `k` in their slots, cutting goes through exactly if the last page does not
wrap, and then all pages are in their slots. -/
theorem cutFrom_eq {pool : Region} {socket : Int32} {k n : Nat} {segments : Arena Segment}
    (few : k + n ≤ maxSegments) (capacity : segments.capacity = k + n)
    (before : ∀ i, segments.get? i = if i < k then
      some (SegmentList.page pool.phys pool.user socket i) else none) :
    cutFrom pool socket k (UInt64.ofNat k * pageSize) segments n
      = if n = 0 ∨ Reaches pool (k + n - 1) then .ok (.ok (segmentsOf pool socket (k + n)))
        else .error .overflow := by
  induction n generalizing k segments with
  | zero =>
    have all : segments = segmentsOf pool socket (k + 0) :=
      Arena.ext_get? (by rw [capacity, segmentsOf, Arena.capacity_tabulate]) fun i hi => by
        rw [before, segmentsOf, Arena.get?_tabulate]
        rfl
    rw [if_pos (.inl rfl), cutFrom, all]
  | succ n ih =>
    have last : k + (n + 1) - 1 = k + n := by omega
    rw [last]
    by_cases here : Reaches pool k
    · have free : segments.Free k :=
        Arena.free_iff.2 ⟨by omega, by rw [before, if_neg (Nat.lt_irrefl k)]⟩
      -- With one page more in its slot, the rest of the loop is the loop from the next page on.
      have rest := @ih (k + 1) (segments.put k
        (SegmentList.page pool.phys pool.user socket k) free) (by omega)
        (by rw [Arena.capacity_put]; omega) fun i => by
          rw [Arena.get?_put, before]
          by_cases last : i = k
          · rw [if_pos last, if_pos (by omega), last]
          · have same : i < k ↔ i < k + 1 := by omega
            simp only [if_neg last, same]
      have ends : (n = 0 ∨ Reaches pool (k + n)) ↔ (n + 1 = 0 ∨ Reaches pool (k + n)) := by
        constructor
        · rintro (rfl | reaches)
          · exact .inr here
          · exact .inr reaches
        · rintro (none | reaches)
          · cases none
          · exact .inr reaches
      have sum : k + 1 + n = k + (n + 1) := by omega
      rw [sum, last] at rest
      rw [cutFrom_succ here (by omega) free, rest]
      simp only [ends]
    · rw [cutFrom_of_wraps here (by omega), if_neg]
      rintro (none | reaches)
      · cases none
      · exact here (reaches.mono (by omega))

/-- A pool is cut exactly if its last page does not wrap, and nothing goes wrong with the slots. -/
theorem cut_eq (pool : Region) (socket : Int32) {n : Nat} (pos : 0 < n) (few : n ≤ maxSegments) :
    cut pool socket n = if Reaches pool (n - 1) then .ok (.ok (segmentsOf pool socket n))
      else .error .overflow := by
  have first : (0 : UInt64) = UInt64.ofNat 0 * pageSize := rfl
  rw [cut, first, cutFrom_eq (by omega) (by simp) (by simp)]
  simp only [Nat.zero_add, Nat.ne_of_gt pos, false_or]

/-- The list that a pool becomes in place `index`. -/
def listOf (pool : Region) (socket : Int32) (index : Nat) : SegmentList where
  name := SegmentList.nameFor pageSize socket index
  pageSize := pageSize
  socket := socket
  base := pool.user
  segments := segmentsOf pool socket (pagesOf pool)

theorem capacity_listOf (pool : Region) (socket : Int32) (index : Nat) :
    (listOf pool socket index).capacity = pagesOf pool := by
  rw [SegmentList.capacity, listOf, segmentsOf, Arena.capacity_tabulate]

/-! ## Storing a pool -/

theorem list?_of_claimList {c c' : MemConfig} {index : Nat} {l : SegmentList}
    (h : c.claimList index l = .ok c') (i : Nat) :
    c'.list? i = if i = index then some l else c.list? i := by
  unfold claimList at h
  split at h
  · cases h
  · next lists claimed =>
    cases h
    exact Arena.get?_claimAt claimed i

/-- What is said about a pool that is stored. -/
def storedMessage (pool : Region) (l : SegmentList) : Message :=
  ⟨.debug, l.name ++ ": " ++ toString l.capacity ++ " segments at " ++ l.base.describe ++ " ("
    ++ pool.phys.describe ++ ")"⟩

/-- Storing a pool as a whole: with a list that has all its segments, or not at all. -/
def storeWhole (c : MemConfig) (pool : Region) (socket : Int32) : Checked (Answer Nat) :=
  if pool.user.isNull then .ok ⟨.error (.unmapped pool.phys), c, []⟩
  else if pagesOf pool = 0 then .ok ⟨.error (.poolTooSmall pool.size), c, []⟩
  else if maxSegments < pagesOf pool then .ok ⟨.error (.poolTooLarge pool.size), c, []⟩
  else match c.lists.firstFree with
    | none => .ok ⟨.error (.noFreeList pool.size), c, []⟩
    | some index =>
      let l := listOf pool socket index
      if Reaches pool (pagesOf pool - 1) then
        match c.claimList index l with
        | .error e => .ok ⟨.error (.arena e), c, [storedMessage pool l]⟩
        | .ok c => .ok ⟨.ok index, c, [storedMessage pool l]⟩
      else .error .overflow

theorem storePool_eq_storeWhole (c : MemConfig) (pool : Region) (socket : Int32) :
    c.storePool pool socket = c.storeWhole pool socket := by
  unfold storePool storeWhole
  simp only [show (pool.size / pageSize).toNat = pagesOf pool from rfl]
  by_cases unmapped : pool.user.isNull
  · rw [if_pos unmapped, if_pos unmapped]
  rw [if_neg unmapped, if_neg unmapped]
  by_cases empty : pagesOf pool = 0
  · rw [if_pos empty, if_pos empty]
  rw [if_neg empty, if_neg empty]
  by_cases many : maxSegments < pagesOf pool
  · rw [if_pos many, if_pos many]
  rw [if_neg many, if_neg many]
  cases c.lists.firstFree with
  | none => rfl
  | some index =>
    dsimp only
    rw [cut_eq _ _ (Nat.pos_of_ne_zero empty) (Nat.le_of_not_lt many)]
    split
    · rw [storedMessage, capacity_listOf]
      rfl
    · rfl

/-- A pool that is stored becomes one list more, in a free place. -/
theorem stored_of_storePool {c c' : MemConfig} {pool : Region} {socket : Int32} {index : Nat}
    {log : List Message} (h : c.storePool pool socket = .ok ⟨.ok index, c', log⟩) :
    0 < pagesOf pool ∧ pagesOf pool ≤ maxSegments ∧ index < maxLists ∧ c.list? index = none
      ∧ ∀ i, c'.list? i = if i = index then some (listOf pool socket index) else c.list? i := by
  rw [storePool_eq_storeWhole] at h
  unfold storeWhole at h
  split at h
  · cases h
  split at h
  · cases h
  next nonzero =>
  split at h
  · cases h
  next few =>
  split at h
  · cases h
  next free found =>
  dsimp only at h
  split at h
  · obtain ⟨room, none⟩ := Arena.free_iff.1 (Arena.free_of_firstFree found)
    rw [c.capacity_lists] at room
    split at h
    · cases h
    · next c₁ claimed =>
      cases h
      exact ⟨Nat.pos_of_ne_zero nonzero, Nat.le_of_not_lt few, room, none,
        list?_of_claimList claimed⟩
  · cases h

/-- A pool that is not stored leaves the lists as they are. -/
theorem config_of_storePool {c : MemConfig} {pool : Region} {socket : Int32} {stored : Answer Nat}
    {e : SegmentError} (h : c.storePool pool socket = .ok stored)
    (failed : stored.result = .error e) : stored.config = c := by
  rw [storePool_eq_storeWhole] at h
  unfold storeWhole at h
  split at h
  · cases h
    rfl
  split at h
  · cases h
    rfl
  split at h
  · cases h
    rfl
  split at h
  · cases h
    rfl
  dsimp only at h
  split at h
  · split at h
    · cases h
      rfl
    · cases h
      cases failed
  · cases h

theorem fits_listOf {pool : Region} {socket : Int32} {index : Nat}
    (few : pagesOf pool ≤ maxSegments) (room : index < maxLists) :
    (listOf pool socket index).Fits where
  name := SegmentList.utf8ByteSize_nameFor_le _ _ (Nat.lt_trans room (by decide))
  capacity := by
    rw [capacity_listOf]
    exact few

theorem Fits.storePool {c c' : MemConfig} {pool : Region} {socket : Int32} {index : Nat}
    {log : List Message} (fits : c.Fits)
    (h : c.storePool pool socket = .ok ⟨.ok index, c', log⟩) : c'.Fits := by
  obtain ⟨-, few, room, -, lists⟩ := stored_of_storePool h
  intro i l' hl'
  rw [lists] at hl'
  split at hl'
  · cases hl'
    exact fits_listOf few room
  · exact fits i l' hl'

end MemConfig

/-! ## Reading a table -/

namespace Layout

theorem nameAt?_le {region : ByteArray} {i : Nat} {name : String}
    (h : nameAt? region i = some name) : name.utf8ByteSize ≤ nameSize := by
  rw [utf8ByteSize_of_fromUTF8? h, ByteArray.size_extract]
  omega

theorem fits_of_listAt? {region : ByteArray} {i : Nat} {l : SegmentList}
    (sound : defect? region i = none) (h : listAt? region i = some l) : l.Fits := by
  unfold listAt? at h
  split at h
  · next used =>
    obtain ⟨name, hname, h⟩ := Option.map_eq_some_iff.1 h
    rw [defect?, used, if_neg (by decide)] at sound
    split at sound
    · cases sound
    · next count =>
      cases h
      refine ⟨nameAt?_le hname, ?_⟩
      rw [SegmentList.capacity]
      dsimp only
      rw [Arena.capacity_tabulate]
      exact Nat.le_of_not_lt count
  · cases h

theorem fits_of_read {region : ByteArray} {c : MemConfig} (h : read region = .ok c) : c.Fits := by
  obtain ⟨-, -, -, -, places⟩ := read_eq_ok_iff.1 h
  intro i l there
  obtain ⟨sound, read⟩ := places i (MemConfig.lt_of_list? there)
  exact fits_of_listAt? sound (read.symm.trans there)

end Layout

/-! ## Moving lists -/

/-- A list that moves keeps its name and its number of segments. -/
theorem SegmentList.Fits.rebase {l l' : SegmentList} {base : VirtAddr} (fits : l.Fits)
    (h : l.rebase base = .ok l') : l'.Fits := by
  obtain ⟨segments, moved, h⟩ := Checked.bind_eq_ok_iff.1 h
  cases h
  have same : segments.capacity = l.capacity := (Arena.mapUsed_eq_ok_iff.1 moved).1
  refine ⟨fits.name, ?_⟩
  rw [SegmentList.capacity, same]
  exact fits.capacity

namespace MemConfig

theorem list?_setList {c : MemConfig} {i : Nat} {l l' : SegmentList} (there : c.list? i = some l)
    (j : Nat) : (c.setList i l').list? j = if j = i then some l' else c.list? j := by
  have used : c.lists.isUsed i = true := by
    rw [isUsed_eq_isSome, there]
    rfl
  show (c.lists.set i l').get? j = _
  rw [Arena.get?_set, used]
  by_cases same : j = i
  · rw [if_pos ⟨same, rfl⟩, if_pos same]
  · rw [if_neg fun h => same h.1, if_neg same]
    rfl

theorem Fits.moveList {c c' : MemConfig} {i : Nat} {base : VirtAddr} (fits : c.Fits)
    (h : Passthrough.moveList c i base = .ok c') : c'.Fits := by
  unfold Passthrough.moveList at h
  split at h
  · cases h
    exact fits
  · next l there =>
    split at h
    · cases h
      exact fits
    · cases moved : l.rebase base with
      | error fault =>
        rw [moved] at h
        cases h
      | ok l₁ =>
        rw [moved] at h
        cases h
        intro j l' hl'
        rw [list?_setList there] at hl'
        split at hl'
        · cases hl'
          exact (fits i l there).rebase moved
        · exact fits j l' hl'

theorem Fits.reserveRanges {place : Placement} {wanted : List (Nat × AddressRange)}
    {granted : List Reservation} {c : MemConfig} {reserved : Reserved} (fits : c.Fits)
    (h : Passthrough.reserveRanges place wanted granted c = .ok reserved) : reserved.config.Fits := by
  induction wanted generalizing granted c reserved with
  | nil =>
    cases h
    exact fits
  | cons range wanted ih =>
    obtain ⟨i, range⟩ := range
    unfold Passthrough.reserveRanges at h
    split at h
    · -- A refusal leaves the lists that were moved before it where they are now.
      cases h
      exact fits
    · obtain ⟨c₁, moved, h⟩ := Checked.bind_eq_ok_iff.1 h
      obtain ⟨later, ran, h⟩ := Checked.bind_eq_ok_iff.1 h
      cases h
      have rest := ih (fits.moveList moved) ran
      exact rest

/-- **Whatever a process does to its configuration, a table has room for it.** -/
theorem Attainable.fits {c : MemConfig} (attainable : Attainable c) : c.Fits := by
  induction attainable with
  | empty => exact fits_empty
  | stored before stored ih => exact ih.storePool stored
  | read found => exact Layout.fits_of_read found
  | moved before reserving ih =>
    obtain ⟨wanted, -, reserving⟩ := Checked.bind_eq_ok_iff.1 reserving
    exact ih.reserveRanges reserving

/-- **A published configuration survives the region.**  Whatever a process did to come to its
configuration, and whatever stood in a region that is long enough, lists and segments of an earlier and
larger configuration included: writing the table succeeds, and reading it gives back the same
configuration, with the same lists and segments at the same numbers and everything that is said about
them.  Marker, size and what lies behind the table stay. -/
theorem Attainable.survives_publication {c : MemConfig} (attainable : Attainable c)
    {region : ByteArray} (room : Layout.regionSize ≤ region.size) :
    ∃ region', Layout.write region c = .ok region' ∧ Layout.read region' = .ok c
      ∧ region'.size = region.size
      ∧ ∀ k, k < 4 ∨ Layout.regionSize ≤ k → Packed.byteAt region' k = Packed.byteAt region k := by
  obtain ⟨region', wrote, change, found⟩ := Layout.exists_write_read attainable.fits room
  refine ⟨region', wrote, found, change.size_eq, ?_⟩
  intro k outside
  exact change.byteAt_eq k fun inside => by omega

/-- A pool of two segments, for configurations that are computed. -/
def twoPages : Region := ⟨8192, ⟨0x100000000⟩, .null, ⟨0x7F0000000000⟩⟩

/-- A region with a segment of a list that is gone. -/
def staleRegion : ByteArray :=
  Packed.put (Packed.zeros Layout.regionSize) (Layout.segmentOffset 7 0)
    (Layout.segmentBytes (some default))

theorem exists_stored_twoPages : ∃ index c log,
    empty.storePool twoPages 0 = .ok ⟨.ok index, c, log⟩ ∧ c.len = 1 := by
  have computed : ((empty.storePool twoPages 0).toOption.any fun stored =>
      stored.result.toOption.any fun _ => stored.config.len = 1) = true := by
    decide +kernel
  obtain ⟨⟨result, c, log⟩, answers, found⟩ := exists_ok_of_any computed
  obtain ⟨index, rfl, one⟩ := exists_ok_of_any found
  exact ⟨index, c, log, answers, of_decide_eq_true one⟩

theorem survives_publication_twoPages : ∃ c region', c.len = 1
    ∧ Layout.write staleRegion c = .ok region' ∧ Layout.read region' = .ok c := by
  have size : staleRegion.size = Layout.regionSize := by
    rw [staleRegion, Packed.size_put, Packed.size_zeros]
  obtain ⟨index, c, log, stored, one⟩ := exists_stored_twoPages
  have attainable : Attainable c := .stored .empty stored
  obtain ⟨region', wrote, found, -, -⟩ := attainable.survives_publication (Nat.le_of_eq size.symm)
  exact ⟨c, region', one, wrote, found⟩

end MemConfig

end Passthrough
