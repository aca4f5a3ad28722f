import Passthrough.Proofs.Segments.Paged

/-!
# Passthrough — a pool is stored whole or not at all

Storing a pool asks four questions in order and cuts the pool only then, page by page, into a list that
nobody sees before it has all its pages.

| question | answer if not |
|---|---|
| has the pool an address in the process? | `Unmapped` |
| has it a page? | `PoolTooSmall` |
| has a list room for all its pages? | `PoolTooLarge` |
| is a list unused? | `NoFreeList` |

* `SegmentList.IsCut` — what the list of a pool is.
* `MemConfig.stores_whole_or_nothing` — which answer is given when, and what becomes of the lists.
-/

namespace Passthrough

/-- The list has the pages of a pool on `socket`, all `n` of them, each in use. -/
structure SegmentList.IsCut (l : SegmentList) (pool : Region) (socket : Int32) (n : Nat) : Prop where
  base : l.base = pool.user
  listSocket : l.socket = socket
  pageSize : l.pageSize.toNat = 4096
  capacity : l.capacity = n
  segment : ∀ k, k < n → ∃ s, l.segments.get? k = some s
    ∧ s.iova.val.toNat = pool.phys.val.toNat + k * 4096
    ∧ s.addr.val.toNat = pool.user.val.toNat + k * 4096
    ∧ s.length.toNat = 4096 ∧ s.pageSize.toNat = 4096 ∧ s.socket = socket
  name : l.name.utf8ByteSize ≤ 64

namespace MemConfig

/-! ## Unused lists -/

theorem firstFree_eq_none_iff {c : MemConfig} :
    c.lists.firstFree = none ↔ ∀ i, i < 8 → (c.list? i).isSome = true := by
  simp only [Arena.firstFree_eq_none_iff, c.capacity_lists, isUsed_eq_isSome]

theorem firstFree_eq_some_iff {c : MemConfig} {index : Nat} :
    c.lists.firstFree = some index ↔
      index < 8 ∧ c.list? index = none ∧ ∀ i, i < index → (c.list? i).isSome = true := by
  simp only [Arena.firstFree_eq_some_iff, c.capacity_lists, isUsed_eq_isSome,
    Option.isSome_eq_false_iff, Option.isNone_iff_eq_none]

theorem exists_claimList {c : MemConfig} {i : Nat} (room : i < maxLists) (unused : c.list? i = none)
    (l : SegmentList) :
    ∃ c', c.claimList i l = .ok c' ∧ ∀ j, c'.list? j = if j = i then some l else c.list? j := by
  have free : c.lists.Free i := Arena.free_iff.2 ⟨by rwa [c.capacity_lists], unused⟩
  have claimed := Arena.claimAt_eq_ok free l
  cases found : c.claimList i l with
  | ok c' => exact ⟨c', rfl, list?_of_claimList found⟩
  | error e =>
    unfold claimList at found
    split at found
    · next failed =>
      rw [claimed] at failed
      cases failed
    · cases found

/-! ## Storing -/

theorem pagesOf_eq (pool : Region) : pagesOf pool = pool.size.toNat / 4096 := UInt64.toNat_div ..

/-- The list that a pool becomes, if neither of its ranges wraps. -/
theorem isCut_listOf {pool : Region} (socket : Int32) {index : Nat} (pos : 0 < pagesOf pool)
    (few : pagesOf pool ≤ maxSegments) (room : index < maxLists)
    (devices : pool.phys.val.toNat + pool.size.toNat ≤ 2 ^ 64)
    (process : pool.user.val.toNat + pool.size.toNat ≤ 2 ^ 64) :
    (listOf pool socket index).IsCut pool socket (pagesOf pool) := by
  have paged : (listOf pool socket index).Paged pool.phys (pagesOf pool) :=
    paged_listOf pos few devices process
  exact {
    base := rfl
    listSocket := rfl
    pageSize := rfl
    capacity := paged.capacity
    segment := fun k below =>
      ⟨_, paged.segment k below, paged.toNat_iova below, paged.toNat_addr below, rfl, rfl, rfl⟩
    name := (fits_listOf few room).name }

/-- Where nothing stands in the way, a pool becomes the lowest unused list. -/
theorem exists_storePool {c : MemConfig} {pool : Region} (socket : Int32) {index : Nat}
    (mapped : pool.user.isNull = false) (pos : 0 < pagesOf pool) (few : pagesOf pool ≤ maxSegments)
    (found : c.lists.firstFree = some index)
    (devices : pool.phys.val.toNat + pool.size.toNat ≤ 2 ^ 64)
    (process : pool.user.val.toNat + pool.size.toNat ≤ 2 ^ 64) :
    ∃ c' log, c.storePool pool socket = .ok ⟨.ok index, c', log⟩
      ∧ ∀ i, c'.list? i = if i = index then some (listOf pool socket index) else c.list? i := by
  obtain ⟨room, unused, -⟩ := firstFree_eq_some_iff.1 found
  obtain ⟨c', claimed, lists⟩ := exists_claimList room unused (listOf pool socket index)
  have pages := pagesOf_eq pool
  have reaches : Reaches pool (pagesOf pool - 1) :=
    ⟨by rw [UInt64.size]; omega, by rw [UInt64.size]; omega⟩
  refine ⟨c', [storedMessage pool (listOf pool socket index)], ?_, lists⟩
  rw [storePool_eq_storeWhole, storeWhole, mapped, if_neg (by decide),
    if_neg (Nat.ne_of_gt pos), if_neg (Nat.not_lt.2 few), found]
  dsimp only
  rw [if_pos reaches, claimed]

/-- **A pool is stored whole or not at all.**  Take any configuration, a pool whose ranges do not pass
`2 ^ 64`, and any socket.  Nothing overflows.

* The first of these that holds is the answer, and the configuration stays as it is: the pool is not
  mapped, it holds no page, it holds more pages than a list, all lists are used.
* Otherwise the answer is the lowest number of an unused list.  That list has all pages of the pool then,
  and the other lists are as they were. -/
theorem stores_whole_or_nothing (c : MemConfig) {pool : Region} (socket : Int32)
    (devices : pool.phys.val.toNat + pool.size.toNat ≤ 2 ^ 64)
    (process : pool.user.val.toNat + pool.size.toNat ≤ 2 ^ 64) :
    let n := pool.size.toNat / 4096
    ∃ answer c' log, c.storePool pool socket = .ok ⟨answer, c', log⟩
      ∧ if pool.user = .null then answer = .error (.unmapped pool.phys) ∧ c' = c
        else if n = 0 then answer = .error (.poolTooSmall pool.size) ∧ c' = c
        else if 65536 < n then answer = .error (.poolTooLarge pool.size) ∧ c' = c
        else ((∀ i, i < 8 → (c.list? i).isSome = true) →
            answer = .error (.noFreeList pool.size) ∧ c' = c)
          ∧ ∀ index, index < 8 → c.list? index = none → (∀ i, i < index → (c.list? i).isSome = true) →
            answer = .ok index ∧ (∃ l, c'.list? index = some l ∧ l.IsCut pool socket n)
              ∧ ∀ i, i ≠ index → c'.list? i = c.list? i := by
  intro n
  have pages : pagesOf pool = n := pagesOf_eq pool
  by_cases unmapped : pool.user = .null
  · have null := VirtAddr.isNull_iff.2 unmapped
    refine ⟨.error (.unmapped pool.phys), c, [], ?_,
      by rw [if_pos unmapped]; exact ⟨rfl, rfl⟩⟩
    rw [storePool_eq_storeWhole, storeWhole, if_pos null]
  have mapped : pool.user.isNull = false := Bool.eq_false_iff.2 (mt VirtAddr.isNull_iff.1 unmapped)
  simp only [if_neg unmapped]
  by_cases empty : n = 0
  · refine ⟨.error (.poolTooSmall pool.size), c, [], ?_,
      by rw [if_pos empty]; exact ⟨rfl, rfl⟩⟩
    rw [storePool_eq_storeWhole, storeWhole, mapped, if_neg (by decide), pages, if_pos empty]
  simp only [if_neg empty]
  by_cases many : 65536 < n
  · refine ⟨.error (.poolTooLarge pool.size), c, [], ?_,
      by rw [if_pos many]; exact ⟨rfl, rfl⟩⟩
    rw [storePool_eq_storeWhole, storeWhole, mapped, if_neg (by decide), pages, if_neg empty,
      if_pos (show maxSegments < n from many)]
  simp only [if_neg many]
  have few : n ≤ maxSegments := Nat.le_of_not_lt many
  cases found : c.lists.firstFree with
  | none =>
    refine ⟨.error (.noFreeList pool.size), c, [], ?_, fun _ => ⟨rfl, rfl⟩,
      fun index room unused => ?_⟩
    · rw [storePool_eq_storeWhole, storeWhole, mapped, if_neg (by decide), pages, if_neg empty,
        if_neg (Nat.not_lt.2 few), found]
    · have used := firstFree_eq_none_iff.1 found index room
      rw [unused] at used
      cases used
  | some index =>
    have pos : 0 < pagesOf pool := by omega
    obtain ⟨room, unused, -⟩ := firstFree_eq_some_iff.1 found
    obtain ⟨c', log, stored, lists⟩ :=
      exists_storePool socket mapped pos (by rwa [pages]) found devices process
    have cut := isCut_listOf socket pos (by rwa [pages]) room devices process
    rw [pages] at cut
    refine ⟨_, _, _, stored, fun used => ?_, fun index' room' unused' before' => ?_⟩
    · rw [firstFree_eq_none_iff.2 used] at found
      cases found
    · rw [firstFree_eq_some_iff.2 ⟨room', unused', before'⟩] at found
      cases found
      refine ⟨rfl, ⟨_, by rw [lists, if_pos rfl], cut⟩, fun i other => ?_⟩
      rw [lists, if_neg other]

/-- A configuration with a hole: of the first three lists, the middle one is unused. -/
def holed : MemConfig :=
  ⟨.tabulate 8 fun i => if i = 0 ∨ i = 2 then some (listOf twoPages 0 i) else none,
    Arena.capacity_tabulate ..⟩

theorem eq_listOf_of_holed {i : Nat} {l : SegmentList} (there : holed.list? i = some l) :
    l = listOf twoPages 0 i := by
  rw [holed, Layout.list?_tabulate _ (lt_of_list? there), Option.ite_none_right_eq_some] at there
  exact (Option.some.inj there.2).symm

theorem stores_into_hole : ∃ c' l log, holed.storePool twoPages 1 = .ok ⟨.ok 1, c', log⟩
    ∧ c'.list? 1 = some l ∧ l.IsCut twoPages 1 2 ∧ ∀ i, i ≠ 1 → c'.list? i = holed.list? i := by
  obtain ⟨answer, c', log, stored, decided⟩ :=
    @stores_whole_or_nothing holed twoPages 1 (by decide) (by decide)
  rw [if_neg (by decide), if_neg (by decide), if_neg (by decide)] at decided
  have lists (i : Nat) (below : i < 8) : holed.list? i
      = if i = 0 ∨ i = 2 then some (listOf twoPages 0 i) else none := Layout.list?_tabulate _ below
  obtain ⟨rfl, ⟨l, there, cut⟩, others⟩ := decided.2 1 (by decide) (lists 1 (by decide)) fun i first => by
    obtain rfl : i = 0 := by omega
    rw [lists 0 (by decide)]
    rfl
  exact ⟨c', l, log, stored, there, cut, others⟩

end MemConfig

end Passthrough
