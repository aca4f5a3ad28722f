import Passthrough.Proofs.Segments.Storing
import Passthrough.Segments.TableAccess

/-!
# Passthrough — no access to a table is outside

Reading and writing a table access by access stays inside of every region that is long enough: the
offsets are sums of the sizes of what lies before (`Layout.checkRange_eq`).  What the accesses give and
leave is what `Layout.read` and `Layout.write` say.

* `Layout.fetch_eq` — reading, of every region.  A slot is claimed once, so no claim is refused.
* `Layout.lay_eq_of_short`, `Layout.lay_eq` — writing, of every configuration whose lists fit.
-/

namespace Passthrough

namespace Layout

open Packed (word32At word64At fetch32 fetch64 cutOut patch layFields)

/-- What is said of the numbers below `k` and of `k` is said of those below `k + 1`. -/
theorem ite_lt_succ {α : Type} (f : Nat → Option α) (j k : Nat) :
    (if j < k + 1 then f j else none) = if j = k then f k else if j < k then f j else none := by
  by_cases here : j = k
  · rw [if_pos here, if_pos (by omega), here]
  · rw [if_neg here]
    simp only [show j < k + 1 ↔ j < k by omega]

/-! ## Every access is inside -/

section

variable {region : ByteArray} (room : regionSize ≤ region.size)

include room

theorem checkRange_eq {offset n : Nat} (inside : offset + n ≤ regionSize) :
    checkRange offset n region.size = .ok () := by
  rw [regionSize_eq] at room inside
  unfold checkRange
  rw [UInt64.size, if_neg (by omega), if_neg (by omega)]

theorem fetch32_eq {offset : Nat} (inside : offset + 4 ≤ regionSize) :
    fetch32 region offset = .ok (word32At region offset) := by
  unfold fetch32 Packed.slice
  rw [checkRange_eq room inside]
  rfl

theorem fetch64_eq {offset : Nat} (inside : offset + 8 ≤ regionSize) :
    fetch64 region offset = .ok (word64At region offset) := by
  unfold fetch64 Packed.slice
  rw [checkRange_eq room inside]
  rfl

theorem cutOut_eq {offset n : Nat} (inside : offset + n ≤ regionSize) :
    cutOut region offset n = .ok (region.extract offset (offset + n)) := by
  unfold cutOut
  rw [checkRange_eq room inside]
  rfl

/-- One slot: it is claimed for its record, if that is in use. -/
theorem fetchSegments_succ {i k n : Nat} {segments : Arena Segment} (place : i < maxLists)
    (slot : k < maxSegments) (free : segments.Free k) :
    fetchSegments region i k segments (n + 1)
      = fetchSegments region i (k + 1) (segments.fill k (segmentAt? region i k)) n := by
  have place : i < 8 := place
  have slot : k < 65536 := slot
  have inside {m n : Nat} (h : m + n ≤ 40) : segmentOffset i k + m + n ≤ regionSize := by
    rw [segmentOffset_eq, regionSize_eq]
    omega
  have word : segmentOffset i k + 4 ≤ regionSize := inside (m := 4) (n := 0) (by omega)
  rw [fetchSegments, fetch32_eq room word, Checked.ok_bind]
  by_cases unused : word32At region (segmentOffset i k) = 0
  · have none : segmentAt? region i k = none := if_pos unused
    rw [if_pos unused, none, Arena.fill]
  · have there : segmentAt? region i k = some _ := if_neg unused
    rw [if_neg unused, fetch32_eq room (inside (m := 4) (n := 4) (by omega)),
      fetch64_eq room (inside (m := 8) (n := 8) (by omega)),
      fetch64_eq room (inside (m := 16) (n := 8) (by omega)),
      fetch64_eq room (inside (m := 24) (n := 8) (by omega)),
      fetch64_eq room (inside (m := 32) (n := 8) (by omega))]
    simp only [Checked.ok_bind]
    rw [Arena.claimAt_eq_ok free, there, Arena.fill, dif_pos ⟨free.inside, free.unused⟩]

/-- With the slots before slot `k` as the records say, the rest of the loop makes the others so. -/
theorem fetchSegments_eq {i k n : Nat} {segments : Arena Segment} (place : i < maxLists)
    (few : k + n ≤ maxSegments) (capacity : segments.capacity = k + n)
    (before : ∀ j, segments.get? j = if j < k then segmentAt? region i j else none) :
    fetchSegments region i k segments n
      = .ok (.ok (.tabulate (k + n) (segmentAt? region i))) := by
  induction n generalizing k segments with
  | zero =>
    have all : segments = .tabulate (k + 0) (segmentAt? region i) :=
      Arena.ext_get? (by rw [capacity, Arena.capacity_tabulate]) fun j hj => by
        rw [before, Arena.get?_tabulate]
        rfl
    rw [fetchSegments, all]
  | succ n ih =>
    -- No slot from `k` on was claimed yet.
    have free : segments.Free k :=
      Arena.free_iff.2 ⟨by omega, by rw [before, if_neg (Nat.lt_irrefl k)]⟩
    have capacity' : (segments.fill k (segmentAt? region i k)).capacity = k + 1 + n := by
      rw [Arena.capacity_fill, capacity]
      omega
    have rest := ih (by omega) capacity' fun j => by
      rw [Arena.get?_fill free, before, ite_lt_succ]
    rw [fetchSegments_succ room place (by omega) free, rest, Nat.add_right_comm, Nat.add_assoc]

/-- One place: its defect is the answer, or its list is claimed if there is one. -/
theorem fetchList_eq {i : Nat} (place : i < maxLists) (c : MemConfig) :
    fetchList region c i = .ok (match defect? region i with
      | some d => .error (.corrupt d)
      | none => match listAt? region i with
        | none => .ok c
        | some l => (c.claimList i l).mapError .arena) := by
  have place' : i < 8 := place
  have inside {m n : Nat} (h : m + n ≤ 96) : listOffset i + m + n ≤ regionSize := by
    rw [listOffset_eq, regionSize_eq]
    omega
  have word : listOffset i + 4 ≤ regionSize := inside (m := 4) (n := 0) (by omega)
  rw [fetchList, fetch32_eq room word, Checked.ok_bind]
  by_cases unused : word32At region (listOffset i) = 0
  · have absent : inUse region i = false := decide_eq_false (not_not_intro unused)
    rw [if_pos unused, defect?, listAt?, absent]
    rfl
  -- The count is looked at first and then the name, as for the defect.
  have used : inUse region i = true := decide_eq_true unused
  rw [if_neg unused, defect?, listAt?, used, if_neg (by decide), if_pos rfl,
    fetch32_eq room (inside (m := 4) (n := 4) (by omega)), Checked.ok_bind]
  by_cases many : maxSegments < segmentCount region i
  · rw [if_pos many]
    exact if_pos many
  have short : min (word32At region (listOffset i + 28)).toNat nameSize ≤ 64 := Nat.min_le_right ..
  have few : segmentCount region i ≤ maxSegments := Nat.le_of_not_lt many
  have counted : ¬maxSegments < (word32At region (listOffset i + 4)).toNat := many
  rw [if_neg many, if_neg counted, fetch32_eq room (inside (m := 28) (n := 4) (by omega)),
    Checked.ok_bind, cutOut_eq room (inside (m := 32) (by omega)), Checked.ok_bind]
  have letters : String.fromUTF8? (region.extract (listOffset i + 32) (listOffset i + 32
      + min (word32At region (listOffset i + 28)).toNat nameSize)) = nameAt? region i := rfl
  rw [letters]
  cases nameAt? region i with
  | none => rfl
  | some name =>
    have segments : fetchSegments region i 0 (.withCapacity (segmentCount region i))
        (segmentCount region i) = .ok (.ok (.tabulate (0 + segmentCount region i) (segmentAt? region i))) :=
      fetchSegments_eq room place (by omega) (by simp) (by simp)
    rw [Nat.zero_add] at segments
    have count : (word32At region (listOffset i + 4)).toNat = segmentCount region i := rfl
    dsimp only
    rw [fetch64_eq room (inside (m := 8) (n := 8) (by omega)), Checked.ok_bind,
      fetch32_eq room (inside (m := 24) (n := 4) (by omega)), Checked.ok_bind,
      fetch64_eq room (inside (m := 16) (n := 8) (by omega)), Checked.ok_bind, count, segments,
      Checked.ok_bind]
    rfl

/-- With the places before place `i` read, the first defect of the others is the answer, and if there is
none the configuration of the table. -/
theorem fetchLists_eq {c : MemConfig} {i n : Nat} (all : i + n = maxLists)
    (before : ∀ j, c.list? j = if j < i then listAt? region j else none) :
    fetchLists region c i n
      = .ok (match (List.range' i n).findSome? (defect? region) with
        | some d => .error (.corrupt d)
        | none => .ok ⟨.tabulate 8 (listAt? region), Arena.capacity_tabulate ..⟩) := by
  induction n generalizing c i with
  | zero =>
    have same : c = ⟨.tabulate 8 (listAt? region), Arena.capacity_tabulate ..⟩ :=
      MemConfig.ext_list? fun j hj => by
        rw [before, if_pos (by omega), list?_tabulate _ hj]
    rw [fetchLists, same]
    rfl
  | succ n ih =>
    have free : c.list? i = none := by rw [before, if_neg (Nat.lt_irrefl i)]
    have place : i < maxLists := by omega
    have later (c' : MemConfig)
        (lists : ∀ j, c'.list? j = if j = i then listAt? region i else c.list? j) :
        fetchLists region c' (i + 1) n = _ := ih (by omega) fun j => by
      rw [lists, before, ite_lt_succ]
    rw [fetchLists, fetchList_eq room place, Checked.ok_bind, List.range'_succ, List.findSome?_cons]
    cases defect? region i with
    | some d => rfl
    | none =>
      -- Every place is read once, so its slot is free.
      cases listed : listAt? region i with
      | none =>
        refine later c fun j => ?_
        split
        · next here => rw [here, free, listed]
        · rfl
      | some l =>
        obtain ⟨c', claimed, lists⟩ := MemConfig.exists_claimList place free l
        dsimp only
        rw [claimed]
        exact later c' fun j => by rw [lists, listed]

end

/-- **No access is outside and no slot is refused**: reading access by access answers, and what it answers
is the configuration of the table. -/
theorem fetch_eq (region : ByteArray) : fetch region = .ok (read region) := by
  unfold fetch read
  by_cases short : region.size < regionSize
  · rw [if_pos short, if_pos short]
  have room := Nat.le_of_not_lt short
  have inside {n : Nat} (h : n ≤ 16) : n ≤ regionSize := by
    rw [regionSize_eq]
    omega
  rw [if_neg short, if_neg short, fetch32_eq room (inside (by omega)), Checked.ok_bind]
  dsimp only
  by_cases other : word32At region 4 = version
  · rw [if_neg (not_not_intro other), if_neg (not_not_intro other),
      fetch32_eq room (inside (by omega)), Checked.ok_bind]
    by_cases lists : word32At region 8 = UInt32.ofNat maxLists
    · rw [if_neg (not_not_intro lists), fetch32_eq room (inside (by omega)), Checked.ok_bind]
      by_cases segments : word32At region 12 = UInt32.ofNat maxSegments
      · rw [if_neg (not_not_intro segments), if_neg (by simp [lists, segments]), List.range_eq_range']
        exact fetchLists_eq room (Nat.zero_add _) (by simp)
      · rw [if_pos segments, if_pos (.inr segments)]
    · rw [if_pos lists, if_pos (.inl lists)]
  · rw [if_pos other, if_pos other]

/-! ## Writing -/

theorem put_append (region : ByteArray) (offset : Nat) (first second : Bytes) :
    Packed.put region offset (first ++ second)
      = Packed.put (Packed.put region offset first) (offset + first.length) second := by
  induction first generalizing region offset with
  | nil => rfl
  | cons b first ih =>
    rw [List.cons_append, Packed.put, Packed.put, ih, List.length_cons, Nat.add_assoc,
      Nat.add_comm 1]

theorem flatten_headerFields : headerFields.flatten = headerBytes := by
  simp [headerFields, headerBytes]

theorem flatten_listFields (l : SegmentList) : (listFields l).flatten = listBytes l := by
  simp [listFields, listBytes]

theorem flatten_segmentFields (s : Option Segment) : (segmentFields s).flatten = segmentBytes s := by
  cases s with
  | none => simp [segmentFields, segmentBytes]
  | some s => simp [segmentFields, segmentBytes]

section

variable {region : ByteArray} (room : regionSize ≤ region.size)

include room

theorem room_put (offset : Nat) (bytes : Bytes) :
    regionSize ≤ (Packed.put region offset bytes).size := by
  rw [Packed.size_put]
  exact room

theorem patch_eq {offset : Nat} {bytes : Bytes} (inside : offset + bytes.length ≤ regionSize) :
    patch region offset bytes = .ok (Packed.put region offset bytes) := by
  unfold patch
  rw [checkRange_eq room inside]
  rfl

/-- Fields that are laid one behind the other are their bytes laid at once. -/
theorem layFields_eq {offset : Nat} {fields : List Bytes}
    (inside : offset + fields.flatten.length ≤ regionSize) :
    layFields region offset fields = .ok (Packed.put region offset fields.flatten) := by
  suffices h : fields.foldlM Packed.Cursor.lay ⟨region, offset⟩
      = .ok ⟨Packed.put region offset fields.flatten, offset + fields.flatten.length⟩ by
    rw [layFields, h]
    rfl
  induction fields generalizing region offset with
  | nil => rfl
  | cons bytes fields ih =>
    rw [List.flatten_cons, List.length_append] at inside
    have stays : offset + bytes.length ≤ regionSize := by omega
    have first : Packed.Cursor.lay ⟨region, offset⟩ bytes
        = .ok ⟨Packed.put region offset bytes, offset + bytes.length⟩ := by
      rw [Packed.Cursor.lay, patch_eq room stays]
      rfl
    rw [List.foldlM_cons, first, Checked.ok_bind, ih (room_put room _ _) (by omega),
      List.flatten_cons, put_append, List.length_append, Nat.add_assoc]

theorem layCleared_eq : layCleared region = .ok (.ok (), cleared region) := by
  have header : 4 + headerFields.flatten.length ≤ regionSize := by
    rw [flatten_headerFields, length_headerBytes, regionSize_eq]
    omega
  have lists : listOffset 0 + (List.replicate (segmentsOffset - listOffset 0) (0 : UInt8)).length
      ≤ regionSize := by
    rw [List.length_replicate, listOffset_eq, segmentsOffset_eq, regionSize_eq]
    omega
  rw [layCleared, if_neg (Nat.not_lt.2 room), layFields_eq room header, Checked.ok_bind,
    flatten_headerFields, patch_eq (room_put room _ _) lists, Checked.ok_bind, cleared]

theorem laySegments_eq {i : Nat} {l : SegmentList} (place : i < maxLists)
    (few : l.capacity ≤ maxSegments) : laySegments region i l = .ok (writeSegments region i l) := by
  have place : i < 8 := place
  have few : l.capacity ≤ 65536 := few
  have first {n : Nat} (below : n ≤ l.capacity) :
      (List.range n).foldlM
        (fun region j => layFields region (segmentOffset i j) (segmentFields (l.segments.get? j))) region
      = .ok ((List.range n).foldl
        (fun region j => Packed.put region (segmentOffset i j) (segmentBytes (l.segments.get? j)))
        region) := by
    induction n with
    | zero => rfl
    | succ n ih =>
      have inside : segmentOffset i n + (segmentFields (l.segments.get? n)).flatten.length
          ≤ regionSize := by
        rw [flatten_segmentFields, length_segmentBytes, segmentOffset_eq, regionSize_eq]
        omega
      have last := (differsIn_writeSegments region i l.segments n (by
        rw [regionSize_eq] at room
        rw [segmentOffset_eq]
        omega)).1.size_eq
      rw [List.range_succ, List.foldlM_append, ih (by omega), Checked.ok_bind, List.foldl_append,
        List.foldlM_cons, layFields_eq (by rwa [last]) inside, flatten_segmentFields]
      rfl
  exact first (Nat.le_refl _)

end

/-- Lists are laid as they are written. -/
theorem layLists_eq {c : MemConfig} (fits : c.Fits) {region region' : ByteArray}
    (room : regionSize ≤ region.size) {entries : List (Nat × SegmentList)}
    (listed : ∀ i l, (i, l) ∈ entries → c.list? i = some l)
    (wrote : entries.foldlM writeList region = .ok region') :
    layLists region entries = .ok (.ok (), region') := by
  induction entries generalizing region with
  | nil =>
    cases wrote
    rfl
  | cons entry entries ih =>
    obtain ⟨i, l⟩ := entry
    have there := listed i l List.mem_cons_self
    have fits' := fits i l there
    have place := MemConfig.lt_of_list? there
    have header : listOffset i + (listFields l).flatten.length ≤ regionSize := by
      have place : i < 8 := place
      rw [flatten_listFields, length_listBytes fits', listOffset_eq, regionSize_eq]
      omega
    -- Laying the first list leaves the region that writing it leaves.
    obtain ⟨region₁, wroteFirst, change, -⟩ := exists_writeList fits' place room
    rw [List.foldlM_cons, wroteFirst] at wrote
    have rest := ih (by rwa [change.size_eq]) (fun j m hm => listed j m (List.mem_cons_of_mem _ hm))
      wrote
    rw [writeList, if_neg (Nat.not_lt.2 fits'.name)] at wroteFirst
    cases wroteFirst
    rw [layLists, if_neg (Nat.not_lt.2 fits'.name), layFields_eq room header, Checked.ok_bind,
      laySegments_eq (room_put room _ _) place fits'.capacity, Checked.ok_bind,
      flatten_listFields, rest]

/-- A region that is too short is refused as it is. -/
theorem lay_eq_of_short {region : ByteArray} (short : region.size < regionSize) (c : MemConfig) :
    layCleared region = .ok (.error (.corrupt .regionTooShort), region)
      ∧ lay region c = .ok (.error (.corrupt .regionTooShort), region) := by
  have refused : layCleared region = .ok (.error (.corrupt .regionTooShort), region) := if_pos short
  refine ⟨refused, ?_⟩
  rw [lay, refused]
  rfl

/-- **A table is laid as it is written**, if there is room for its lists. -/
theorem lay_eq {c : MemConfig} (fits : c.Fits) {region region' : ByteArray}
    (wrote : write region c = .ok region') : lay region c = .ok (.ok (), region') := by
  rw [write_eq, init] at wrote
  split at wrote
  · cases wrote
  · next long =>
    have room := Nat.le_of_not_lt long
    have room' : regionSize ≤ (cleared region).size := by rwa [(shows_cleared room).1.size_eq]
    rw [lay, layCleared_eq room, Checked.ok_bind]
    exact layLists_eq fits room' (fun i l h => Arena.mem_entries.1 h) wrote

end Layout

end Passthrough
