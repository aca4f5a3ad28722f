import Passthrough.Proofs.Segments.Contents
import Passthrough.Segments.Layout

/-!
# Passthrough — what is written into a table is read from it

A table shows a list at some place if the header of that place and the segment records that the header
counts hold the bytes of the list; it shows none if the in-use word of the header is zero
(`Layout.Shows`).  Writing a list changes its own header and its own records and nothing else, so what a
table shows at the other places stays (`Layout.differsIn_writeSegments`, `Layout.Shows.after`).

* `Layout.exists_write` — a table that is written shows the configuration, whatever was there before.
* `Layout.listAt?_of_shows` — what is shown at a place is read from it.
* `Layout.exists_write_read` — writing succeeds, and reading gives the configuration back.
-/

namespace Passthrough

/-- A table has room for the name and the segments of the list. -/
structure SegmentList.Fits (l : SegmentList) : Prop where
  name : l.name.utf8ByteSize ≤ Layout.nameSize
  capacity : l.capacity ≤ maxSegments

/-- A table has room for every list of the configuration. -/
def MemConfig.Fits (c : MemConfig) : Prop := ∀ i l, c.list? i = some l → l.Fits

/-! ## Arenas and configurations by their view -/

theorem Arena.mem_entries {α : Type} [Inhabited α] {a : Arena α} {i : Nat} {v : α} :
    (i, v) ∈ a.entries ↔ a.get? i = some v := by
  simp only [entries, List.mem_map, List.mem_filter, Prod.exists, List.mem_zipIdx_iff_getElem?,
    Array.getElem?_toList, get?]
  constructor
  · rintro ⟨w, j, ⟨slot, used⟩, same⟩
    cases same
    rw [if_pos used, slot]
  · intro h
    split at h
    · next used => exact ⟨v, i, ⟨h, used⟩, rfl⟩
    · cases h

theorem MemConfig.ext_list? {c d : MemConfig} (h : ∀ i, i < maxLists → c.list? i = d.list? i) :
    c = d := by
  obtain ⟨lists, capacity⟩ := c
  obtain ⟨lists', capacity'⟩ := d
  congr 1
  exact Arena.ext_get? (capacity.trans capacity'.symm) fun i hi => h i (by rwa [capacity] at hi)

theorem MemConfig.lt_of_list? {c : MemConfig} {i : Nat} {l : SegmentList}
    (h : c.list? i = some l) : i < maxLists := by
  have inside := Arena.lt_of_get? h
  rwa [c.capacity_lists] at inside

theorem MemConfig.isUsed_eq_isSome (c : MemConfig) (i : Nat) :
    c.lists.isUsed i = (c.list? i).isSome := Arena.isUsed_eq_isSome ..

@[simp] theorem MemConfig.list?_empty (i : Nat) : MemConfig.empty.list? i = none := by
  rw [list?, empty, Arena.get?_withCapacity]

theorem MemConfig.fits_empty : MemConfig.empty.Fits := by
  intro i l there
  rw [list?_empty] at there
  cases there

namespace Layout

open Packed (byteAt Holds DiffersIn holds_append_iff holds_put differsIn_put word32At_of_holds
  word64At_of_holds)

/-! ## Places of records -/

theorem listOffset_eq (i : Nat) : listOffset i = 16 + 96 * i := by
  simp only [listOffset, headerSize, listHeaderSize]
  omega

theorem segmentOffset_eq (i j : Nat) : segmentOffset i j = 784 + 40 * (65536 * i + j) := by
  simp only [segmentOffset, segmentsOffset, listOffset_eq, maxLists, maxSegments, segmentSize]
  omega

theorem regionSize_eq : regionSize = 784 + 40 * (65536 * 8) := segmentOffset_eq 8 0

theorem segmentsOffset_eq : segmentsOffset = 784 := listOffset_eq 8

theorem length_headerBytes : headerBytes.length = 12 := by
  simp [headerBytes]

theorem length_listBytes {l : SegmentList} (h : l.Fits) : (listBytes l).length = 96 := by
  have name : l.name.toByteArray.size ≤ 64 := h.name
  simp only [listBytes, List.length_append, Wire.length_bytes32, Wire.length_bytes64,
    List.length_replicate, Packed.length_toList, String.toUTF8_eq_toByteArray, nameSize]
  omega

theorem length_segmentBytes (s : Option Segment) : (segmentBytes s).length = 40 := by
  cases s with
  | none => rfl
  | some s => simp [segmentBytes]

/-- The header and the segment records that belong to place `i`. -/
def Place (i k : Nat) : Prop :=
  (listOffset i ≤ k ∧ k < listOffset (i + 1)) ∨ (segmentOffset i 0 ≤ k ∧ k < segmentOffset (i + 1) 0)

/-- The header of place `i` and the segment records that list `l` has there. -/
def Written (i : Nat) (l : SegmentList) (k : Nat) : Prop :=
  (listOffset i ≤ k ∧ k < listOffset (i + 1)) ∨ (segmentOffset i 0 ≤ k ∧ k < segmentOffset i l.capacity)

theorem Written.place {i k : Nat} {l : SegmentList} (fits : l.Fits) (h : Written i l k) : Place i k := by
  have capacity : l.capacity ≤ 65536 := fits.capacity
  refine h.imp_right fun ⟨low, high⟩ => ⟨low, ?_⟩
  rw [segmentOffset_eq] at high ⊢
  omega

/-- What writing a table changes: everything before the segment records but for the marker, and the
records of the lists that are there. -/
def Touched (c : MemConfig) (k : Nat) : Prop :=
  (4 ≤ k ∧ k < segmentsOffset)
    ∨ ∃ i l, c.list? i = some l ∧ segmentOffset i 0 ≤ k ∧ k < segmentOffset i l.capacity

theorem Touched.bounds {c : MemConfig} (fits : c.Fits) {k : Nat} (h : Touched c k) :
    4 ≤ k ∧ k < regionSize := by
  rw [regionSize_eq]
  obtain ⟨low, high⟩ | ⟨i, l, there, low, high⟩ := h
  · rw [segmentsOffset_eq] at high
    omega
  · have place : i < 8 := MemConfig.lt_of_list? there
    have capacity : l.capacity ≤ 65536 := (fits i l there).capacity
    rw [segmentOffset_eq] at low high
    omega

/-! ## Showing a list -/

/-- What a table shows at place `i`. -/
def Shows (region : ByteArray) (i : Nat) : Option SegmentList → Prop
  | none => Holds region (listOffset i) (List.replicate 4 0)
  | some l => Holds region (listOffset i) (listBytes l)
      ∧ ∀ j, j < l.capacity → Holds region (segmentOffset i j) (segmentBytes (l.segments.get? j))

/-- What is shown at a place stays while the bytes of the place stay. -/
theorem Shows.after {area : Nat → Prop} {region region' : ByteArray} {i : Nat}
    {l : Option SegmentList} (shown : Shows region i l) (change : DiffersIn area region region')
    (fits : ∀ l', l = some l' → l'.Fits) (outside : ∀ k, Place i k → ¬area k) : Shows region' i l := by
  cases l with
  | none =>
    refine Holds.after shown change fun k low high => outside k (.inl ⟨low, ?_⟩)
    rw [List.length_replicate] at high
    rw [listOffset_eq] at high ⊢
    omega
  | some l =>
    have fits := fits l rfl
    obtain ⟨header, segments⟩ := shown
    refine ⟨header.after change fun k low high => outside k (.inl ⟨low, ?_⟩), ?_⟩
    · rw [length_listBytes fits, listOffset_eq] at high
      rw [listOffset_eq]
      omega
    · intro j hj
      refine (segments j hj).after change fun k low high => outside k (.inr ?_)
      have room : l.capacity ≤ 65536 := fits.capacity
      rw [length_segmentBytes, segmentOffset_eq] at high
      rw [segmentOffset_eq] at low ⊢
      rw [segmentOffset_eq]
      omega

/-! ## Writing -/

/-- The records of the first `n` segments of a list are written, and nothing else. -/
theorem differsIn_writeSegments (region : ByteArray) (i : Nat) (segments : Arena Segment) (n : Nat)
    (room : segmentOffset i n ≤ region.size) :
    let written := (List.range n).foldl
      (fun region j => Packed.put region (segmentOffset i j) (segmentBytes (segments.get? j))) region
    DiffersIn (fun k => segmentOffset i 0 ≤ k ∧ k < segmentOffset i n) region written
      ∧ ∀ j, j < n → Holds written (segmentOffset i j) (segmentBytes (segments.get? j)) := by
  induction n with
  | zero => exact ⟨.refl _ _, fun j hj => absurd hj (Nat.not_lt_zero j)⟩
  | succ n ih =>
    simp only [segmentOffset_eq] at room ih
    obtain ⟨change, shown⟩ := ih (by omega)
    simp only [List.range_succ, List.foldl_append, List.foldl_cons, List.foldl_nil, segmentOffset_eq]
    generalize List.foldl _ region (List.range n) = written at change shown
    have size := change.size_eq
    have last := differsIn_put written (784 + 40 * (65536 * i + n)) (segmentBytes (segments.get? n))
    have fits : 784 + 40 * (65536 * i + n) + (segmentBytes (segments.get? n)).length
        ≤ written.size := by
      rw [length_segmentBytes, size]
      omega
    rw [length_segmentBytes] at last
    refine ⟨?_, ?_⟩
    · refine (change.mono ?_).trans (last.mono ?_)
      · intro k inside
        omega
      · intro k inside
        omega
    · -- The new record lies behind those that are there.
      intro j hj
      by_cases before : j < n
      · refine (shown j before).after last fun k low high => ?_
        rw [length_segmentBytes] at high
        omega
      · obtain rfl : j = n := by omega
        exact holds_put fits

/-- Writing a list changes its own header and records, and its place shows it then. -/
theorem exists_writeList {region : ByteArray} {i : Nat} {l : SegmentList} (fits : l.Fits)
    (inside : i < maxLists) (room : regionSize ≤ region.size) :
    ∃ region', writeList region (i, l) = .ok region' ∧ DiffersIn (Written i l) region region'
      ∧ Shows region' i (some l) := by
  have inside : i < 8 := inside
  have capacity : l.capacity ≤ 65536 := fits.capacity
  rw [regionSize_eq] at room
  have header := differsIn_put region (listOffset i) (listBytes l)
  rw [length_listBytes fits, listOffset_eq] at header
  have headerRoom : listOffset i + (listBytes l).length ≤ region.size := by
    rw [length_listBytes fits, listOffset_eq]
    omega
  have shown := holds_put headerRoom
  rw [listOffset_eq] at shown
  have size := header.size_eq
  obtain ⟨records, segments⟩ := differsIn_writeSegments (Packed.put region (16 + 96 * i) (listBytes l))
    i l.segments l.capacity (by rw [size, segmentOffset_eq]; omega)
  refine ⟨writeSegments (Packed.put region (listOffset i) (listBytes l)) i l, ?_, ?_, ?_, ?_⟩
  · rw [writeList, if_neg (Nat.not_lt.2 fits.name)]
  · rw [listOffset_eq]
    refine (header.mono ?_).trans (records.mono ?_)
    · intro k hk
      refine .inl ?_
      rw [listOffset_eq, listOffset_eq]
      omega
    · exact fun k hk => .inr hk
  · -- The records lie behind all headers.
    rw [listOffset_eq]
    refine shown.after records fun k low high => ?_
    rw [length_listBytes fits] at high
    rw [segmentOffset_eq]
    omega
  · intro j hj
    rw [listOffset_eq]
    exact segments j hj

/-- No byte belongs to two places. -/
theorem Place.unique {i j k : Nat} (hi : i < maxLists) (hj : j < maxLists) (h : Place i k)
    (h' : Place j k) : i = j := by
  have hi : i < 8 := hi
  have hj : j < 8 := hj
  simp only [Place, listOffset_eq, segmentOffset_eq] at h h'
  omega

theorem Place.bounds {i k : Nat} (hi : i < maxLists) (h : Place i k) : 16 ≤ k ∧ k < regionSize := by
  have hi : i < 8 := hi
  simp only [Place, listOffset_eq, segmentOffset_eq] at h
  rw [regionSize_eq]
  omega

/-- Writing lists changes their headers and records, and the place of each shows it in the end: a place is
written again only by the same list. -/
theorem exists_foldlM_writeList {c : MemConfig} (fits : c.Fits) {region : ByteArray}
    (room : regionSize ≤ region.size) (entries : List (Nat × SegmentList))
    (listed : ∀ i l, (i, l) ∈ entries → c.list? i = some l) :
    ∃ region', entries.foldlM writeList region = .ok region'
      ∧ DiffersIn (fun k => ∃ i l, (i, l) ∈ entries ∧ Written i l k) region region'
      ∧ ∀ i l, (i, l) ∈ entries → Shows region' i (some l) := by
  induction entries generalizing region with
  | nil => exact ⟨region, rfl, .refl _ _, by simp⟩
  | cons entry entries ih =>
    obtain ⟨i, l⟩ := entry
    have first := listed i l List.mem_cons_self
    obtain ⟨region₁, wrote, change, shown⟩ :=
      exists_writeList (fits i l first) (MemConfig.lt_of_list? first) room
    obtain ⟨region', rest, changes, shownRest⟩ := ih (by rw [change.size_eq]; exact room)
      fun j m hm => listed j m (List.mem_cons_of_mem _ hm)
    refine ⟨region', ?_, ?_, ?_⟩
    · rw [List.foldlM_cons, wrote]
      exact rest
    · refine (change.mono ?_).trans (changes.mono ?_)
      · intro k hk
        exact ⟨i, l, List.mem_cons_self, hk⟩
      · rintro k ⟨j, m, hm, hk⟩
        exact ⟨j, m, List.mem_cons_of_mem _ hm, hk⟩
    · intro j m hm
      have there := listed j m hm
      by_cases later : (j, m) ∈ entries
      · exact shownRest j m later
      · have same : (j, m) = (i, l) := (List.mem_cons.1 hm).resolve_right later
        cases same
        -- The other lists are written into other places.
        refine shown.after changes (fun l' hl' => ?_) ?_
        · cases hl'
          exact fits i l first
        · rintro k hk ⟨j, m, hm, hj⟩
          have place := listed j m (List.mem_cons_of_mem _ hm)
          obtain rfl := Place.unique (MemConfig.lt_of_list? first) (MemConfig.lt_of_list? place) hk
            (hj.place (fits j m place))
          rw [first] at place
          cases place
          exact later hm

/-- An empty table shows no list at any place. -/
theorem shows_cleared {region : ByteArray} (room : regionSize ≤ region.size) :
    DiffersIn (fun k => 4 ≤ k ∧ k < segmentsOffset) region (cleared region)
      ∧ Holds (cleared region) 4 headerBytes
      ∧ ∀ i, i < maxLists → Shows (cleared region) i none := by
  rw [regionSize_eq] at room
  have header := differsIn_put region 4 headerBytes
  have headerShown : Holds (Packed.put region 4 headerBytes) 4 headerBytes := holds_put (by
    rw [length_headerBytes]
    omega)
  rw [length_headerBytes] at header
  have size := header.size_eq
  have lists := differsIn_put (Packed.put region 4 headerBytes) (listOffset 0)
    (List.replicate (segmentsOffset - listOffset 0) 0)
  have listsShown : Holds (cleared region) (listOffset 0)
      (List.replicate (segmentsOffset - listOffset 0) 0) := holds_put (by
    rw [List.length_replicate, listOffset_eq, segmentsOffset_eq, size]
    omega)
  rw [List.length_replicate] at lists
  refine ⟨(header.mono ?_).trans (lists.mono ?_), ?_, ?_⟩
  · intro k hk
    rw [segmentsOffset_eq]
    omega
  · intro k hk
    rw [segmentsOffset_eq, listOffset_eq] at hk
    rw [segmentsOffset_eq]
    omega
  · refine headerShown.after lists fun k low high => ?_
    rw [length_headerBytes] at high
    rw [listOffset_eq]
    omega
  · intro i hi
    have hi : i < 8 := hi
    have place : listOffset i = listOffset 0 + 96 * i := by
      rw [listOffset_eq, listOffset_eq]
    show Holds (cleared region) (listOffset i) (List.replicate 4 0)
    rw [place]
    refine listsShown.zeros ?_
    rw [segmentsOffset_eq, listOffset_eq]
    omega

/-- **A table that is written shows the configuration**, whatever stood in the region before.  The
marker, the records of lists that are not there and what lies behind the table are left alone. -/
theorem exists_write {c : MemConfig} (fits : c.Fits) {region : ByteArray}
    (room : regionSize ≤ region.size) :
    ∃ region', write region c = .ok region'
      ∧ DiffersIn (Touched c) region region'
      ∧ Holds region' 4 headerBytes ∧ ∀ i, i < maxLists → Shows region' i (c.list? i) := by
  obtain ⟨change, header, empty⟩ := shows_cleared room
  have room' : regionSize ≤ (cleared region).size := by rwa [change.size_eq]
  obtain ⟨region', wrote, changes, shown⟩ :=
    exists_foldlM_writeList fits room' c.lists.entries fun i l h => Arena.mem_entries.1 h
  refine ⟨region', ?_, ?_, ?_, ?_⟩
  · rw [write_eq, init, if_neg (Nat.not_lt.2 room)]
    exact wrote
  · refine (change.mono fun k hk => .inl hk).trans (changes.mono ?_)
    rintro k ⟨i, l, hl, header | records⟩
    · have place : i < 8 := MemConfig.lt_of_list? (Arena.mem_entries.1 hl)
      rw [listOffset_eq, listOffset_eq] at header
      refine .inl ?_
      rw [segmentsOffset_eq]
      omega
    · exact .inr ⟨i, l, Arena.mem_entries.1 hl, records⟩
  · refine header.after changes ?_
    rintro k low high ⟨i, l, hl, hk⟩
    have there := Arena.mem_entries.1 hl
    have bounds := (hk.place (fits i l there)).bounds (MemConfig.lt_of_list? there)
    rw [length_headerBytes] at high
    omega
  · intro i hi
    cases there : c.list? i with
    | some l => exact shown i l (Arena.mem_entries.2 there)
    | none =>
      refine (empty i hi).after changes (by simp) ?_
      rintro k hk ⟨j, l, hl, hj⟩
      have place := Arena.mem_entries.1 hl
      obtain rfl := Place.unique hi (MemConfig.lt_of_list? place) hk (hj.place (fits j l place))
      exact absurd (there.symm.trans place) (by simp)

/-! ## Reading -/

theorem fromUTF8?_toByteArray (s : String) : String.fromUTF8? s.toByteArray = some s := by
  rw [String.fromUTF8?, dif_pos s.isValidUTF8]
  rfl

theorem utf8ByteSize_of_fromUTF8? {bytes : ByteArray} {s : String}
    (h : String.fromUTF8? bytes = some s) : s.utf8ByteSize = bytes.size := by
  unfold String.fromUTF8? at h
  split at h
  · cases h
    rfl
  · cases h

theorem segmentAt?_of_holds {region : ByteArray} {i j : Nat} {s : Option Segment}
    (h : Holds region (segmentOffset i j) (segmentBytes s)) : segmentAt? region i j = s := by
  unfold segmentAt?
  cases s with
  | none => exact if_pos (Packed.word32At_of_zeros h (by decide))
  | some s =>
    simp only [segmentBytes, holds_append_iff, List.length_append, Wire.length_bytes32,
      Wire.length_bytes64] at h
    obtain ⟨⟨⟨⟨⟨used, socket⟩, iova⟩, addr⟩, length⟩, pageSize⟩ := h
    simp only [Nat.reduceAdd] at iova addr length pageSize
    dsimp only
    rw [word32At_of_holds used, word32At_of_holds socket, word64At_of_holds iova,
      word64At_of_holds addr, word64At_of_holds length, word64At_of_holds pageSize, if_neg (by decide)]
    rfl

/-- The words in the header of a list, and its name behind them. -/
theorem header_of_holds {region : ByteArray} {i : Nat} {l : SegmentList}
    (h : Holds region (listOffset i) (listBytes l)) :
    Packed.word32At region (listOffset i) = 1
      ∧ Packed.word32At region (listOffset i + 4) = UInt32.ofNat l.capacity
      ∧ Packed.word64At region (listOffset i + 8) = l.pageSize
      ∧ Packed.word64At region (listOffset i + 16) = l.base.val
      ∧ Packed.word32At region (listOffset i + 24) = l.socket.toUInt32
      ∧ Packed.word32At region (listOffset i + 28) = UInt32.ofNat l.name.toByteArray.size
      ∧ Holds region (listOffset i + 32) l.name.toByteArray.toList := by
  simp only [listBytes, holds_append_iff, List.length_append, Wire.length_bytes32,
    Wire.length_bytes64, String.toUTF8_eq_toByteArray, Packed.length_toList] at h
  obtain ⟨⟨⟨⟨⟨⟨used, count⟩, pageSize⟩, base⟩, socket⟩, length⟩, letters, -⟩ := h
  exact ⟨word32At_of_holds used, word32At_of_holds count, word64At_of_holds pageSize,
    word64At_of_holds base, word32At_of_holds socket, word32At_of_holds length, letters⟩

theorem toNat_ofNat_le {n : Nat} (h : n ≤ 65536) : (UInt32.ofNat n).toNat = n :=
  UInt32.toNat_ofNat_of_lt' (Nat.lt_of_le_of_lt h (by decide))

/-- What a table shows at a place is read from it, and it has no defect. -/
theorem listAt?_of_shows {region : ByteArray} {i : Nat} {l : Option SegmentList}
    (shown : Shows region i l) (fits : ∀ l', l = some l' → l'.Fits) :
    defect? region i = none ∧ listAt? region i = l := by
  cases l with
  | none =>
    have unused : inUse region i = false := by
      rw [inUse, Packed.word32At_of_zeros shown (by decide)]
      rfl
    constructor
    · rw [defect?, unused]
      rfl
    · rw [listAt?, unused]
      rfl
  | some l =>
    have fits := fits l rfl
    have short : l.name.toByteArray.size ≤ nameSize := fits.name
    obtain ⟨header, segments⟩ := shown
    obtain ⟨used, count, pageSize, base, socket, length, letters⟩ := header_of_holds header
    have hused : inUse region i = true := by
      rw [inUse, used]
      rfl
    have hcount : segmentCount region i = l.capacity := by
      rw [segmentCount, count, toNat_ofNat_le fits.capacity]
    have hname : nameAt? region i = some l.name := by
      unfold nameAt?
      rw [length, toNat_ofNat_le (Nat.le_trans short (by decide)), Nat.min_eq_left short]
      dsimp only
      rw [Packed.extract_of_holds letters, fromUTF8?_toByteArray]
    have hsegments : Arena.tabulate (segmentCount region i) (segmentAt? region i) = l.segments := by
      refine Arena.ext_get? (by rw [Arena.capacity_tabulate]; exact hcount) fun j hj => ?_
      rw [Arena.capacity_tabulate] at hj
      rw [Arena.get?_tabulate, if_pos hj]
      exact segmentAt?_of_holds (segments j (by rwa [← hcount]))
    constructor
    · rw [defect?, hused, hcount, hname, if_neg (by decide), if_neg (Nat.not_lt.2 fits.capacity)]
      rfl
    · rw [listAt?, hused, if_pos rfl, hname, Option.map_some]
      dsimp only
      rw [pageSize, base, socket, hsegments]
      rfl

theorem list?_tabulate (lists : Nat → Option SegmentList) {i : Nat} (hi : i < maxLists) :
    MemConfig.list? ⟨.tabulate 8 lists, Arena.capacity_tabulate ..⟩ i = lists i := by
  rw [MemConfig.list?, Arena.get?_tabulate]
  exact if_pos hi

/-- Reading succeeds exactly on regions that are long enough, follow the layout and have no defect at
any place; it gives what the places say. -/
theorem read_eq_ok_iff {region : ByteArray} {c : MemConfig} :
    read region = .ok c ↔
      regionSize ≤ region.size ∧ Packed.word32At region 4 = version
        ∧ Packed.word32At region 8 = UInt32.ofNat maxLists
        ∧ Packed.word32At region 12 = UInt32.ofNat maxSegments
        ∧ ∀ i, i < maxLists → defect? region i = none ∧ c.list? i = listAt? region i := by
  have sound : (List.range maxLists).findSome? (defect? region) = none
      ↔ ∀ i, i < maxLists → defect? region i = none := by
    simp only [List.findSome?_eq_none_iff, List.mem_range]
  unfold read
  constructor
  · intro h
    split at h
    · cases h
    · next room =>
      dsimp only at h
      split at h
      · cases h
      · next hversion =>
        split at h
        · cases h
        · next capacities =>
          split at h
          · cases h
          · next hsound =>
            cases h
            refine ⟨Nat.le_of_not_lt room, Decidable.not_not.1 hversion,
              Decidable.not_not.1 fun other => capacities (.inl other),
              Decidable.not_not.1 fun other => capacities (.inr other), fun i hi => ?_⟩
            exact ⟨sound.1 hsound i hi, list?_tabulate (listAt? region) hi⟩
  · rintro ⟨room, hversion, hlists, hsegments, places⟩
    have hsound := sound.2 fun i hi => (places i hi).1
    rw [if_neg (Nat.not_lt.2 room), hversion, hlists, hsegments, hsound]
    have same : (⟨.tabulate 8 (listAt? region), Arena.capacity_tabulate ..⟩ : MemConfig) = c := by
      refine MemConfig.ext_list? fun i hi => ?_
      rw [(places i hi).2]
      exact list?_tabulate (listAt? region) hi
    rw [← same]
    rfl

/-! ## Tables of configurations -/

/-- The region has the table of the configuration. -/
structure Tells (region : ByteArray) (c : MemConfig) : Prop where
  room : regionSize ≤ region.size
  header : Holds region 4 headerBytes
  shown : ∀ i, i < maxLists → Shows region i (c.list? i)
  fits : c.Fits

/-- The configuration of a table is read from it. -/
theorem Tells.read {region : ByteArray} {c : MemConfig} (tells : Tells region c) :
    read region = .ok c := by
  have header := tells.header
  simp only [headerBytes, holds_append_iff, List.length_append, Wire.length_bytes32] at header
  obtain ⟨⟨hversion, hlists⟩, hsegments⟩ := header
  refine read_eq_ok_iff.2 ⟨tells.room, word32At_of_holds hversion, word32At_of_holds hlists,
    word32At_of_holds hsegments, ?_⟩
  intro i hi
  obtain ⟨sound, read⟩ := listAt?_of_shows (tells.shown i hi) (tells.fits i)
  exact ⟨sound, read.symm⟩

/-- The marker is no part of the table. -/
theorem Tells.after {region region' : ByteArray} {c : MemConfig} (tells : Tells region c)
    (change : DiffersIn (fun k => k < 4) region region') : Tells region' c where
  room := by
    rw [change.size_eq]
    exact tells.room
  header := tells.header.after change fun k low _ => by omega
  shown i hi := (tells.shown i hi).after change (tells.fits i) fun k place => by
    have bounds := place.bounds hi
    omega
  fits := tells.fits

theorem tells_cleared {region : ByteArray} (room : regionSize ≤ region.size) :
    Tells (cleared region) .empty := by
  obtain ⟨change, header, empty⟩ := shows_cleared room
  refine ⟨by rwa [change.size_eq], header, fun i hi => ?_, MemConfig.fits_empty⟩
  rw [MemConfig.list?_empty]
  exact empty i hi

theorem exists_write_tells {c : MemConfig} (fits : c.Fits) {region : ByteArray}
    (room : regionSize ≤ region.size) :
    ∃ region', write region c = .ok region'
      ∧ DiffersIn (fun k => 4 ≤ k ∧ k < regionSize) region region' ∧ Tells region' c := by
  obtain ⟨region', wrote, change, header, shown⟩ := exists_write fits room
  exact ⟨region', wrote, change.mono fun k hk => hk.bounds fits, by rwa [change.size_eq], header, shown,
    fits⟩

/-- **Writing and reading.**  A configuration whose lists fit is written into any region that is long
enough, and read back from it whole. -/
theorem exists_write_read {c : MemConfig} (fits : c.Fits) {region : ByteArray}
    (room : regionSize ≤ region.size) :
    ∃ region', write region c = .ok region'
      ∧ DiffersIn (fun k => 4 ≤ k ∧ k < regionSize) region region' ∧ read region' = .ok c := by
  obtain ⟨region', wrote, change, tells⟩ := exists_write_tells fits room
  exact ⟨region', wrote, change, tells.read⟩

end Layout

end Passthrough
