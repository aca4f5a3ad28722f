import Passthrough.Proofs.Segments.Accesses

/-!
# Passthrough — reading follows the documented layout, whatever the bytes

Here the layout is said once more, with the numbers of its description: list headers of 96 bytes from 16
on, segment records of 40 bytes from 784 on, 65536 of them for each of 8 lists.  A region may hold
anything.

* `Layout.Spoilt` — a header in use that counts too many segments or whose name is no text.
* `Segment.RecordedAt`, `SegmentList.DescribedAt` — what a record says of a segment, and a header and the
  records that it counts of a list.
* `Layout.Stale` — the bytes that no table says anything with: of the marker, of headers and records that
  are not in use, of names behind their end, of records that no header counts, and behind the table.
* `Layout.reads_documented_layout` — reading answers; what it answers is the first thing that is wrong, or
  the described configuration; and stale bytes do not show.
-/

namespace Passthrough

namespace Layout

open Packed (word32At word64At DiffersIn)

/-! ## What the layout says -/

/-- The header of list `i` is in use. -/
def Listed (region : ByteArray) (i : Nat) : Prop := word32At region (16 + 96 * i) ≠ 0

/-- The segment count in the header of list `i`. -/
def countAt (region : ByteArray) (i : Nat) : Nat := (word32At region (16 + 96 * i + 4)).toNat

/-- The end of the name in the header of list `i`. -/
def nameEnd (region : ByteArray) (i : Nat) : Nat :=
  16 + 96 * i + 32 + min (word32At region (16 + 96 * i + 28)).toNat 64

/-- The letters of the name in the header of list `i`. -/
def lettersAt (region : ByteArray) (i : Nat) : ByteArray :=
  region.extract (16 + 96 * i + 32) (nameEnd region i)

/-- Where record `j` of list `i` begins. -/
def recordAt (i j : Nat) : Nat := 784 + 40 * (65536 * i + j)

/-- The header of list `i` is in use and counts too many segments, or its name is no text. -/
def Spoilt (region : ByteArray) (i : Nat) : Prop :=
  Listed region i ∧ (65536 < countAt region i ∨ ∀ name : String, name.toByteArray ≠ lettersAt region i)

end Layout

/-- The record at `offset` says what the segment is. -/
structure Segment.RecordedAt (s : Segment) (region : ByteArray) (offset : Nat) : Prop where
  socket : s.socket.toUInt32 = Packed.word32At region (offset + 4)
  iova : s.iova.val = Packed.word64At region (offset + 8)
  addr : s.addr.val = Packed.word64At region (offset + 16)
  length : s.length = Packed.word64At region (offset + 24)
  pageSize : s.pageSize = Packed.word64At region (offset + 32)

/-- The header of list `i` and the records that it counts say what the list is. -/
structure SegmentList.DescribedAt (l : SegmentList) (region : ByteArray) (i : Nat) : Prop where
  name : l.name.toByteArray = Layout.lettersAt region i
  pageSize : l.pageSize = Packed.word64At region (16 + 96 * i + 8)
  base : l.base.val = Packed.word64At region (16 + 96 * i + 16)
  socket : l.socket.toUInt32 = Packed.word32At region (16 + 96 * i + 24)
  capacity : l.capacity = Layout.countAt region i
  unused : ∀ j, j < l.capacity → Packed.word32At region (Layout.recordAt i j) = 0 →
    l.segments.get? j = none
  segment : ∀ j, j < l.capacity → Packed.word32At region (Layout.recordAt i j) ≠ 0 →
    ∃ s, l.segments.get? j = some s ∧ s.RecordedAt region (Layout.recordAt i j)

namespace Layout

open Packed (word32At word64At DiffersIn)

theorem fromUTF8?_eq_some_iff {bytes : ByteArray} {name : String} :
    String.fromUTF8? bytes = some name ↔ name.toByteArray = bytes := by
  constructor
  · intro h
    unfold String.fromUTF8? at h
    split at h
    · cases h
      rfl
    · cases h
  · rintro rfl
    exact fromUTF8?_toByteArray name

theorem nameAt?_eq (region : ByteArray) (i : Nat) :
    nameAt? region i = String.fromUTF8? (lettersAt region i) := by
  rw [nameAt?, listOffset_eq]
  rfl

theorem segmentCount_eq (region : ByteArray) (i : Nat) : segmentCount region i = countAt region i := by
  rw [segmentCount, listOffset_eq]
  rfl

theorem inUse_iff {region : ByteArray} {i : Nat} : inUse region i = true ↔ Listed region i := by
  rw [inUse, listOffset_eq, decide_eq_true_iff]
  rfl

/-- What is wrong with a spoilt header. -/
theorem defect?_eq_some_iff {region : ByteArray} {i : Nat} {d : Corruption} :
    defect? region i = some d ↔ Spoilt region i
      ∧ d = if 65536 < countAt region i then .segmentCount else .nameEncoding := by
  have unnamed : (nameAt? region i).isNone = true
      ↔ ∀ name : String, name.toByteArray ≠ lettersAt region i := by
    simp only [nameAt?_eq, Option.isNone_iff_eq_none, Option.eq_none_iff_forall_ne_some, ne_eq,
      fromUTF8?_eq_some_iff]
  have many : maxSegments < segmentCount region i ↔ 65536 < countAt region i := by
    rw [segmentCount_eq]
    rfl
  rw [defect?, Spoilt, ← inUse_iff, ← unnamed]
  simp only [many]
  cases inUse region i with
  | false => simp
  | true =>
    rw [if_neg (by decide), and_iff_right rfl]
    by_cases excess : 65536 < countAt region i
    · rw [if_pos excess, if_pos excess, Option.some.injEq, eq_comm, and_iff_right (.inl excess)]
    · rw [if_neg excess, if_neg excess, or_iff_right excess]
      split
      · next none => rw [Option.some.injEq, eq_comm, and_iff_right none]
      · next some => exact iff_of_false (Option.some_ne_none d).symm fun h => some h.1

theorem defect?_eq_none_iff {region : ByteArray} {i : Nat} :
    defect? region i = none ↔ ¬Spoilt region i := by
  constructor
  · intro sound spoilt
    have found := defect?_eq_some_iff.2 ⟨spoilt, rfl⟩
    rw [sound] at found
    cases found
  · intro sound
    exact Option.eq_none_iff_forall_ne_some.2 fun d found => sound (defect?_eq_some_iff.1 found).1

theorem segmentAt?_eq_none {region : ByteArray} {i j : Nat}
    (unused : word32At region (recordAt i j) = 0) : segmentAt? region i j = none := by
  rw [segmentAt?, segmentOffset_eq]
  exact if_pos unused

theorem exists_segmentAt? {region : ByteArray} {i j : Nat}
    (used : word32At region (recordAt i j) ≠ 0) :
    ∃ s, segmentAt? region i j = some s ∧ s.RecordedAt region (recordAt i j) := by
  rw [segmentAt?, segmentOffset_eq]
  exact ⟨_, if_neg used, UInt32.toUInt32_toInt32 _, rfl, rfl, rfl, rfl⟩

theorem listAt?_eq_none {region : ByteArray} {i : Nat} (unlisted : ¬Listed region i) :
    listAt? region i = none := by
  rw [listAt?, Bool.eq_false_iff.2 (mt inUse_iff.1 unlisted)]
  rfl

/-- The list of a header that is in use and not spoilt. -/
theorem exists_listAt? {region : ByteArray} {i : Nat} (listed : Listed region i)
    (sound : ¬Spoilt region i) : ∃ l, listAt? region i = some l ∧ l.DescribedAt region i := by
  obtain ⟨name, letters⟩ : ∃ name : String, name.toByteArray = lettersAt region i := by
    refine Classical.byContradiction fun unnamed => sound ⟨listed, .inr fun name same => ?_⟩
    exact unnamed ⟨name, same⟩
  -- The slots are known by their view from here on.
  obtain ⟨segments, tabulated⟩ :
      ∃ segments, segments = Arena.tabulate (countAt region i) (segmentAt? region i) := ⟨_, rfl⟩
  have capacity : segments.capacity = countAt region i := by rw [tabulated, Arena.capacity_tabulate]
  have slot {j : Nat} (below : j < segments.capacity) : segments.get? j = segmentAt? region i j := by
    rw [capacity] at below
    rw [tabulated, Arena.get?_tabulate, if_pos below]
  have found : listAt? region i = some {
      name
      pageSize := word64At region (16 + 96 * i + 8)
      socket := (word32At region (16 + 96 * i + 24)).toInt32
      base := ⟨word64At region (16 + 96 * i + 16)⟩
      segments } := by
    rw [listAt?, inUse_iff.2 listed, if_pos rfl, nameAt?_eq, fromUTF8?_eq_some_iff.2 letters,
      Option.map_some, listOffset_eq, segmentCount_eq, tabulated]
  refine ⟨_, found, letters, rfl, rfl, UInt32.toUInt32_toInt32 _, capacity, ?_, ?_⟩
  · intro j below unused
    exact (slot below).trans (segmentAt?_eq_none unused)
  · intro j below used
    obtain ⟨s, there, recorded⟩ := exists_segmentAt? used
    exact ⟨s, (slot below).trans there, recorded⟩

theorem not_listed_of_read {region : ByteArray} {c : MemConfig} {i : Nat} (found : read region = .ok c)
    (place : i < 8) (unused : c.list? i = none) : ¬Listed region i := by
  obtain ⟨-, -, -, -, places⟩ := read_eq_ok_iff.1 found
  obtain ⟨sound, same⟩ := places i place
  intro listed
  obtain ⟨l, there, -⟩ := exists_listAt? listed (defect?_eq_none_iff.1 sound)
  rw [unused, there] at same
  cases same

theorem findSome?_range_eq_some {α : Type} {f : Nat → Option α} {n i : Nat} {a : α} (inside : i < n)
    (found : f i = some a) (first : ∀ j, j < i → f j = none) :
    (List.range n).findSome? f = some a := by
  induction n with
  | zero => omega
  | succ n ih =>
    rw [List.range_succ, List.findSome?_append]
    by_cases before : i < n
    · rw [ih before]
      rfl
    · obtain rfl : i = n := by omega
      have none : (List.range i).findSome? f = none :=
        List.findSome?_eq_none_iff.2 fun j hj => first j (List.mem_range.1 hj)
      rw [none, List.findSome?_singleton, found]
      rfl

theorem findSome?_congr {α β : Type} {f g : α → Option β} {l : List α} (h : ∀ a ∈ l, f a = g a) :
    l.findSome? f = l.findSome? g := by
  induction l with
  | nil => rfl
  | cons a l ih =>
    rw [List.findSome?_cons, List.findSome?_cons, h a List.mem_cons_self,
      ih fun b hb => h b (List.mem_cons_of_mem _ hb)]

/-! ## What does not count -/

/-- A byte that is no part of what a table says. -/
inductive Stale (region : ByteArray) (k : Nat) : Prop where
  | marker (before : k < 4)
  /-- The header of a list that is not there, behind its in-use word. -/
  | header {i : Nat} (unlisted : ¬Listed region i) (low : 16 + 96 * i + 4 ≤ k)
      (high : k < 16 + 96 * (i + 1)) (place : i < 8)
  /-- The rest of a name. -/
  | name {i : Nat} (low : nameEnd region i ≤ k) (high : k < 16 + 96 * (i + 1)) (place : i < 8)
  /-- The records of a list that is not there. -/
  | list {i : Nat} (unlisted : ¬Listed region i) (low : recordAt i 0 ≤ k) (high : k < recordAt (i + 1) 0)
  /-- The records that a header does not count. -/
  | uncounted {i : Nat} (low : recordAt i (countAt region i) ≤ k) (high : k < recordAt (i + 1) 0)
  /-- The record of a segment that is not there, behind its in-use word. -/
  | record {i j : Nat} (unused : word32At region (recordAt i j) = 0) (low : recordAt i j + 4 ≤ k)
      (high : k < recordAt i (j + 1)) (slot : j < 65536)
  | behind (low : 20972304 ≤ k)

theorem le_nameEnd (region : ByteArray) (i : Nat) : 16 + 96 * i + 32 ≤ nameEnd region i :=
  Nat.le_add_right ..

theorem nameEnd_le (region : ByteArray) (i : Nat) : nameEnd region i ≤ 16 + 96 * (i + 1) := by
  unfold nameEnd
  omega

/-- The stale bytes among the headers. -/
theorem Stale.of_header {region : ByteArray} {k : Nat} (stale : Stale region k) (low : 4 ≤ k)
    (high : k < 784) : ∃ i, i < 8 ∧ k < 16 + 96 * (i + 1)
      ∧ (¬Listed region i ∧ 16 + 96 * i + 4 ≤ k ∨ nameEnd region i ≤ k) := by
  cases stale with
  | marker before => omega
  | header unlisted low high place => exact ⟨_, place, high, .inl ⟨unlisted, low⟩⟩
  | name low high place => exact ⟨_, place, high, .inr low⟩
  | list unlisted low high =>
    unfold recordAt at low
    omega
  | uncounted low high =>
    unfold recordAt at low
    omega
  | record unused low high slot =>
    unfold recordAt at low
    omega
  | behind low => omega

/-- The stale bytes of a record. -/
theorem Stale.of_record {region : ByteArray} {i j k : Nat} (stale : Stale region k) (place : i < 8)
    (slot : j < 65536) (low : recordAt i j ≤ k) (high : k < recordAt i (j + 1)) :
    ¬Listed region i ∨ countAt region i ≤ j
      ∨ word32At region (recordAt i j) = 0 ∧ recordAt i j + 4 ≤ k := by
  unfold recordAt at low high
  cases stale with
  | marker before => omega
  | header unlisted low' high' place' => omega
  | @name i' low' high' place' => omega
  | @list i' unlisted low' high' =>
    unfold recordAt at low' high'
    obtain rfl : i' = i := by omega
    exact .inl unlisted
  | @uncounted i' low' high' =>
    unfold recordAt at low' high'
    obtain rfl : i' = i := by omega
    exact .inr (.inl (by omega))
  | @record i' j' unused low' high' slot' =>
    unfold recordAt at low' high'
    obtain rfl : i' = i := by omega
    obtain rfl : j' = j := by omega
    exact .inr (.inr ⟨unused, low'⟩)
  | behind low => omega

/-- The header of a list that is there counts up to the end of its name. -/
theorem not_stale_header {region : ByteArray} {i k : Nat} (place : i < 8) (listed : Listed region i)
    (low : 16 + 96 * i ≤ k) (high : k < nameEnd region i) : ¬Stale region k := by
  intro stale
  have last := nameEnd_le region i
  -- A byte lies in one header, so the header that it is stale in is this one.
  obtain ⟨i', place', inside, ⟨unlisted, behind⟩ | behind⟩ := stale.of_header (by omega) (by omega)
  · obtain rfl : i' = i := by omega
    exact unlisted listed
  · have letters := le_nameEnd region i'
    obtain rfl : i' = i := by omega
    omega

section

variable {region region' : ByteArray} (change : DiffersIn (Stale region) region region')

include change

theorem words_of_stale {offset : Nat} (low : 4 ≤ offset) (high : offset + 4 ≤ 16) :
    word32At region' offset = word32At region offset := by
  refine change.word32At_eq fun k low' high' stale => ?_
  obtain ⟨i, -, -, ⟨-, behind⟩ | behind⟩ := stale.of_header (by omega) (by omega)
  · omega
  · have letters := le_nameEnd region i
    omega

theorem listed_of_stale {i : Nat} (place : i < 8) : Listed region' i ↔ Listed region i := by
  have same : word32At region' (16 + 96 * i) = word32At region (16 + 96 * i) := by
    refine change.word32At_eq fun k low high stale => ?_
    obtain ⟨i', -, inside, ⟨-, behind⟩ | behind⟩ := stale.of_header (by omega) (by omega)
    · omega
    · have letters := le_nameEnd region i'
      omega
  rw [Listed, same]
  rfl

section

variable {i : Nat} (place : i < 8) (listed : Listed region i)

include place listed

theorem header32_of_stale {m : Nat} (field : m + 4 ≤ 32) :
    word32At region' (16 + 96 * i + m) = word32At region (16 + 96 * i + m) := by
  have letters := le_nameEnd region i
  exact change.word32At_eq fun k low high => not_stale_header place listed (by omega) (by omega)

theorem header64_of_stale {m : Nat} (field : m + 8 ≤ 32) :
    word64At region' (16 + 96 * i + m) = word64At region (16 + 96 * i + m) := by
  have letters := le_nameEnd region i
  exact change.word64At_eq fun k low high => not_stale_header place listed (by omega) (by omega)

theorem countAt_of_stale : countAt region' i = countAt region i := by
  rw [countAt, header32_of_stale change place listed (by omega)]
  rfl

theorem lettersAt_of_stale : lettersAt region' i = lettersAt region i := by
  have last : nameEnd region' i = nameEnd region i := by
    rw [nameEnd, header32_of_stale change place listed (by omega)]
    rfl
  rw [lettersAt, last]
  exact change.extract_eq fun k low high => not_stale_header place listed (by omega) high

/-- The records that a header counts. -/
theorem segmentAt?_of_stale {j : Nat} (slot : j < 65536) (counted : j < countAt region i) :
    segmentAt? region' i j = segmentAt? region i j := by
  -- Of a record that is in use no byte is stale, and of any other not the in-use word.
  have fresh {k : Nat} (low : recordAt i j ≤ k) (high : k < recordAt i j + 40)
      (used : word32At region (recordAt i j) ≠ 0 ∨ k < recordAt i j + 4) : ¬Stale region k := by
    intro stale
    obtain unlisted | uncounted | ⟨unused, behind⟩ :=
      stale.of_record place slot low (by unfold recordAt at high ⊢; omega)
    · exact unlisted listed
    · omega
    · obtain used | before := used
      · exact used unused
      · omega
  have word : word32At region' (recordAt i j) = word32At region (recordAt i j) :=
    change.word32At_eq fun k low high => fresh low (by omega) (.inr high)
  by_cases unused : word32At region (recordAt i j) = 0
  · rw [segmentAt?_eq_none unused, segmentAt?_eq_none (word.trans unused)]
  have field32 {m : Nat} (field : m + 4 ≤ 40) :
      word32At region' (recordAt i j + m) = word32At region (recordAt i j + m) :=
    change.word32At_eq fun k low high => fresh (by omega) (by omega) (.inl unused)
  have field64 {m : Nat} (field : m + 8 ≤ 40) :
      word64At region' (recordAt i j + m) = word64At region (recordAt i j + m) :=
    change.word64At_eq fun k low high => fresh (by omega) (by omega) (.inl unused)
  have offset : segmentOffset i j = recordAt i j := segmentOffset_eq i j
  rw [segmentAt?, segmentAt?, offset, word, field32 (by omega), field64 (by omega),
    field64 (by omega), field64 (by omega), field64 (by omega)]

end

theorem defect?_of_stale {i : Nat} (place : i < 8) : defect? region' i = defect? region i := by
  by_cases listed : Listed region i
  · have listed' := (listed_of_stale change place).2 listed
    rw [defect?, defect?, inUse_iff.2 listed, inUse_iff.2 listed', nameAt?_eq, nameAt?_eq,
      segmentCount_eq, segmentCount_eq, countAt_of_stale change place listed,
      lettersAt_of_stale change place listed]
  · have listed' := mt (listed_of_stale change place).1 listed
    rw [defect?_eq_none_iff.2 fun spoilt => listed spoilt.1,
      defect?_eq_none_iff.2 fun spoilt => listed' spoilt.1]

theorem listAt?_of_stale {i : Nat} (place : i < 8) (sound : ¬Spoilt region i) :
    listAt? region' i = listAt? region i := by
  by_cases listed : Listed region i
  · have listed' := (listed_of_stale change place).2 listed
    have few : countAt region i ≤ 65536 := Nat.le_of_not_lt fun many => sound ⟨listed, .inl many⟩
    have segments : Arena.tabulate (countAt region i) (segmentAt? region' i)
        = Arena.tabulate (countAt region i) (segmentAt? region i) :=
      Arena.ext_get? (by rw [Arena.capacity_tabulate, Arena.capacity_tabulate]) fun j counted => by
        rw [Arena.capacity_tabulate] at counted
        rw [Arena.get?_tabulate, Arena.get?_tabulate,
          segmentAt?_of_stale change place listed (by omega) counted]
    rw [listAt?, listAt?, inUse_iff.2 listed, inUse_iff.2 listed', nameAt?_eq, nameAt?_eq,
      segmentCount_eq, segmentCount_eq, listOffset_eq, lettersAt_of_stale change place listed,
      countAt_of_stale change place listed, segments]
    dsimp only
    rw [header64_of_stale change place listed (m := 8) (by omega),
      header64_of_stale change place listed (m := 16) (by omega),
      header32_of_stale change place listed (m := 24) (by omega)]
  · have listed' := mt (listed_of_stale change place).1 listed
    rw [listAt?_eq_none listed, listAt?_eq_none listed']

/-- **Stale bytes are not read.** -/
theorem read_of_stale : read region' = read region := by
  have defects : (List.range maxLists).findSome? (defect? region')
      = (List.range maxLists).findSome? (defect? region) :=
    findSome?_congr fun i hi => defect?_of_stale change (List.mem_range.1 hi)
  rw [read, read, change.size_eq, words_of_stale change (by omega) (by omega),
    words_of_stale change (by omega) (by omega), words_of_stale change (by omega) (by omega), defects]
  cases found : (List.range maxLists).findSome? (defect? region) with
  | some d => rfl
  | none =>
    have lists : Arena.tabulate 8 (listAt? region') = Arena.tabulate 8 (listAt? region) :=
      Arena.ext_get? (by rw [Arena.capacity_tabulate, Arena.capacity_tabulate]) fun i place => by
        rw [Arena.capacity_tabulate] at place
        have sound := defect?_eq_none_iff.1 (List.findSome?_eq_none_iff.1 found i (List.mem_range.2 place))
        rw [Arena.get?_tabulate, Arena.get?_tabulate, listAt?_of_stale change place sound]
    simp only [lists]

end

/-- **The documented layout is what is read**, of every region.  Reading answers without an access that is
outside; what it finds wrong is the size, the version, the capacities or the first spoilt header, in this
order; a configuration has the lists whose headers are in use, as headers and records describe them; and
of the stale bytes nothing shows. -/
theorem reads_documented_layout (region : ByteArray) :
    fetch region = .ok (read region)
    ∧ (if region.size < 20972304 then read region = .error (.corrupt .regionTooShort)
      else if word32At region 4 ≠ 1 then
        read region = .error (.versionMismatch 1 (word32At region 4))
      else if word32At region 8 ≠ 8 ∨ word32At region 12 ≠ 65536 then
        read region = .error (.corrupt .capacityMismatch)
      else
        (∀ i < 8, Spoilt region i → (∀ j < i, ¬Spoilt region j) →
          read region
            = .error (.corrupt (if 65536 < countAt region i then .segmentCount else .nameEncoding)))
        ∧ ((∀ i < 8, ¬Spoilt region i) → ∃ c, read region = .ok c
          ∧ ∀ i < 8, (¬Listed region i → c.list? i = none)
            ∧ (Listed region i → ∃ l, c.list? i = some l ∧ l.DescribedAt region i)))
    ∧ ∀ region', DiffersIn (Stale region) region region' → fetch region' = fetch region := by
  refine ⟨fetch_eq region, ?_, fun region' change => ?_⟩
  · have size : regionSize = 20972304 := regionSize_eq
    split
    · next short => exact if_pos (size ▸ short)
    next room =>
    split
    · next other => exact (if_neg (size ▸ room)).trans (if_pos other)
    next same =>
    split
    · next capacities =>
      exact (if_neg (size ▸ room)).trans ((if_neg same).trans (if_pos capacities))
    next capacities =>
    have room : regionSize ≤ region.size := Nat.le_of_not_lt (size ▸ room)
    have follows : word32At region 4 = version := Decidable.not_not.1 same
    have lists : word32At region 8 = UInt32.ofNat maxLists :=
      Decidable.not_not.1 fun other => capacities (.inl other)
    have segments : word32At region 12 = UInt32.ofNat maxSegments :=
      Decidable.not_not.1 fun other => capacities (.inr other)
    constructor
    · intro i place spoilt first
      have found := findSome?_range_eq_some (n := maxLists) place (defect?_eq_some_iff.2 ⟨spoilt, rfl⟩)
        fun j before => defect?_eq_none_iff.2 (first j before)
      rw [read, if_neg (Nat.not_lt.2 room), follows, lists, segments, found]
      rfl
    · intro sound
      refine ⟨⟨.tabulate 8 (listAt? region), Arena.capacity_tabulate ..⟩,
        read_eq_ok_iff.2 ⟨room, follows, lists, segments,
          fun i place => ⟨defect?_eq_none_iff.2 (sound i place), list?_tabulate _ place⟩⟩,
        fun i place => ⟨fun unlisted => ?_, fun listed => ?_⟩⟩
      · rw [list?_tabulate _ place]
        exact listAt?_eq_none unlisted
      · rw [list?_tabulate _ place]
        exact exists_listAt? listed (sound i place)
  · rw [fetch_eq, fetch_eq, read_of_stale change]

theorem reads_documented_layout_hole : ∃ region, fetch region = .ok (.ok MemConfig.holed)
    ∧ ∀ s : Segment, fetch (Packed.put region (recordAt 1 0) (segmentBytes (some s)))
      = .ok (.ok MemConfig.holed) := by
  have fits : MemConfig.holed.Fits := fun i l there => by
    rw [MemConfig.eq_listOf_of_holed there]
    exact MemConfig.fits_listOf (by decide) (MemConfig.lt_of_list? there)
  obtain ⟨region, -, -, found⟩ :=
    exists_write_read fits (Nat.le_of_eq (Packed.size_zeros regionSize).symm)
  obtain ⟨fetched, -, unread⟩ := reads_documented_layout region
  rw [found] at fetched
  refine ⟨region, fetched, fun s => ?_⟩
  refine (unread _ ((Packed.differsIn_put ..).mono fun k ⟨low, high⟩ => ?_)).trans fetched
  have hole : MemConfig.holed.list? 1 = none := list?_tabulate _ (by decide)
  have unlisted : ¬Listed region 1 := not_listed_of_read found (by decide) hole
  rw [length_segmentBytes] at high
  exact .list unlisted low (by unfold recordAt at high ⊢; omega)

end Layout

end Passthrough
