import Passthrough.Proofs.Segments.Accesses

/-!
# Passthrough — writing a table touches the records of its lists only

A table is written over what stood in the region before, and others may look at it meanwhile.  So it
matters which bytes are written at all: those of the headers behind the marker, and the records of the
segments that the lists of the configuration have room for (`Layout.HasRecord`).

The place of a record is the sum of two strides, one for its list and one for its segment.  As no list has
more segments than there is room for between the strides, no two records share a byte
(`Layout.HasRecord.disjoint`).

* `Layout.exists_record_of_touched` — a byte that is written is in a header or in a record.
* `MemConfig.Attainable.writes_own_records` — what writing does, of every region and configuration.
-/

namespace Passthrough

open Packed (DiffersIn byteAt)

namespace Layout

/-- List `i` is there and has room for segment `j`. -/
def HasRecord (c : MemConfig) (i j : Nat) : Prop := ∃ l, c.list? i = some l ∧ j < l.capacity

/-- Byte `k` is one of the 40 bytes of the record of segment `j` of list `i`. -/
def InRecord (i j k : Nat) : Prop := segmentOffset i j ≤ k ∧ k < segmentOffset i j + 40

namespace HasRecord

variable {c : MemConfig} (fits : c.Fits) {i j i' j' : Nat}

include fits

theorem lt (record : HasRecord c i j) : i < 8 ∧ j < 65536 := by
  obtain ⟨l, there, inside⟩ := record
  exact ⟨MemConfig.lt_of_list? there, Nat.lt_of_lt_of_le inside (fits i l there).capacity⟩

/-- Records lie behind all headers and inside of the table. -/
theorem bounds (record : HasRecord c i j) :
    784 ≤ segmentOffset i j ∧ segmentOffset i j + 40 ≤ 20972304 := by
  obtain ⟨place, slot⟩ := record.lt fits
  rw [segmentOffset_eq]
  omega

/-- No byte belongs to two records. -/
theorem disjoint (record : HasRecord c i j) (record' : HasRecord c i' j') (other : (i, j) ≠ (i', j'))
    (k : Nat) : ¬(InRecord i j k ∧ InRecord i' j' k) := by
  obtain ⟨place, slot⟩ := record.lt fits
  obtain ⟨place', slot'⟩ := record'.lt fits
  rintro ⟨⟨low, high⟩, low', high'⟩
  rw [segmentOffset_eq] at low high low' high'
  have sameList : i = i' := by omega
  have sameSlot : j = j' := by omega
  exact other (by rw [sameList, sameSlot])

end HasRecord

theorem exists_record_of_touched {c : MemConfig} {k : Nat} (touched : Touched c k) :
    (4 ≤ k ∧ k < 784) ∨ ∃ i j, HasRecord c i j ∧ InRecord i j k := by
  obtain ⟨low, high⟩ | ⟨i, l, there, low, high⟩ := touched
  · rw [segmentsOffset_eq] at high
    exact .inl ⟨low, high⟩
  · rw [segmentOffset_eq] at low high
    -- The record is found by dividing by the inner stride.
    refine .inr ⟨i, (k - (784 + 40 * (65536 * i))) / 40, ⟨l, there, by omega⟩, ?_⟩
    rw [InRecord, segmentOffset_eq]
    omega

end Layout

namespace MemConfig

/-- **Writing touches its own records only**, for every configuration that a process comes to and every
region.  A region that is too short is refused and stays as it is.  In any other no access is outside, and
the configuration is there afterwards; a byte that changes is one of the headers behind the marker, or of
the record of a segment that some list has room for.  Records share no byte with each other or with a
header. -/
theorem Attainable.writes_own_records {c : MemConfig} (attainable : Attainable c)
    (region : ByteArray) :
    (region.size < 20972304 →
      Layout.layCleared region = .ok (.error (.corrupt .regionTooShort), region)
      ∧ Layout.lay region c = .ok (.error (.corrupt .regionTooShort), region))
    ∧ (20972304 ≤ region.size → ∃ region', Layout.lay region c = .ok (.ok (), region')
      ∧ Layout.write region c = .ok region' ∧ Layout.read region' = .ok c
      ∧ region'.size = region.size
      ∧ (∀ k, byteAt region' k ≠ byteAt region k →
        (4 ≤ k ∧ k < 784) ∨ ∃ i j, Layout.HasRecord c i j ∧ Layout.InRecord i j k)
      ∧ Packed.word32At region' 0 = Packed.word32At region 0)
    ∧ ∀ i j, Layout.HasRecord c i j →
      784 ≤ Layout.segmentOffset i j ∧ Layout.segmentOffset i j + 40 ≤ 20972304
      ∧ ∀ i' j', Layout.HasRecord c i' j' → (i, j) ≠ (i', j') →
        ∀ k, ¬(Layout.InRecord i j k ∧ Layout.InRecord i' j' k) := by
  have size : Layout.regionSize = 20972304 := Layout.regionSize_eq
  have fits := attainable.fits
  refine ⟨fun short => Layout.lay_eq_of_short (size ▸ short) c, fun room => ?_, fun i j record => ?_⟩
  · obtain ⟨region', wrote, change, header, shown⟩ := Layout.exists_write fits (size ▸ room)
    have tells : Layout.Tells region' c := ⟨by rwa [change.size_eq, size], header, shown, fits⟩
    refine ⟨region', Layout.lay_eq fits wrote, wrote, tells.read, change.size_eq, fun k changed => ?_, ?_⟩
    · by_cases touched : Layout.Touched c k
      · exact Layout.exists_record_of_touched touched
      · exact absurd (change.byteAt_eq k touched) changed
    · refine change.word32At_eq fun k low high touched => ?_
      have bounds := touched.bounds fits
      omega
  · obtain ⟨low, high⟩ := record.bounds fits
    exact ⟨low, high, fun i' j' record' other k => record.disjoint fits record' other k⟩

/-- A list of two segments, and two regions: one of no bytes and one with a segment of another list. -/
theorem writes_own_records_twoPages : ∃ c region', c.len = 1
    ∧ Layout.lay .empty c = .ok (.error (.corrupt .regionTooShort), .empty)
    ∧ Layout.lay staleRegion c = .ok (.ok (), region') ∧ Layout.read region' = .ok c
    ∧ Packed.word32At region' 0 = Packed.word32At staleRegion 0 := by
  obtain ⟨index, c, log, stored, one⟩ := exists_stored_twoPages
  have attainable : Attainable c := .stored .empty stored
  have size : staleRegion.size = Layout.regionSize := by
    rw [staleRegion, Packed.size_put, Packed.size_zeros]
  have long : 20972304 ≤ staleRegion.size := Nat.le_of_eq (size.trans Layout.regionSize_eq).symm
  obtain ⟨region', laid, -, found, -, -, marker⟩ := (attainable.writes_own_records staleRegion).2.1 long
  exact ⟨c, region', one, ((attainable.writes_own_records .empty).1 (by decide)).2, laid, found, marker⟩

end MemConfig

end Passthrough
