import Passthrough.Proofs.Segments.Table
import Passthrough.Sharing.SharedConfig

/-!
# Passthrough — the completion marker

The marker is the first word of the region, and the table begins behind it.  A file that has its size
keeps the whole region in its front pages, so a marker that a primary sets there is what every mapping
reads, and tables that are written later leave it alone.

* `Layout.differsIn_overwrite` — writing a table leaves the marker alone, whatever the configuration.
* `SharedConfig.Marked` — a marker that is set, which is part of the file whatever its size.
* `SharedConfig.marked_of_markComplete`, `SharedConfig.marked_publish_iff` — what a primary does to it.
-/

namespace Passthrough

open Packed (DiffersIn)

namespace Layout

/-! ## Tables leave the marker alone

Nothing is asked of the configuration here: a list that does not fit spoils other lists and not the
marker. -/

theorem differsIn_writeSegments_behind (region : ByteArray) (i : Nat) (l : SegmentList) :
    DiffersIn (fun k => 4 ≤ k) region (writeSegments region i l) := by
  unfold writeSegments
  induction List.range l.capacity generalizing region with
  | nil => exact .refl _ _
  | cons j rest ih =>
    have first := Packed.differsIn_put region (segmentOffset i j) (segmentBytes (l.segments.get? j))
    refine (first.mono fun k hk => ?_).trans (ih _)
    rw [segmentOffset_eq] at hk
    omega

theorem differsIn_writeLists (region : ByteArray) (entries : List (Nat × SegmentList)) :
    DiffersIn (fun k => 4 ≤ k) region (writeLists region entries).2 := by
  induction entries generalizing region with
  | nil => exact .refl _ _
  | cons entry entries ih =>
    obtain ⟨i, l⟩ := entry
    unfold writeLists writeList
    dsimp only
    split
    · -- The name is too long, and what was written before it stays.
      exact .refl _ _
    · next written wrote =>
      split at wrote
      · cases wrote
      · cases wrote
        have header := Packed.differsIn_put region (listOffset i) (listBytes l)
        refine (header.mono fun k hk => ?_).trans
          ((differsIn_writeSegments_behind _ i l).trans (ih _))
        rw [listOffset_eq] at hk
        omega

/-- A table that is written, to the end or not, leaves the marker alone. -/
theorem differsIn_overwrite (region : ByteArray) (c : MemConfig) :
    DiffersIn (fun k => 4 ≤ k) region (overwrite region c).2 := by
  unfold overwrite init
  by_cases short : region.size < regionSize
  · rw [if_pos short]
    exact .refl _ _
  · rw [if_neg short]
    have cleared := (shows_cleared (Nat.le_of_not_lt short)).1
    exact (cleared.mono fun k hk => hk.1).trans (differsIn_writeLists _ _)

end Layout

/-! ## Mappings -/

namespace FileContent

/-- A file of the size of a region keeps the region in its front pages. -/
theorem regionSize_le_front {c : FileContent} (sized : c.size = Layout.regionSize) :
    Layout.regionSize ≤ c.front.size := by
  rw [c.size_front, sized]
  decide

/-- What is stored through a mapping is what a mapping shows, as far as the front pages reach. -/
theorem byteAt_mapped_storeMapped (c : FileContent) (region : ByteArray) {n k : Nat}
    (h : k < c.front.size) :
    Packed.byteAt ((c.storeMapped region).mapped n) k = Packed.byteAt region k := by
  unfold mapped storeMapped
  rw [Packed.byteAt_resize, Packed.byteAt_resize, Packed.size_resize, if_pos (by omega), if_pos h]

/-- The first word of a file. -/
def firstWord (c : FileContent) : UInt32 :=
  UInt32.ofNat (Wire.leValue ((List.range 4).map c.byteAt))

theorem firstWord_congr {c : FileContent} {region : ByteArray}
    (same : ∀ k, k < 4 → c.byteAt k = Packed.byteAt region k) :
    c.firstWord = Packed.word32At region 0 := by
  have bytes : (List.range 4).map c.byteAt = Packed.bytesAt region 0 4 := by
    refine List.map_congr_left fun k hk => ?_
    rw [Nat.zero_add]
    exact same k (List.mem_range.1 hk)
  rw [firstWord, bytes, Packed.word32At]

/-- The first word is what mappings show of it. -/
theorem firstWord_eq {c : FileContent} (room : Layout.regionSize ≤ c.size) :
    c.firstWord = Packed.word32At (c.mapped Layout.regionSize) 0 := by
  have table : 4 ≤ Layout.regionSize := by decide
  refine firstWord_congr fun k hk => ?_
  have front : 4 ≤ frontBytes := by decide
  have pages := le_pagesFor c.size
  have inside : k < c.front.size := by
    rw [c.size_front, frontFor]
    omega
  rw [byteAt, if_neg (by omega), if_pos (by omega), mapped, Packed.byteAt_resize, if_pos (by omega)]

theorem firstWord_resize (c : FileContent) :
    (c.resize Layout.regionSize).firstWord = c.firstWord := by
  have table : 4 ≤ Layout.regionSize := by decide
  have bytes : (List.range 4).map (c.resize Layout.regionSize).byteAt
      = (List.range 4).map c.byteAt := by
    refine List.map_congr_left fun k hk => ?_
    have first := List.mem_range.1 hk
    rw [byteAt_resize, if_pos (by omega)]
  rw [firstWord, firstWord, bytes]

end FileContent

namespace SharedConfig

/-! ## What a primary does -/

section Writes

variable {shared : SharedConfig} (s : FileStore) (c : MemConfig)

theorem publish_of_primary (primary : shared.role = .primary) : shared.publish s c
    = ((Layout.overwrite (region s shared.handle) c).1.mapError .segments,
      s.modify shared.handle.file
        (·.storeMapped (Layout.overwrite (region s shared.handle) c).2)) :=
  if_neg (not_not_intro primary)

theorem publish_of_secondary (secondary : shared.role = .secondary) :
    shared.publish s c = (.error .notPrimary, s) :=
  if_pos (by rw [secondary]; decide)

theorem markComplete_of_primary (primary : shared.role = .primary) : shared.markComplete s
    = (.ok (), s.modify shared.handle.file
      (·.storeMapped (Packed.put (region s shared.handle) 0 (Wire.bytes32 marker)))) :=
  if_neg (not_not_intro primary)

theorem markComplete_of_secondary (secondary : shared.role = .secondary) :
    shared.markComplete s = (.error .notPrimary, s) :=
  if_pos (by rw [secondary]; decide)

end Writes

/-! ## Files with a marker -/

/-- The file has its marker set. -/
def Marked (c : FileContent) : Prop := c.firstWord = marker

/-- The size of a file does not matter to its marker. -/
theorem marked_resize_iff (c : FileContent) : Marked (c.resize Layout.regionSize) ↔ Marked c := by
  rw [Marked, Marked, c.firstWord_resize]

/-- Whoever has the file open sees the marker that is in it. -/
theorem isComplete_iff {shared : SharedConfig} {s : FileStore}
    (room : Layout.regionSize ≤ (s.content shared.handle.file).size) :
    shared.isComplete s = true ↔ Marked (s.content shared.handle.file) := by
  rw [Marked, FileContent.firstWord_eq room]
  exact decide_eq_true_iff

theorem marked_storeMapped_iff {c : FileContent} (sized : c.size = Layout.regionSize)
    (region : ByteArray) : Marked (c.storeMapped region) ↔ Packed.word32At region 0 = marker := by
  have room := FileContent.regionSize_le_front sized
  have table : 4 ≤ Layout.regionSize := by decide
  have same : Packed.word32At ((c.storeMapped region).mapped Layout.regionSize) 0
      = Packed.word32At region 0 := by
    refine Packed.word32At_congr fun k hk => ?_
    exact c.byteAt_mapped_storeMapped region (by omega)
  have size := Nat.le_of_eq (sized.symm.trans (c.size_storeMapped region).symm)
  rw [Marked, FileContent.firstWord_eq size, same]

theorem marked_of_markComplete {c : FileContent} (sized : c.size = Layout.regionSize) :
    Marked (c.storeMapped (Packed.put (c.mapped Layout.regionSize) 0 (Wire.bytes32 marker))) := by
  rw [marked_storeMapped_iff sized]
  refine Packed.word32At_of_holds (Packed.holds_put ?_)
  have room := c.le_size_mapped Layout.regionSize
  have table : 4 ≤ Layout.regionSize := by decide
  rw [Wire.length_bytes32]
  omega

/-- A table that is written, to the end or not, leaves the marker as it was. -/
theorem marked_publish_iff {c : FileContent} (sized : c.size = Layout.regionSize)
    (config : MemConfig) :
    Marked (c.storeMapped (Layout.overwrite (c.mapped Layout.regionSize) config).2) ↔ Marked c := by
  have change := Layout.differsIn_overwrite (c.mapped Layout.regionSize) config
  have same : Packed.word32At (Layout.overwrite (c.mapped Layout.regionSize) config).2 0
      = Packed.word32At (c.mapped Layout.regionSize) 0 :=
    Packed.word32At_congr fun k hk => change.byteAt_eq (0 + k) (by omega)
  rw [marked_storeMapped_iff sized, same, Marked, FileContent.firstWord_eq (Nat.le_of_eq sized.symm)]

end SharedConfig

end Passthrough
