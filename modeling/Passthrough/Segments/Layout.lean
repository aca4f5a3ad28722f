import Passthrough.Segments.MemConfig
import Passthrough.Segments.Packed

/-!
# Passthrough — the layout of published configurations

A memory configuration is published as a table in a region of shared bytes.  All numbers are little-endian.

| offset | bytes | content |
|---|---|---|
| 0 | 4 | completion marker, which the table does not own |
| 4 | 4 | version of the layout |
| 8 | 4 | number of lists |
| 12 | 4 | segments to a list |
| 16 | 96 for each list | list headers |
| 784 | 40 for each segment | segment records, list by list |

A list header holds, in this order, in-use word, segment count, page size, base, socket, length of the
name and 64 bytes for the name; a segment record holds in-use word, socket, device address, address,
length and page size.  An in-use word is zero for a list or segment that is not there.

* `Layout.init`, `Layout.overwrite`, `Layout.write` — an empty table and a configuration's table.
* `Layout.read` — the configuration of a table.
-/

namespace Passthrough.Layout

def version : UInt32 := 1

def headerSize : Nat := 16

def listHeaderSize : Nat := 96

def nameSize : Nat := 64

def segmentSize : Nat := 40

def listOffset (i : Nat) : Nat := headerSize + i * listHeaderSize

def segmentsOffset : Nat := listOffset maxLists

def segmentOffset (i j : Nat) : Nat := segmentsOffset + (i * maxSegments + j) * segmentSize

def regionSize : Nat := segmentOffset maxLists 0

/-! ## Writing -/

/-- The three words of the header that the table owns. -/
def headerBytes : Bytes :=
  Wire.bytes32 version ++ Wire.bytes32 (UInt32.ofNat maxLists)
    ++ Wire.bytes32 (UInt32.ofNat maxSegments)

/-- The header of a list. -/
def listBytes (l : SegmentList) : Bytes :=
  let name := l.name.toUTF8.toList
  Wire.bytes32 1 ++ Wire.bytes32 (UInt32.ofNat l.capacity) ++ Wire.bytes64 l.pageSize
    ++ Wire.bytes64 l.base.val ++ Wire.bytes32 l.socket.toUInt32
    ++ Wire.bytes32 (UInt32.ofNat name.length)
    ++ (name ++ List.replicate (nameSize - name.length) 0)

/-- The record of a segment, or of none. -/
def segmentBytes : Option Segment → Bytes
  | none => List.replicate segmentSize 0
  | some s =>
    Wire.bytes32 1 ++ Wire.bytes32 s.socket.toUInt32 ++ Wire.bytes64 s.iova.val
      ++ Wire.bytes64 s.addr.val ++ Wire.bytes64 s.length ++ Wire.bytes64 s.pageSize

/-- A region that is long enough, with the table without lists written into it. -/
def cleared (region : ByteArray) : ByteArray :=
  let region := Packed.put region 4 headerBytes
  Packed.put region (listOffset 0) (List.replicate (segmentsOffset - listOffset 0) 0)

/-- Write the table without lists. -/
def init (region : ByteArray) : Except SegmentError ByteArray :=
  if region.size < regionSize then .error (.corrupt .regionTooShort) else .ok (cleared region)

/-- Write the records of the segments of list `i`. -/
def writeSegments (region : ByteArray) (i : Nat) (l : SegmentList) : ByteArray :=
  (List.range l.capacity).foldl
    (fun region j => Packed.put region (segmentOffset i j) (segmentBytes (l.segments.get? j)))
    region

/-- Write list `i`. -/
def writeList (region : ByteArray) (entry : Nat × SegmentList) : Except SegmentError ByteArray :=
  let (i, l) := entry
  if nameSize < l.name.utf8ByteSize then .error (.corrupt .nameTooLong)
  else .ok (writeSegments (Packed.put region (listOffset i) (listBytes l)) i l)

/-- Write lists, each with its number, and answer with the region as it is afterwards.  The first list that
cannot be written ends it; those before it stay written. -/
def writeLists (region : ByteArray) : List (Nat × SegmentList) → Except SegmentError Unit × ByteArray
  | [] => (.ok (), region)
  | entry :: entries =>
    match writeList region entry with
    | .error e => (.error e, region)
    | .ok region => writeLists region entries

/-- Write the table of a configuration over a region.  What stood in the place of lists that are not there
is cleared, their segment records are left alone. -/
def overwrite (region : ByteArray) (c : MemConfig) : Except SegmentError Unit × ByteArray :=
  match init region with
  | .error e => (.error e, region)
  | .ok region => writeLists region c.lists.entries

/-- The region with the table of a configuration, if it can be written to the end. -/
def write (region : ByteArray) (c : MemConfig) : Except SegmentError ByteArray :=
  let (result, region) := overwrite region c
  result.map fun () => region

theorem map_writeLists (region : ByteArray) (entries : List (Nat × SegmentList)) :
    ((writeLists region entries).1.map fun () => (writeLists region entries).2)
      = entries.foldlM writeList region := by
  induction entries generalizing region with
  | nil => rfl
  | cons entry entries ih =>
    rw [writeLists, List.foldlM_cons]
    cases writeList region entry with
    | error e => rfl
    | ok region => exact ih region

/-- A table that can be written to the end is written list by list. -/
theorem write_eq (region : ByteArray) (c : MemConfig) :
    write region c = init region >>= (c.lists.entries.foldlM writeList ·) := by
  unfold write overwrite
  cases init region with
  | error e => rfl
  | ok region => exact map_writeLists region c.lists.entries

theorem overwrite_of_write {region region' : ByteArray} {c : MemConfig}
    (h : write region c = .ok region') : overwrite region c = (.ok (), region') := by
  unfold write at h
  generalize overwrite region c = answer at h
  obtain ⟨result, after⟩ := answer
  cases result with
  | error e => cases h
  | ok =>
    cases h
    rfl

/-! ## Reading -/

/-- Segment count in the header of list `i`. -/
def segmentCount (region : ByteArray) (i : Nat) : Nat :=
  (Packed.word32At region (listOffset i + 4)).toNat

/-- The name in the header of list `i`, if it is UTF-8. -/
def nameAt? (region : ByteArray) (i : Nat) : Option String :=
  let length := min (Packed.word32At region (listOffset i + 28)).toNat nameSize
  let start := listOffset i + 32
  String.fromUTF8? (region.extract start (start + length))

def inUse (region : ByteArray) (i : Nat) : Bool := Packed.word32At region (listOffset i) ≠ 0

/-- What is wrong with the header of list `i`, if it is in use. -/
def defect? (region : ByteArray) (i : Nat) : Option Corruption :=
  if !inUse region i then none
  else if maxSegments < segmentCount region i then some .segmentCount
  else if (nameAt? region i).isNone then some .nameEncoding
  else none

/-- Segment `j` of list `i`, if it is in use. -/
def segmentAt? (region : ByteArray) (i j : Nat) : Option Segment :=
  let offset := segmentOffset i j
  if Packed.word32At region offset = 0 then none
  else some {
    socket := (Packed.word32At region (offset + 4)).toInt32
    iova := ⟨Packed.word64At region (offset + 8)⟩
    addr := ⟨Packed.word64At region (offset + 16)⟩
    length := Packed.word64At region (offset + 24)
    pageSize := Packed.word64At region (offset + 32) }

/-- List `i`, if it is in use and has no defect. -/
def listAt? (region : ByteArray) (i : Nat) : Option SegmentList :=
  if inUse region i then
    (nameAt? region i).map fun name =>
      let offset := listOffset i
      { name
        pageSize := Packed.word64At region (offset + 8)
        socket := (Packed.word32At region (offset + 24)).toInt32
        base := ⟨Packed.word64At region (offset + 16)⟩
        segments := .tabulate (segmentCount region i) (segmentAt? region i) }
  else none

/-- The configuration of a table. -/
def read (region : ByteArray) : Except SegmentError MemConfig :=
  if region.size < regionSize then .error (.corrupt .regionTooShort)
  else
    let found := Packed.word32At region 4
    if found ≠ version then .error (.versionMismatch version found)
    else if Packed.word32At region 8 ≠ UInt32.ofNat maxLists
        ∨ Packed.word32At region 12 ≠ UInt32.ofNat maxSegments then
      .error (.corrupt .capacityMismatch)
    else match (List.range maxLists).findSome? (defect? region) with
    | some defect => .error (.corrupt defect)
    | none =>
      .ok ⟨.tabulate 8 (listAt? region), Arena.capacity_tabulate ..⟩

end Passthrough.Layout
