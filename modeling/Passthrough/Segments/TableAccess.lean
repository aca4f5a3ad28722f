import Passthrough.Segments.Layout

/-!
# Passthrough — tables access by access

`Layout.read` and `Layout.write` say what the table of a region is.  Here a table is read and written one
access after the other: every access has to lie in the region, every slot is claimed before it holds
something, and what was written before a failure stays in the region.

* `Packed.fetch32`, `Packed.fetch64`, `Packed.cutOut`, `Packed.layFields` — the accesses.
* `Layout.fetch` — the configuration of a table, word by word.
* `Layout.layCleared`, `Layout.lay` — the table without lists and that of a configuration, field by field,
  each with the answer and the region as it is afterwards.
-/

namespace Passthrough

namespace Packed

/-! ## Accesses -/

def fetch32 (region : ByteArray) (offset : Nat) : Checked UInt32 :=
  (slice region offset 4).map fun bytes => UInt32.ofNat (Wire.leValue bytes)

def fetch64 (region : ByteArray) (offset : Nat) : Checked UInt64 :=
  (slice region offset 8).map fun bytes => UInt64.ofNat (Wire.leValue bytes)

/-- The `n` bytes from `offset` on, all of which must be there, packed. -/
def cutOut (region : ByteArray) (offset n : Nat) : Checked ByteArray := do
  checkRange offset n region.size
  .ok (region.extract offset (offset + n))

/-- A region and where the next bytes are laid over it. -/
structure Cursor where
  region : ByteArray
  offset : Nat

def Cursor.lay (c : Cursor) (bytes : Bytes) : Checked Cursor := do
  let region ← patch c.region c.offset bytes
  .ok ⟨region, c.offset + bytes.length⟩

/-- Fields laid over the region from `offset` on, one behind the other. -/
def layFields (region : ByteArray) (offset : Nat) (fields : List Bytes) : Checked ByteArray :=
  (fields.foldlM Cursor.lay ⟨region, offset⟩).map Cursor.region

end Packed

namespace Layout

open Packed (fetch32 fetch64 cutOut patch layFields)

/-! ## Reading -/

/-- Claim slots `k`, `k + 1`, … (`n` of them) for the records of list `i` that are in use. -/
def fetchSegments (region : ByteArray) (i k : Nat) (segments : Arena Segment) :
    Nat → Checked (Except ArenaError (Arena Segment))
  | 0 => .ok (.ok segments)
  | n + 1 => do
    let offset := segmentOffset i k
    let used ← fetch32 region offset
    if used = 0 then fetchSegments region i (k + 1) segments n
    else do
      let socket ← fetch32 region (offset + 4)
      let iova ← fetch64 region (offset + 8)
      let addr ← fetch64 region (offset + 16)
      let length ← fetch64 region (offset + 24)
      let pageSize ← fetch64 region (offset + 32)
      match segments.claimAt k ⟨⟨iova⟩, ⟨addr⟩, length, pageSize, socket.toInt32⟩ with
      | .error e => .ok (.error e)
      | .ok segments => fetchSegments region i (k + 1) segments n

/-- Claim the place of list `i`, if its header is in use. -/
def fetchList (region : ByteArray) (c : MemConfig) (i : Nat) :
    Checked (Except SegmentError MemConfig) := do
  let offset := listOffset i
  let used ← fetch32 region offset
  if used = 0 then .ok (.ok c)
  else do
    let count ← fetch32 region (offset + 4)
    if maxSegments < count.toNat then .ok (.error (.corrupt .segmentCount))
    else do
      let length ← fetch32 region (offset + 28)
      let letters ← cutOut region (offset + 32) (min length.toNat nameSize)
      match String.fromUTF8? letters with
      | none => .ok (.error (.corrupt .nameEncoding))
      | some name => do
        let pageSize ← fetch64 region (offset + 8)
        let socket ← fetch32 region (offset + 24)
        let base ← fetch64 region (offset + 16)
        match ← fetchSegments region i 0 (.withCapacity count.toNat) count.toNat with
        | .error e => .ok (.error (.arena e))
        | .ok segments =>
          .ok ((c.claimList i ⟨name, pageSize, socket.toInt32, ⟨base⟩, segments⟩).mapError .arena)

/-- Lists `i`, `i + 1`, … (`n` of them).  The first failure ends it. -/
def fetchLists (region : ByteArray) (c : MemConfig) (i : Nat) :
    Nat → Checked (Except SegmentError MemConfig)
  | 0 => .ok (.ok c)
  | n + 1 => do
    match ← fetchList region c i with
    | .error e => .ok (.error e)
    | .ok c => fetchLists region c (i + 1) n

/-- The configuration of a table. -/
def fetch (region : ByteArray) : Checked (Except SegmentError MemConfig) :=
  if region.size < regionSize then .ok (.error (.corrupt .regionTooShort))
  else do
    let found ← fetch32 region 4
    if found ≠ version then .ok (.error (.versionMismatch version found))
    else do
      let lists ← fetch32 region 8
      if lists ≠ UInt32.ofNat maxLists then .ok (.error (.corrupt .capacityMismatch))
      else do
        let segments ← fetch32 region 12
        if segments ≠ UInt32.ofNat maxSegments then .ok (.error (.corrupt .capacityMismatch))
        else fetchLists region .empty 0 maxLists

/-! ## Writing -/

def headerFields : List Bytes :=
  [Wire.bytes32 version, Wire.bytes32 (UInt32.ofNat maxLists),
    Wire.bytes32 (UInt32.ofNat maxSegments)]

def listFields (l : SegmentList) : List Bytes :=
  let name := l.name.toUTF8.toList
  [Wire.bytes32 1, Wire.bytes32 (UInt32.ofNat l.capacity), Wire.bytes64 l.pageSize,
    Wire.bytes64 l.base.val, Wire.bytes32 l.socket.toUInt32,
    Wire.bytes32 (UInt32.ofNat name.length), name ++ List.replicate (nameSize - name.length) 0]

def segmentFields : Option Segment → List Bytes
  | none => [List.replicate segmentSize 0]
  | some s =>
    [Wire.bytes32 1, Wire.bytes32 s.socket.toUInt32, Wire.bytes64 s.iova.val,
      Wire.bytes64 s.addr.val, Wire.bytes64 s.length, Wire.bytes64 s.pageSize]

/-- Lay the table without lists. -/
def layCleared (region : ByteArray) : Checked (Except SegmentError Unit × ByteArray) :=
  if region.size < regionSize then .ok (.error (.corrupt .regionTooShort), region)
  else do
    let region ← layFields region 4 headerFields
    let region ← patch region (listOffset 0) (List.replicate (segmentsOffset - listOffset 0) 0)
    .ok (.ok (), region)

/-- Lay the records of the segments of list `i`. -/
def laySegments (region : ByteArray) (i : Nat) (l : SegmentList) : Checked ByteArray :=
  (List.range l.capacity).foldlM
    (fun region j => layFields region (segmentOffset i j) (segmentFields (l.segments.get? j))) region

/-- Lay lists, each with its number.  The first failure ends it. -/
def layLists (region : ByteArray) :
    List (Nat × SegmentList) → Checked (Except SegmentError Unit × ByteArray)
  | [] => .ok (.ok (), region)
  | (i, l) :: entries =>
    if nameSize < l.name.utf8ByteSize then .ok (.error (.corrupt .nameTooLong), region)
    else do
      let region ← layFields region (listOffset i) (listFields l)
      let region ← laySegments region i l
      layLists region entries

/-- Lay the table of a configuration. -/
def lay (region : ByteArray) (c : MemConfig) : Checked (Except SegmentError Unit × ByteArray) := do
  match ← layCleared region with
  | (.error e, region) => .ok (.error e, region)
  | (.ok (), region) => layLists region c.lists.entries

end Layout

end Passthrough
