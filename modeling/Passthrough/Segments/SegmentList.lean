import Passthrough.Address
import Passthrough.Segments.Arena

/-!
# Passthrough — segment lists

A scratch pool is cut into pages, the segments, and the segments of one pool form a list.

```text
 pool (physical P, virtual V)
 ┌────────┬────────┬────────┬─────┬────────┐
 │ seg 0  │ seg 1  │ seg 2  │ ... │ seg n-1│   n = pool size / page size
 └────────┴────────┴────────┴─────┴────────┘
  P, V     P+4K    P+8K            P+(n-1)*4K
```

* `SegmentList.spanBytes`, `SegmentList.contains` — the address range of a list.
* `SegmentList.rebase` — the list moved to another base, every segment keeping its offset.
-/

namespace Passthrough

def pageSize : UInt64 := 4096

def maxLists : Nat := 8

def maxSegments : Nat := 65536

/-- One page of a scratch pool. -/
structure Segment where
  /-- Where devices see it. -/
  iova : PhysAddr
  /-- Where the process sees it. -/
  addr : VirtAddr
  length : UInt64
  pageSize : UInt64
  socket : Int32
deriving DecidableEq, Inhabited

/-- The segments of one scratch pool. -/
structure SegmentList where
  name : String
  pageSize : UInt64
  socket : Int32
  base : VirtAddr
  segments : Arena Segment
deriving Inhabited

namespace SegmentList

/-- The name of the list with number `index`: page size in KiB, socket and number. -/
def nameFor (pageSize : UInt64) (socket : Int32) (index : Nat) : String :=
  "memseg-" ++ toString (pageSize >>> 10).toNat ++ "k-" ++ toString socket.toInt ++ "-"
    ++ toString index

def capacity (l : SegmentList) : Nat := l.segments.capacity

def spanBytes (l : SegmentList) : Checked UInt64 :=
  mulChecked l.pageSize (UInt64.ofNat l.capacity)

def contains (l : SegmentList) (va : VirtAddr) : Checked Bool :=
  if va.val < l.base.val then .ok false
  else do
    let span ← l.spanBytes
    .ok (va.val - l.base.val < span)

/-- A segment moved from a range at `old` to one at `new`. -/
def moveSegment (old new : VirtAddr) (s : Segment) : Checked Segment := do
  let offset ← subChecked s.addr.val old.val
  let addr ← new.add offset
  .ok { s with addr }

def rebase (l : SegmentList) (base : VirtAddr) : Checked SegmentList := do
  let segments ← l.segments.mapUsed (moveSegment l.base base)
  .ok { l with base, segments }

end SegmentList

end Passthrough
