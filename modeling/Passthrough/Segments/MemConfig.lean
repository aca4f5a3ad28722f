import Passthrough.Log
import Passthrough.Protocol.HardwareInfo
import Passthrough.Segments.SegmentError
import Passthrough.Segments.SegmentList

/-!
# Passthrough — memory configurations

The segment lists of a process, one for each scratch pool that it has mapped, in eight numbered places.

* `MemConfig.cut`, `MemConfig.storePool` — a mapped pool is cut into segments and becomes a list.
* `MemConfig.translate` — the address that devices use for an address in the first list.
-/

namespace Passthrough

/-- The segment lists of a process. -/
structure MemConfig where
  lists : Arena SegmentList
  capacity_lists : lists.capacity = 8

/-- What an operation on the segment lists comes to: its answer, the lists as they are afterwards, and the
messages. -/
structure MemConfig.Answer (α : Type) where
  result : Except SegmentError α
  config : MemConfig
  log : List Message

namespace MemConfig

def empty : MemConfig := ⟨.withCapacity 8, Arena.capacity_withCapacity 8⟩

instance : Inhabited MemConfig := ⟨empty⟩

def list? (c : MemConfig) (i : Nat) : Option SegmentList := c.lists.get? i

/-- The base of list `i`. -/
def base? (c : MemConfig) (i : Nat) : Option VirtAddr := (c.list? i).map (·.base)

def len (c : MemConfig) : Nat := c.lists.len

def isEmpty (c : MemConfig) : Bool := c.lists.isEmpty

/-- The numbers of the lists that are not at the same base in `c` and `d`. -/
def movedLists (c d : MemConfig) : List Nat :=
  (List.range maxLists).filter fun i => c.base? i ≠ d.base? i

/-- The configuration with list `i`, which has to be there, replaced. -/
def setList (c : MemConfig) (i : Nat) (l : SegmentList) : MemConfig :=
  ⟨c.lists.set i l, by rw [Arena.capacity_set, c.capacity_lists]⟩

/-- The configuration with a list in the free place `i`. -/
def claimList (c : MemConfig) (i : Nat) (l : SegmentList) : Except ArenaError MemConfig :=
  match h : c.lists.claimAt i l with
  | .error e => .error e
  | .ok lists => .ok ⟨lists, by rw [Arena.capacity_claimAt h, c.capacity_lists]⟩

/-! ## Storing a pool -/

/-- Put segments `k`, `k + 1`, … (`n` of them) of a pool, the first one `offset` bytes behind the start of
the pool, into their slots. -/
def cutFrom (pool : Region) (socket : Int32) (k : Nat) (offset : UInt64) (segments : Arena Segment) :
    Nat → Checked (Except ArenaError (Arena Segment))
  | 0 => .ok (.ok segments)
  | n + 1 => do
    let iova ← pool.phys.add offset
    let addr ← pool.user.add offset
    match segments.claimAt k { iova, addr, length := pageSize, pageSize, socket } with
    | .error e => .ok (.error e)
    | .ok segments =>
      let offset ← addChecked offset pageSize
      cutFrom pool socket (k + 1) offset segments n

/-- A pool cut into `n` segments, all of them in use. -/
def cut (pool : Region) (socket : Int32) (n : Nat) : Checked (Except ArenaError (Arena Segment)) :=
  cutFrom pool socket 0 0 (.withCapacity n) n

/-- Store a mapped pool on `socket` as a new list in the lowest free place.  The answer is the number of
the list. -/
def storePool (c : MemConfig) (pool : Region) (socket : Int32) : Checked (Answer Nat) :=
  if pool.user.isNull then .ok ⟨.error (.unmapped pool.phys), c, []⟩
  else
    let n := (pool.size / pageSize).toNat
    if n = 0 then .ok ⟨.error (.poolTooSmall pool.size), c, []⟩
    else if maxSegments < n then .ok ⟨.error (.poolTooLarge pool.size), c, []⟩
    else match c.lists.firstFree with
    | none => .ok ⟨.error (.noFreeList pool.size), c, []⟩
    | some index => do
      match ← cut pool socket n with
      | .error e => .ok ⟨.error (.arena e), c, []⟩
      | .ok segments =>
        let name := SegmentList.nameFor pageSize socket index
        let list : SegmentList := { name, pageSize, socket, base := pool.user, segments }
        let message : Message :=
          ⟨.debug, name ++ ": " ++ toString n ++ " segments at " ++ pool.user.describe ++ " ("
            ++ pool.phys.describe ++ ")"⟩
        match c.claimList index list with
        | .error e => .ok ⟨.error (.arena e), c, [message]⟩
        | .ok c => .ok ⟨.ok index, c, [message]⟩

/-- Store pools in order, each with its socket; the first failure ends it. -/
def storeAll (c : MemConfig) : List (Region × Int32) → Checked (Except SegmentError MemConfig)
  | [] => .ok (.ok c)
  | (pool, socket) :: pools => do
    let stored ← c.storePool pool socket
    match stored.result with
    | .error e => .ok (.error e)
    | .ok _ => stored.config.storeAll pools

/-! ## Translating addresses -/

/-- The address that devices use for `va`, if `va` lies in the first list: the address of the list's
first segment and as many bytes further on as `va` is from the list's base. -/
def translate (c : MemConfig) (va : VirtAddr) : Checked (Option PhysAddr) :=
  match c.list? 0 with
  | none => .ok none
  | some list =>
    match list.segments.get? 0 with
    | none => .ok none
    | some first => do
      if ← list.contains va then
        let iova ← first.iova.add (va.val - list.base.val)
        .ok (some iova)
      else .ok none

end MemConfig

end Passthrough
