import Passthrough.Segments.AddressSpace
import Passthrough.Segments.MemConfig

/-!
# Passthrough — reservations for published lists

A process that attaches to a configuration cannot map the pools, which belong to the process that
published it.  It sets an equally large range aside for each list instead, at the list's base if it can
be had there, and moves its copy of the list to wherever the range is.

* `Placement` — how the system places ranges, any function of what was granted before.
* `reserveLists` — one reservation for each list that has segments.
-/

namespace Passthrough

/-- A range set aside for a list. -/
structure Reservation where
  list : Nat
  range : AddressRange
deriving DecidableEq

/-- Whether the list that a range was set aside for is at the range's base in `c`. -/
def Reservation.isAtBase (r : Reservation) (c : MemConfig) : Bool :=
  c.base? r.list = some r.range.base

/-- Where the system puts a range of some length that is asked for at a base, after it has granted
others; or why it refuses. -/
abbrev Placement : Type := List AddressRange → VirtAddr → UInt64 → Except SystemError VirtAddr

/-- The placements of an address space. -/
def AddressSpace.placement (s : AddressSpace) : Placement :=
  fun granted base length => (s.hold granted).place base length

/-- What comes of reserving: the reservations or the error, the configuration with the lists moved so far,
and the messages. -/
abbrev Reserved : Type := MemConfig.Answer (List Reservation)

/-- Number, base and length of each list that has segments. -/
def wantedRanges (c : MemConfig) : Checked (List (Nat × AddressRange)) :=
  (c.lists.entries.filter fun (_, l) => l.capacity ≠ 0).mapM fun (i, l) => do
    let length ← l.spanBytes
    .ok (i, ⟨l.base, length⟩)

/-- The configuration with list `i` at `base`. -/
def moveList (c : MemConfig) (i : Nat) (base : VirtAddr) : Checked MemConfig :=
  match c.list? i with
  | none => .ok c
  | some l => if l.base = base then .ok c else (l.rebase base).map (c.setList i)

/-- The message about a list that wanted a range and got one at `base`. -/
def grantMessage (l : SegmentList) (wanted : AddressRange) (base : VirtAddr) : Message :=
  if base = wanted.base then
    ⟨.debug, l.name ++ ": reserved " ++ toString wanted.length ++ " bytes at "
      ++ wanted.base.describe⟩
  else
    ⟨.warning, l.name ++ ": " ++ wanted.base.describe ++ " is taken, using " ++ base.describe
      ++ " instead"⟩

/-- Reserve the wanted ranges in order, after those in `granted`.  The first refusal ends it. -/
def reserveRanges (place : Placement) :
    List (Nat × AddressRange) → List Reservation → MemConfig → Checked Reserved
  | [], granted, c => .ok ⟨.ok granted, c, []⟩
  | (i, wanted) :: rest, granted, c =>
    match place (granted.map Reservation.range) wanted.base wanted.length with
    | .error reason =>
      .ok ⟨.error (.reserve wanted.length reason), c,
        [⟨.error, "Cannot reserve memory for memseg list " ++ toString i ++ ": "
          ++ reason.message⟩]⟩
    | .ok base => do
      let message := (c.list? i).map (grantMessage · wanted base)
      let c ← moveList c i base
      let reserved ← reserveRanges place rest (granted ++ [⟨i, base, wanted.length⟩]) c
      .ok { reserved with log := message.toList ++ reserved.log }

/-- Reserve address space for every list that has segments, in order.  Lists whose base could not be had
are moved. -/
def reserveLists (place : Placement) (c : MemConfig) : Checked Reserved := do
  let wanted ← wantedRanges c
  reserveRanges place wanted [] c

end Passthrough
