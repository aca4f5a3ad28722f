import Passthrough.Address
import Passthrough.Pages
import Passthrough.SystemError

/-!
# Passthrough — reserved address space

Ranges of a process's address space that are set aside and back nothing.

```text
 lowest            program                                   highest
 ├───────────────────██──────────────────────────────────────────┤ libraries, stacks
                                  ◀── ranges without a place of their own
```

A range is asked for at a base.  The system puts it there if it is free there, and else as high as it
can; it refuses a range that fits nowhere.

Where a system puts ranges is its own affair.  This one is for runs on given inputs; what is said about
reservations in general is said about every way of placing them (`Placement`).

* `AddressSpace.isFree` — whether a range is free.
* `AddressSpace.place` — where the system puts a new range, which is free there (`isFree_of_place`).
-/

namespace Passthrough

/-- A range of addresses. -/
structure AddressRange where
  base : VirtAddr
  length : UInt64
deriving DecidableEq

namespace AddressRange

/-- The range of `length` bytes from address `start` on. -/
def startingAt (start : Nat) (length : UInt64) : AddressRange := ⟨⟨UInt64.ofNat start⟩, length⟩

def start (r : AddressRange) : Nat := r.base.val.toNat

/-- The first address behind the pages of the range, which begins with a page. -/
def pageEnd (r : AddressRange) : Nat := r.start + pagesFor r.length.toNat

def overlaps (a b : AddressRange) : Bool := a.start < b.pageEnd && b.start < a.pageEnd

end AddressRange

/-- The ranges that are set aside. -/
structure AddressSpace where
  held : List AddressRange
deriving DecidableEq, Inhabited

namespace AddressSpace

def empty : AddressSpace := ⟨[]⟩

/-- The lowest address that a range can have. -/
def lowest : Nat := 0x10000

/-- The end of the addresses that ranges can have.  The libraries and stacks of the process come next;
the system chooses their place anew for each process, and this is the middle of its choice. -/
def highest : Nat := 0x7F8000000000

/-- The program of the process and its heap, in the middle of the places that the system has for them. -/
def program : AddressRange := .startingAt 0x55D555554000 0x4000000

/-- What is taken of the address space. -/
def taken (s : AddressSpace) : List AddressRange := program :: s.held

/-- Whether a range is free. -/
def isFree (s : AddressSpace) (r : AddressRange) : Bool :=
  lowest ≤ r.start && r.pageEnd ≤ highest && s.taken.all fun t => !r.overlaps t

/-- Where a range has to begin so as to be at the base it is asked for: on the base's page, but not below
the lowest address.  The null address asks for nothing. -/
def wanted (base : VirtAddr) : Option Nat :=
  let page := pageOf base.val.toNat
  if page = 0 then none else some (max page lowest)

/-- Where a range of `length` bytes begins that ends with the address space or where something is taken. -/
def below (s : AddressSpace) (length : UInt64) : List Nat :=
  (highest :: s.taken.map AddressRange.start).map (· - pagesFor length.toNat)

/-- Where `length` bytes are put that are asked for at `base`. -/
def place (s : AddressSpace) (base : VirtAddr) (length : UInt64) : Except SystemError VirtAddr :=
  let free (start : Nat) : Bool := s.isFree (.startingAt start length)
  if length = 0 then .error .invalidArgument
  else match ((wanted base).filter free).or ((s.below length).filter free).max? with
    | some start => .ok ⟨UInt64.ofNat start⟩
    | none => .error .outOfMemory

def hold (s : AddressSpace) (ranges : List AddressRange) : AddressSpace := ⟨s.held ++ ranges⟩

/-- A range is put where it is free. -/
theorem isFree_of_place {s : AddressSpace} {base b : VirtAddr} {length : UInt64}
    (h : s.place base length = .ok b) : s.isFree ⟨b, length⟩ = true := by
  unfold place at h
  split at h
  · cases h
  · dsimp only at h
    split at h
    · next start hstart =>
      cases h
      rcases Option.or_eq_some_iff.1 hstart with hwanted | ⟨-, hbelow⟩
      · exact (Option.filter_eq_some_iff.1 hwanted).2
      · exact (List.mem_filter.1 (List.max?_mem hbelow)).2
    · cases h

end AddressSpace

end Passthrough
