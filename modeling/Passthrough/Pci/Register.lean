/-!
# Passthrough — registers that describe a PCI function

* `PerSlot` — one value for each of the six register slots, with `PerSlot.entry` to read one and
  `PerSlot.put` to replace one.
* `SlotAddress` — device and function number packed into one word, as the platform reports them.
* `BaseRegister` — a base address register: flags in the low four bits, the base above them.
-/

namespace Passthrough

/-- Number of base address registers of a function, and so of register slots. -/
def slotCount : Nat := 6

/-- One value for each register slot. -/
abbrev PerSlot (α : Type) : Type := Vector α 6

namespace PerSlot

variable {α : Type}

def entry (values : PerSlot α) (slot : Fin 6) : α := values[slot]

/-- The values with another one in `slot`. -/
def put (values : PerSlot α) (slot : Fin 6) (a : α) : PerSlot α := values.set slot a

@[simp] theorem getElem?_toList (values : PerSlot α) (slot : Fin 6) :
    values.toList[slot.val]? = some (values.entry slot) := by
  simp [entry]

theorem toList_put (values : PerSlot α) (slot : Fin 6) (a : α) :
    (values.put slot a).toList = values.toList.set slot a :=
  Vector.toList_set ..

@[simp] theorem entry_put (values : PerSlot α) (slot : Fin 6) (a : α) :
    (values.put slot a).entry slot = a :=
  Vector.getElem_set_self _

theorem entry_put_of_ne {values : PerSlot α} {slot t : Fin 6} {a : α} (h : slot ≠ t) :
    (values.put slot a).entry t = values.entry t :=
  Vector.getElem_set_ne _ _ fun heq => h (Fin.ext heq)

@[simp] theorem entry_ofFn (f : Fin 6 → α) (slot : Fin 6) : entry (Vector.ofFn f) slot = f slot :=
  Vector.getElem_ofFn _

end PerSlot

/-- Device number in the high and function number in the low 16 bits. -/
structure SlotAddress where
  raw : UInt32
deriving DecidableEq, Inhabited

namespace SlotAddress

def pack (device function : UInt16) : SlotAddress :=
  ⟨(device.toUInt32 <<< 16) ||| function.toUInt32⟩

def device (s : SlotAddress) : UInt16 := (s.raw >>> 16).toUInt16

def function (s : SlotAddress) : UInt16 := s.raw.toUInt16

end SlotAddress

/-- A base address register. -/
structure BaseRegister where
  raw : UInt32
deriving DecidableEq, Inhabited

namespace BaseRegister

/-- Bit 0: the register is in I/O space. -/
def isIoSpace (r : BaseRegister) : Bool := r.raw &&& 1 ≠ 0

/-- Bits 1 and 2: the kind of memory register. -/
def memoryType (r : BaseRegister) : UInt32 := (r.raw >>> 1) &&& 3

/-- Bit 3: reads have no side effects. -/
def isPrefetchable (r : BaseRegister) : Bool := r.raw &&& 8 ≠ 0

/-- Bits 4 to 31. -/
def addressBits (r : BaseRegister) : UInt32 := r.raw >>> 4

/-- Whether the type bits mark the low half of a 64-bit pair; the next slot then holds the upper 32
bits of the base. -/
def is64Bit (r : BaseRegister) : Bool := r.memoryType = 2

def isZero (r : BaseRegister) : Bool := r.raw = 0

/-- The base with the flags masked off. -/
def base (r : BaseRegister) : UInt32 := r.raw &&& 0xFFFFFFF0

end BaseRegister

end Passthrough
