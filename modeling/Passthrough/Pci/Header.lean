import Passthrough.Fault
import Passthrough.Pci.Register
import Passthrough.Wire

/-!
# Passthrough — configuration headers

The first 64 bytes of a function's configuration space name the vendor and the device and hold the six
base address registers.

* `Header.register` — the register of a slot.
* `Header.isPresent` — whether a slot holds the start of a register range: its register is not zero and
  the register before it does not claim it as an upper half.
* `Header.presentSlots` — the slots that do, in order.
-/

namespace Passthrough

/-- The common header of a configuration space. -/
structure Header where
  bytes : Bytes
  length_bytes : bytes.length = 64
deriving DecidableEq

namespace Header

def size : Nat := 64

def registerOffset : Nat := 16

/-- The header in `bs`, which must be exactly as long. -/
def ofBytes? (bs : Bytes) : Option Header :=
  if h : bs.length = 64 then some ⟨bs, h⟩ else none

def vendorId (h : Header) : UInt16 := Wire.word16At h.bytes 0

def deviceId (h : Header) : UInt16 := Wire.word16At h.bytes 2

def register (h : Header) (slot : Fin 6) : BaseRegister :=
  ⟨Wire.word32At h.bytes (registerOffset + 4 * slot.val)⟩

/-- The register of the slot with number `n`; there are six. -/
def registerAt (h : Header) (n : Nat) : Checked BaseRegister :=
  if hn : n < 6 then .ok (h.register ⟨n, hn⟩) else .error .assertion

/-- Whether the slot before `slot` has the type bits of a 64-bit register. -/
def isClaimed (h : Header) (slot : Fin 6) : Bool :=
  if slot.val = 0 then false else (h.register ⟨slot.val - 1, by omega⟩).is64Bit

/-- Whether `slot` holds the start of a register range. -/
def isPresent (h : Header) (slot : Fin 6) : Bool :=
  !((h.register slot).isZero || h.isClaimed slot)

/-- The slots that hold the start of a register range, in order. -/
def presentSlots (h : Header) : List (Fin 6) := (List.finRange 6).filter h.isPresent

end Header

end Passthrough
