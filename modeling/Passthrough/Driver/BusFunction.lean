import Passthrough.Fault
import Passthrough.Pci.Header
import Passthrough.Driver.Calls

/-!
# Passthrough — a PCI function on its bus

The bus tells a driver which function it is bound to and lets it read and write the function's
configuration space, 256 bytes of which a prefix may be all that can be read.

* `BusFunction.read`, `BusFunction.write` — accesses, cut off at the end of what is there; each counts.
* `BusFunction.resources` — the resource list that goes with the registers.
-/

namespace Passthrough

/-- A PCI function as the bus presents it. -/
structure BusFunction where
  /-- The number of the bus, if the platform knows it. -/
  busNumber : Option UInt32
  slot : Option SlotAddress
  numaNode : Option UInt16
  space : Bytes
  /-- How many bytes of it can be read. -/
  readable : Nat
  /-- How often it was accessed. -/
  accesses : Nat
  length_space : space.length = 256
deriving DecidableEq

namespace BusFunction

def spaceSize : Nat := 256

/-- Length of every memory resource that `resources` lists. -/
def resourceLength : UInt64 := 0x20000

/-- The function with its configuration space overwritten from `offset` on. -/
def patch (f : BusFunction) (offset : Nat) (data : Bytes)
    (h : offset + data.length ≤ 256) : BusFunction :=
  { f with
    space := Wire.overwrite f.space offset data
    length_space := by rw [Wire.length_overwrite (by rw [f.length_space]; exact h), f.length_space] }

def encodeRegisters (registers : PerSlot BaseRegister) : Bytes :=
  registers.toList.flatMap fun r => Wire.bytes32 r.raw

theorem length_encodeRegisters (registers : PerSlot BaseRegister) :
    (encodeRegisters registers).length = 24 := by
  rw [encodeRegisters, List.length_flatMap,
    List.map_congr_left (fun r _ => Wire.length_bytes32 r.raw)]
  simp [List.map_const']

def setRegisters (f : BusFunction) (registers : PerSlot BaseRegister) : BusFunction :=
  f.patch Header.registerOffset (encodeRegisters registers) (by
    rw [length_encodeRegisters]; decide)

/-- The registers of a network card: a 64-bit range in slots 0 and 1 and a 32-bit range in slot 3. -/
def cardRegisters : PerSlot BaseRegister :=
  #v[⟨0xF7E00004⟩, ⟨0⟩, ⟨0⟩, ⟨0xF7F00000⟩, ⟨0⟩, ⟨0⟩]

/-- A network card at the given place, on NUMA node 0, all of whose configuration space can be read. -/
def networkCard (bus : UInt32) (device function : UInt16) : BusFunction :=
  let blank : BusFunction := {
    busNumber := some bus
    slot := some (.pack device function)
    numaNode := some 0
    space := Wire.bytes16 0x8086 ++ Wire.bytes16 0x1533 ++ List.replicate 252 0
    readable := 256
    accesses := 0
    length_space := by
      simp only [List.length_append, Wire.length_bytes16, List.length_replicate] }
  blank.setRegisters cardRegisters

def header (f : BusFunction) : Header :=
  ⟨f.space.take Header.size, by rw [List.length_take, f.length_space]; decide⟩

/-- The base that the register of `slot` and, if it is one half of a pair, the next register hold. -/
def baseOf (h : Header) (slot : Fin 6) : UInt64 :=
  let r := h.register slot
  if hs : r.is64Bit ∧ slot.val + 1 < 6 then
    r.base.toUInt64 ||| ((h.register ⟨slot.val + 1, hs.2⟩).raw.toUInt64 <<< 32)
  else r.base.toUInt64

/-- The resource list that goes with the registers: an interrupt, then one memory entry for each
present slot. -/
def resources (f : BusFunction) : List Resource :=
  .interrupt 0x40 ::
    f.header.presentSlots.map fun slot => .memory ⟨baseOf f.header slot⟩ resourceLength

/-! ## Accesses -/

/-- Read up to `length` bytes at `offset`: those that lie in the readable prefix.  A prefix that is
said to reach past the configuration space cannot be read there. -/
def read (f : BusFunction) (offset : UInt32) (length : Nat) : Checked (Bytes × BusFunction) :=
  let first := min offset.toNat f.readable
  let last := min (first + length) f.readable
  if last ≤ spaceSize then
    .ok ((f.space.drop first).take (last - first), { f with accesses := f.accesses + 1 })
  else .error .outOfBounds

/-- How many bytes of a write of `length` bytes at `offset` arrive. -/
def writable (offset : UInt32) (length : Nat) : Nat :=
  min length (spaceSize - min offset.toNat spaceSize)

theorem writable_fits (offset : UInt32) (data : Bytes) :
    min offset.toNat spaceSize + (data.take (writable offset data.length)).length ≤ 256 := by
  simp only [writable, spaceSize, List.length_take]
  omega

/-- Write `data` at `offset`: those bytes of it that lie in the configuration space.  The answer is
their number. -/
def write (f : BusFunction) (offset : UInt32) (data : Bytes) : Nat × BusFunction :=
  let count := writable offset data.length
  let f' := f.patch (min offset.toNat spaceSize) (data.take count) (writable_fits offset data)
  (count, { f' with accesses := f.accesses + 1 })

/-- The bytes of configuration space from `offset` on, without an access. -/
def peek (f : BusFunction) (offset length : Nat) : Checked Bytes := do
  checkRange offset length spaceSize
  .ok ((f.space.drop offset).take length)

end BusFunction

end Passthrough
