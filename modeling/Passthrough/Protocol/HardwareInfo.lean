import Passthrough.Address
import Passthrough.Pci.Address
import Passthrough.Pci.Register
import Passthrough.Protocol.RecordError

/-!
# Passthrough — hardware records

The record that asks for a function's hardware and that describes it in the answer, 240 bytes: six
regions of 32 bytes for the register slots, one for the scratch pool, the address of the function, its
device and subsystem number, its NUMA node and two bytes that mean nothing.

A region is four 64-bit words: size, physical base, kernel base and base in the requesting process.
-/

namespace Passthrough

/-- A region of memory or registers as records carry it. -/
structure Region where
  size : UInt64
  phys : PhysAddr
  kernel : VirtAddr
  user : VirtAddr
deriving DecidableEq, Inhabited

namespace Region

def encodedSize : Nat := 32

def empty : Region := ⟨0, ⟨0⟩, .null, .null⟩

/-- Whether the requesting process can reach the region. -/
def isMapped (r : Region) : Bool := r.size ≠ 0 && !r.user.isNull

def encode (r : Region) : Bytes :=
  Wire.bytes64 r.size ++ Wire.bytes64 r.phys.val ++ Wire.bytes64 r.kernel.val
    ++ Wire.bytes64 r.user.val

def decodeAt (bs : Bytes) (offset : Nat) : Region where
  size := Wire.word64At bs offset
  phys := ⟨Wire.word64At bs (offset + 8)⟩
  kernel := ⟨Wire.word64At bs (offset + 16)⟩
  user := ⟨Wire.word64At bs (offset + 24)⟩

@[simp] theorem length_encode (r : Region) : r.encode.length = encodedSize := by
  simp [encode, encodedSize]

end Region

/-- The hardware of a function: what is asked for and what is answered. -/
structure HardwareInfo where
  slots : PerSlot Region
  scratch : Region
  address : RequestAddress
  deviceId : UInt16
  subsystemId : UInt16
  numaNode : UInt16
  reserved : UInt16
deriving DecidableEq, Inhabited

namespace HardwareInfo

def size : Nat := 240

/-- The record that says nothing. -/
def blank : HardwareInfo where
  slots := Vector.replicate 6 .empty
  scratch := .empty
  address := ⟨0, 0, 0⟩
  deviceId := 0
  subsystemId := 0
  numaNode := 0
  reserved := 0

def request (address : RequestAddress) (deviceId : UInt16) : HardwareInfo :=
  { blank with address, deviceId }

def encode (h : HardwareInfo) : Bytes :=
  h.slots.toList.flatMap Region.encode ++ h.scratch.encode ++ h.address.encode
    ++ Wire.bytes16 h.deviceId ++ Wire.bytes16 h.subsystemId ++ Wire.bytes16 h.numaNode
    ++ Wire.bytes16 h.reserved

/-- The hardware in a record, which must have exactly the record's size. -/
def decode (bs : Bytes) : Except RecordError HardwareInfo :=
  if bs.length = size then
    .ok {
      slots := Vector.ofFn fun i => .decodeAt bs (Region.encodedSize * i.val)
      scratch := .decodeAt bs 192
      address := .decodeAt bs 224
      deviceId := Wire.word16At bs 232
      subsystemId := Wire.word16At bs 234
      numaNode := Wire.word16At bs 236
      reserved := Wire.word16At bs 238
    }
  else .error (.bufferSize size bs.length)

theorem length_encode (h : HardwareInfo) : h.encode.length = size := by
  have hs : (h.slots.toList.flatMap Region.encode).length = 192 := by
    rw [List.length_flatMap, List.map_congr_left (fun r _ => r.length_encode)]
    simp [List.map_const', Region.encodedSize]
  simp [encode, hs, size, Region.encodedSize, RequestAddress.size]

end HardwareInfo

end Passthrough
