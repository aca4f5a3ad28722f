import Passthrough.Discovery.HardwareId
import Passthrough.Protocol.HardwareInfo

/-!
# Passthrough — device records

What a process knows about one PCI function.  A record is *bound* while it holds an open channel to the
function's driver; the channel keeps the mappings alive that the record's ranges point to.

* `DeviceRecord.bind` — a record takes over a channel and what was mapped through it.
* `DeviceRecord.merge` — two records of one function become one, and at most one channel is left over.

Records do not look into channels, so the type of channels is a parameter.
-/

namespace Passthrough

/-- The driver that serves a function in the kernel. -/
inductive KernelDriver where
  | unknown
  /-- The driver that maps the function into a process. -/
  | mapping
deriving DecidableEq

def KernelDriver.name : KernelDriver → String
  | .unknown => "Unknown"
  | .mapping => "NicUio"

/-- A register range as a process sees it. -/
structure MappedRange where
  phys : PhysAddr
  length : UInt64
  /-- Where the process sees it, null before it is mapped. -/
  addr : VirtAddr
deriving DecidableEq, Inhabited

namespace MappedRange

/-- The range that is nothing. -/
def empty : MappedRange := ⟨⟨0⟩, 0, .null⟩

/-- The range of a region in a hardware record. -/
def ofRegion (r : Region) : MappedRange := ⟨r.phys, r.size, r.user⟩

def describe (r : MappedRange) : String :=
  "MemResource \x7b phys_addr: " ++ r.phys.describe ++ ", len: " ++ toString r.length.toNat
    ++ ", addr: " ++ r.addr.describe ++ " \x7d"

end MappedRange

def HardwareId.describe (id : HardwareId) : String :=
  "PciId \x7b vendor_id: " ++ toString id.vendor.toNat ++ ", device_id: " ++ toString id.device.toNat
    ++ ", subsystem_vendor_id: " ++ toString id.subsystemVendor.toNat
    ++ ", subsystem_device_id: " ++ toString id.subsystemDevice.toNat ++ " \x7d"

/-- One PCI function. -/
structure DeviceRecord (Channel : Type) where
  address : FunctionAddress
  id : HardwareId
  numaNode : UInt16
  kernelDriver : KernelDriver
  maxVfs : UInt16
  ranges : PerSlot MappedRange
  /-- What the function was called when the record was made. -/
  name : String
  channel : Option Channel
deriving DecidableEq

namespace DeviceRecord

variable {Channel : Type}

/-- The record of a function that nothing else is known about. -/
def new (address : FunctionAddress) (id : HardwareId) : DeviceRecord Channel where
  address
  id
  numaNode := 0
  kernelDriver := .unknown
  maxVfs := 0
  ranges := Vector.replicate 6 .empty
  name := address.toText
  channel := none

/-- Whether the record holds an open channel. -/
def isBound (r : DeviceRecord Channel) : Bool := r.channel.isSome

/-- Take over the answer to a request to map the hardware, and the channel it came through. -/
def bind (r : DeviceRecord Channel) (info : HardwareInfo) (channel : Channel) :
    DeviceRecord Channel :=
  { r with
    numaNode := info.numaNode
    kernelDriver := .mapping
    ranges := info.slots.map MappedRange.ofRegion
    channel := some channel }

/-- Fold a newer record of the same function into `kept`.  A bound record keeps its channel and what was
mapped through it, and the newer channel is left over, to be closed. -/
def merge (kept newer : DeviceRecord Channel) : DeviceRecord Channel × Option Channel :=
  let merged := { kept with kernelDriver := newer.kernelDriver, maxVfs := newer.maxVfs }
  if kept.isBound then (merged, newer.channel)
  else if newer.isBound then
    ({ merged with
      ranges := newer.ranges
      numaNode := newer.numaNode
      channel := newer.channel }, none)
  else ({ merged with ranges := newer.ranges }, none)

@[simp] theorem address_merge (kept newer : DeviceRecord Channel) :
    (kept.merge newer).1.address = kept.address := by
  unfold merge
  repeat' split
  all_goals rfl

/-- A record keeps its name, whatever the newer one is called. -/
@[simp] theorem name_merge (kept newer : DeviceRecord Channel) :
    (kept.merge newer).1.name = kept.name := by
  unfold merge
  repeat' split
  all_goals rfl

def describe (r : DeviceRecord Channel) : String :=
  "PciDevice \x7b addr: " ++ r.address.toText ++ ", id: " ++ r.id.describe ++ ", numa_node: "
    ++ toString r.numaNode.toNat ++ ", kdrv: " ++ r.kernelDriver.name ++ ", max_vfs: "
    ++ toString r.maxVfs.toNat ++ ", mem_resource: ["
    ++ String.intercalate ", " (r.ranges.toList.map MappedRange.describe) ++ "], open: "
    ++ (if r.isBound then "true" else "false") ++ " \x7d"

end DeviceRecord

end Passthrough
