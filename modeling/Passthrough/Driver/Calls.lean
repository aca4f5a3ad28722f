import Passthrough.Address
import Passthrough.Wire

/-!
# Passthrough — what the kernel offers a driver

The nouns that a driver and the kernel under it share: processes and open handles, cache kinds,
allocations, the resources negotiated for a device, and the calls a driver makes.

* `PlatformCall` — one call with its answer; a driver instance records all of them in order.
* `PlatformCall.line` — the line a call makes in a trace.
-/

namespace Passthrough

/-- A process, whose address space mappings go into. -/
structure ProcessId where
  number : UInt64
deriving DecidableEq, Inhabited

def ProcessId.describe (p : ProcessId) : String := "pid:" ++ toString p.number.toNat

/-- One open handle on a driver instance. -/
structure HandleId where
  number : UInt64
deriving DecidableEq, Inhabited

/-- The process and the handle that a request or a close comes from. -/
structure Caller where
  process : ProcessId
  handle : HandleId
deriving DecidableEq, Inhabited

/-- How a mapping is cached. -/
inductive CacheKind where
  /-- Registers. -/
  | nonCached
  /-- Ordinary memory. -/
  | cached
deriving DecidableEq, Inhabited

def CacheKind.name : CacheKind → String
  | .nonCached => "NonCached"
  | .cached => "Cached"

/-- A range of physical memory or registers together with its kernel mapping. -/
structure KernelRegion where
  phys : PhysAddr
  virt : VirtAddr
  size : UInt64
deriving DecidableEq, Inhabited

/-- One entry of the resource list negotiated for a device. -/
inductive Resource where
  | memory (start : PhysAddr) (length : UInt64)
  | ioRange (start : UInt64) (length : UInt32)
  | interrupt (vector : UInt32)
deriving DecidableEq, Inhabited

def Resource.asMemory? : Resource → Option (PhysAddr × UInt64)
  | .memory start length => some (start, length)
  | _ => none

/-- A call of a driver on the kernel or the bus, and the answer it got. -/
inductive PlatformCall where
  | allocate (size : UInt64) (cache : CacheKind) (answer : Option KernelRegion)
  | free (region : KernelRegion)
  | mapRegisters (start : PhysAddr) (length : UInt64) (cache : CacheKind) (answer : Option VirtAddr)
  | unmapRegisters (base : VirtAddr) (length : UInt64)
  | zero (base : VirtAddr) (length : UInt64)
  | mapIntoProcess (process : ProcessId) (base : VirtAddr) (length : UInt64) (cache : CacheKind)
      (answer : Option VirtAddr)
  | unmapFromProcess (process : ProcessId) (base : VirtAddr) (length : UInt64)
  | busRead (offset : UInt32) (length : Nat) (answer : Nat)
  | busWrite (offset : UInt32) (data : Bytes) (answer : Nat)
deriving DecidableEq

/-! ## Traces -/

def answeredAddress : Option VirtAddr → String
  | none => "none"
  | some base => Text.word64Short base.val

/-- The line of a call in a trace: its name, its arguments, and its answer behind an arrow. -/
def PlatformCall.line : PlatformCall → String
  | .allocate size cache answer =>
    let region := match answer with
      | none => "none"
      | some r => Text.word64Short r.phys.val ++ " " ++ Text.word64Short r.virt.val
    "alloc " ++ Text.word64Short size ++ " " ++ cache.name ++ " -> " ++ region
  | .free r =>
    "free " ++ Text.word64Short r.phys.val ++ " " ++ Text.word64Short r.virt.val ++ " "
      ++ Text.word64Short r.size
  | .mapRegisters start length cache answer =>
    "map_io " ++ Text.word64Short start.val ++ " " ++ Text.word64Short length ++ " " ++ cache.name
      ++ " -> " ++ answeredAddress answer
  | .unmapRegisters base length =>
    "unmap_io " ++ Text.word64Short base.val ++ " " ++ Text.word64Short length
  | .zero base length => "zero " ++ Text.word64Short base.val ++ " " ++ Text.word64Short length
  | .mapIntoProcess process base length cache answer =>
    "map_user " ++ process.describe ++ " " ++ Text.word64Short base.val ++ " "
      ++ Text.word64Short length ++ " " ++ cache.name ++ " -> " ++ answeredAddress answer
  | .unmapFromProcess process base length =>
    "unmap_user " ++ process.describe ++ " " ++ Text.word64Short base.val ++ " "
      ++ Text.word64Short length
  | .busRead offset length answer =>
    "bus_read " ++ toString offset.toNat ++ " " ++ toString length ++ " -> " ++ toString answer
  | .busWrite offset data answer =>
    "bus_write " ++ toString offset.toNat ++ " " ++ Text.hexBytes data ++ " -> " ++ toString answer

end Passthrough
