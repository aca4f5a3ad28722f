import Passthrough.Log
import Passthrough.Driver.BusFunction
import Passthrough.Driver.KernelMemory

/-!
# Passthrough — the platform under a driver instance

A driver instance works on one bus function and one memory manager.  The platform keeps both together
with the record of what was done to them: every call with its answer, in order, and every message.

The operations here carry out one call each and record it.  A call that faults leaves no platform behind
and so no record either.
-/

namespace Passthrough

/-- Bus, memory manager and the record of the calls made on them. -/
structure Platform where
  bus : BusFunction
  memory : KernelMemory
  /-- The calls made so far, in order. -/
  calls : List PlatformCall
  log : List Message
deriving DecidableEq

namespace Platform

/-- A platform on which nothing has happened yet. -/
def start (bus : BusFunction) (memory : KernelMemory) : Platform := ⟨bus, memory, [], []⟩

def forget (p : Platform) : Platform := { p with calls := [], log := [] }

def say (p : Platform) (severity : Severity) (text : String) : Platform :=
  { p with log := p.log ++ [⟨severity, text⟩] }

def record (p : Platform) (call : PlatformCall) : Platform :=
  { p with calls := p.calls ++ [call] }

/-! ## Memory -/

def allocate (p : Platform) (size : UInt64) (cache : CacheKind) :
    Checked (Option KernelRegion × Platform) := do
  let (answer, memory) ← p.memory.allocate size
  .ok (answer, { p with memory }.record (.allocate size cache answer))

def free (p : Platform) (region : KernelRegion) : Platform :=
  { p with memory := p.memory.free region }.record (.free region)

def mapRegisters (p : Platform) (start : PhysAddr) (length : UInt64) (cache : CacheKind) :
    Checked (Option VirtAddr × Platform) := do
  let (answer, memory) ← p.memory.mapRegisters length
  .ok (answer, { p with memory }.record (.mapRegisters start length cache answer))

def unmapRegisters (p : Platform) (region : KernelRegion) : Platform :=
  { p with memory := p.memory.unmapRegisters region.virt region.size }.record
    (.unmapRegisters region.virt region.size)

def zero (p : Platform) (region : KernelRegion) : Checked Platform := do
  let memory ← p.memory.zero region.size
  .ok ({ p with memory }.record (.zero region.virt region.size))

def mapIntoProcess (p : Platform) (process : ProcessId) (region : KernelRegion)
    (cache : CacheKind) : Checked (Option VirtAddr × Platform) := do
  let (answer, memory) ← p.memory.mapIntoProcess process region.size
  .ok (answer,
    { p with memory }.record (.mapIntoProcess process region.virt region.size cache answer))

def unmapFromProcess (p : Platform) (process : ProcessId) (base : VirtAddr) (length : UInt64) :
    Platform :=
  { p with memory := p.memory.unmapFromProcess process base length }.record
    (.unmapFromProcess process base length)

/-! ## Configuration space -/

def busRead (p : Platform) (offset : UInt32) (length : Nat) : Checked (Bytes × Platform) := do
  let (data, bus) ← p.bus.read offset length
  .ok (data, { p with bus }.record (.busRead offset length data.length))

/-- Write configuration space; the answer is the number of bytes that arrived. -/
def busWrite (p : Platform) (offset : UInt32) (data : Bytes) : Nat × Platform :=
  let (count, bus) := p.bus.write offset data
  (count, { p with bus }.record (.busWrite offset data count))

end Platform

end Passthrough
