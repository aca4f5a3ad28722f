import Passthrough.Fault
import Passthrough.Driver.Calls

/-!
# Passthrough — the kernel's memory manager

A ledger of what is allocated and mapped.  Addresses are handed out in increasing order and never
twice; nothing stands behind them.  Refusals can be arranged: all allocations, the mapping of registers
with a given number, the mapping into a process with a given number.

* `KernelMemory.allocate`, `mapRegisters`, `mapIntoProcess` — additions to the ledger, which fault when
  the address that comes next would leave the range of addresses.
* `KernelMemory.free`, `unmapRegisters`, `unmapFromProcess` — removals; an entry that is not there is
  not missed.
* `KernelMemory.covers` — whether a process can reach an address.
-/

namespace Passthrough

/-- A mapping of registers into kernel space. -/
structure RegisterMapping where
  base : VirtAddr
  length : UInt64
deriving DecidableEq

/-- A mapping into a process. -/
structure ProcessMapping where
  process : ProcessId
  base : VirtAddr
  length : UInt64
deriving DecidableEq

/-- Whether the mapping holds the address `va` of `process`. -/
def ProcessMapping.covers (p : ProcessMapping) (process : ProcessId) (va : VirtAddr) : Bool :=
  p.process = process && p.base.val ≤ va.val && va.val - p.base.val < p.length

structure KernelMemory where
  /-- Where the next allocation lies in physical memory. -/
  nextPhys : UInt64
  /-- Where the next allocation or register mapping lies in kernel space. -/
  nextKernel : UInt64
  /-- Where the next mapping lies in a process. -/
  nextUser : UInt64
  allocations : List KernelRegion
  registerMappings : List RegisterMapping
  processMappings : List ProcessMapping
  zeroed : UInt64
  refuseAllocation : Bool
  /-- The number of the register mapping that is refused. -/
  refuseRegisters : Option Nat
  /-- The number of the process mapping that is refused. -/
  refuseProcess : Option Nat
  /-- Register mappings asked for so far. -/
  registerCalls : Nat
  /-- Process mappings asked for so far. -/
  processCalls : Nat
deriving DecidableEq

namespace KernelMemory

/-- A memory manager that has handed out nothing and refuses nothing. -/
def fresh : KernelMemory where
  nextPhys := 0x100000000
  nextKernel := 0xFFFF900000000000
  nextUser := 0x7F0000000000
  allocations := []
  registerMappings := []
  processMappings := []
  zeroed := 0
  refuseAllocation := false
  refuseRegisters := none
  refuseProcess := none
  registerCalls := 0
  processCalls := 0

def allocate (m : KernelMemory) (size : UInt64) : Checked (Option KernelRegion × KernelMemory) :=
  if m.refuseAllocation then .ok (none, m)
  else do
    let region : KernelRegion := ⟨⟨m.nextPhys⟩, ⟨m.nextKernel⟩, size⟩
    let nextPhys ← addChecked m.nextPhys size
    let nextKernel ← addChecked m.nextKernel size
    .ok (some region,
      { m with nextPhys, nextKernel, allocations := m.allocations ++ [region] })

def free (m : KernelMemory) (region : KernelRegion) : KernelMemory :=
  { m with allocations := m.allocations.filter (· ≠ region) }

def mapRegisters (m : KernelMemory) (length : UInt64) :
    Checked (Option VirtAddr × KernelMemory) :=
  let call := m.registerCalls
  let m := { m with registerCalls := call + 1 }
  if m.refuseRegisters = some call then .ok (none, m)
  else do
    let base : VirtAddr := ⟨m.nextKernel⟩
    let nextKernel ← addChecked m.nextKernel length
    .ok (some base,
      { m with nextKernel, registerMappings := m.registerMappings ++ [⟨base, length⟩] })

def unmapRegisters (m : KernelMemory) (base : VirtAddr) (length : UInt64) : KernelMemory :=
  { m with registerMappings := m.registerMappings.filter (· ≠ ⟨base, length⟩) }

def zero (m : KernelMemory) (length : UInt64) : Checked KernelMemory := do
  let zeroed ← addChecked m.zeroed length
  .ok { m with zeroed }

def mapIntoProcess (m : KernelMemory) (process : ProcessId) (length : UInt64) :
    Checked (Option VirtAddr × KernelMemory) :=
  let call := m.processCalls
  let m := { m with processCalls := call + 1 }
  if m.refuseProcess = some call then .ok (none, m)
  else do
    let base : VirtAddr := ⟨m.nextUser⟩
    let nextUser ← addChecked m.nextUser length
    .ok (some base,
      { m with nextUser, processMappings := m.processMappings ++ [⟨process, base, length⟩] })

def unmapFromProcess (m : KernelMemory) (process : ProcessId) (base : VirtAddr)
    (length : UInt64) : KernelMemory :=
  { m with processMappings := m.processMappings.filter (· ≠ ⟨process, base, length⟩) }

/-! ## Looking at the ledger -/

def liveIn (m : KernelMemory) (process : ProcessId) : Nat :=
  (m.processMappings.filter (·.process = process)).length

/-- Whether `va` lies in a mapping alive in `process`. -/
def covers (m : KernelMemory) (process : ProcessId) (va : VirtAddr) : Bool :=
  m.processMappings.any (·.covers process va)

end KernelMemory

end Passthrough
