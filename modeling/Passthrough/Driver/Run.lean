import Passthrough.Driver.Dispatch

/-!
# Passthrough — runs of a driver instance

Everything that can happen to an attached instance, as data: the platform's lifecycle callbacks, the
requests and closes of any process, and changes of the surroundings between them.

* `Operation`, `Instance.step` — one thing that happens and what it does.
* `Instance.run` — a sequence of them, which ends early at a fault.
* `Reachable` — the instances that some run from a successful attach leads to.
-/

namespace Passthrough

/-- Something that happens to an attached instance. -/
inductive Operation where
  | prepare (resources : List Resource)
  | release
  | remove
  | cleanUp (caller : Caller)
  | deviceControl (caller : Caller) (request : IoRequest)
  /-- The base address registers read differently from now on. -/
  | setRegisters (registers : PerSlot BaseRegister)
  /-- Only a prefix of configuration space can be read from now on. -/
  | setReadable (length : Nat)
  /-- The platform places the function on another NUMA node. -/
  | setNumaNode (node : UInt16)
  | refuseAllocations
  /-- The register mapping with this number is refused. -/
  | refuseRegisters (call : Nat)
  /-- The process mapping with this number is refused. -/
  | refuseProcess (call : Nat)
deriving DecidableEq

/-- What an operation answers. -/
inductive Outcome where
  | done
  | prepared (result : Except DriverError Unit)
  | cleaned (result : Except DriverError Bool)
  | served (served : Served)

namespace Platform

def mapBus (p : Platform) (f : BusFunction → BusFunction) : Platform := { p with bus := f p.bus }

def mapMemory (p : Platform) (f : KernelMemory → KernelMemory) : Platform :=
  { p with memory := f p.memory }

/-- A change of the surroundings; the other operations are not changes of the surroundings. -/
def adjust (p : Platform) : Operation → Platform
  | .setRegisters registers => p.mapBus (·.setRegisters registers)
  | .setReadable length => p.mapBus ({ · with readable := length })
  | .setNumaNode node => p.mapBus ({ · with numaNode := some node })
  | .refuseAllocations => p.mapMemory ({ · with refuseAllocation := true })
  | .refuseRegisters call => p.mapMemory ({ · with refuseRegisters := some call })
  | .refuseProcess call => p.mapMemory ({ · with refuseProcess := some call })
  | _ => p

end Platform

namespace Instance

def step (i : Instance) (operation : Operation) : Checked (Outcome × Instance) :=
  match operation with
  | .prepare resources => do
    let (result, i) ← i.prepare resources
    .ok (.prepared result, i)
  | .release => .ok (.done, i.release)
  | .remove => .ok (.done, i.remove)
  | .cleanUp caller =>
    let (result, i) := i.cleanUp caller
    .ok (.cleaned result, i)
  | .deviceControl caller request => do
    let (served, i) ← i.deviceControl caller request
    .ok (.served served, i)
  | change => .ok (.done, { i with platform := i.platform.adjust change })

def run (i : Instance) : List Operation → Checked Instance
  | [] => .ok i
  | operation :: operations => do
    let (_, i) ← i.step operation
    i.run operations

end Instance

/-- The instances that a run leads to, from a successful attach on a platform with a fresh memory
manager that may refuse things. -/
inductive Reachable : Instance → Prop where
  | attach {bus : BusFunction} {memory : KernelMemory} {device : Device} {p : Platform}
      (fresh : memory.allocations = [] ∧ memory.registerMappings = [] ∧ memory.processMappings = [])
      (attached : Instance.attach (Platform.start bus memory) = .ok (.ok device, p)) :
      Reachable ⟨device, p⟩
  | step {i i' : Instance} {operation : Operation} {outcome : Outcome}
      (reachable : Reachable i) (stepped : i.step operation = .ok (outcome, i')) : Reachable i'

end Passthrough
