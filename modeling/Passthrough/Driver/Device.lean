import Passthrough.Driver.DriverError
import Passthrough.Driver.Platform
import Passthrough.Protocol.HardwareInfo

/-!
# Passthrough — the life of a driver instance

A driver instance is bound to one PCI function.  It owns a scratch pool from the moment it is attached
until it is removed, maps the function's registers into kernel space when the hardware is prepared, and
lends pool and registers to one process at a time.

```text
            prepare                map               (register and pool mappings
 attached ─────────▶ prepared ─────────▶ mapped       of one process)
     ▲                  │  ▲               │
     └──── release ─────┘  └── clean up ───┘        remove: from any state to released
```

* `Context` — what an instance holds; `Device` adds its identity, `Instance` its platform.
* `Instance.attach`, `prepare`, `release`, `remove`, `cleanUp`, `mapIntoCaller` — the operations.

Every operation computes what it undoes from the context alone.
-/

namespace Passthrough

def poolSize : UInt64 := 0x10000000

/-- Where a driver instance is in its life. -/
inductive DeviceState where
  /-- The identity is known and the scratch pool allocated. -/
  | attached
  /-- The registers are found and mapped into kernel space. -/
  | hardwarePrepared
  /-- Pool and registers are mapped into one process. -/
  | userMapped
  /-- The kernel mappings are undone and the pool is freed. -/
  | released
deriving DecidableEq, Inhabited

def DeviceState.name : DeviceState → String
  | .attached => "Attached"
  | .hardwarePrepared => "HardwarePrepared"
  | .userMapped => "UserMapped"
  | .released => "Released"

/-- The mappings lent to a process. -/
structure UserMapping where
  /-- Who asked for them. -/
  owner : Caller
  /-- Where the pool lies in the process. -/
  pool : VirtAddr
  /-- Where the registers of each slot lie in the process. -/
  registers : PerSlot (Option VirtAddr)
deriving DecidableEq

/-- What a driver instance holds. -/
structure Context where
  state : DeviceState
  /-- The registers mapped into kernel space, slot by slot. -/
  registers : PerSlot (Option KernelRegion)
  pool : Option KernelRegion
  user : Option UserMapping
deriving DecidableEq

/-- A driver instance: its identity, fixed when it is attached, and its context. -/
structure Device where
  address : RequestAddress
  numaNode : UInt16
  context : Context
deriving DecidableEq

namespace Device

def name (d : Device) : InstanceName := ⟨d.address⟩

def state (d : Device) : DeviceState := d.context.state

/-- The record that describes what is lent. -/
def describe (d : Device) (pool : KernelRegion) (user : UserMapping) :
    HardwareInfo :=
  { HardwareInfo.blank with
    slots := Vector.ofFn fun slot : Fin 6 =>
      match d.context.registers.entry slot with
      | none => .empty
      | some region => ⟨region.size, region.phys, .null, (user.registers.entry slot).getD .null⟩
    scratch := ⟨pool.size, pool.phys, .null, user.pool⟩
    address := d.address
    numaNode := d.numaNode }

end Device

/-- What a request answers: the count of bytes produced or the reason why it failed, and the output buffer
as it is then. -/
structure Reply where
  result : Except Status Nat
  output : Bytes

def emptySlots {α : Type} : PerSlot (Option α) := Vector.replicate 6 none

/-- A driver instance on its platform. -/
structure Instance where
  device : Device
  platform : Platform
deriving DecidableEq

namespace Platform

/-! ## Undoing mappings -/

/-- Undo the register mappings of all slots, in order. -/
def unmapSlots (p : Platform) (registers : PerSlot (Option KernelRegion)) : Platform :=
  (registers.toList.filterMap id).foldl unmapRegisters p

/-- The process mappings of the slots that have both a kernel mapping and a process mapping. -/
def slotMappings (registers : PerSlot (Option KernelRegion)) (user : PerSlot (Option VirtAddr)) :
    List (VirtAddr × UInt64) :=
  (registers.toList.zip user.toList).filterMap fun
    | (some region, some base) => some (base, region.size)
    | _ => none

/-- Undo what was lent to a process: the pool, then the registers slot by slot. -/
def unmapUser (p : Platform) (pool : Option KernelRegion)
    (registers : PerSlot (Option KernelRegion)) (user : UserMapping) : Platform :=
  let process := user.owner.process
  let p := match pool with
    | some region => p.unmapFromProcess process user.pool region.size
    | none => p
  (slotMappings registers user.registers).foldl
    (fun p (base, length) => p.unmapFromProcess process base length) p

/-! ## Making mappings -/

/-- Map the registers of the slots in turn, each with the next memory resource.  The first slot without
a resource, or whose mapping is refused, ends it; the answer comes with the mappings made so far. -/
def mapSlots : List (Fin 6) → List (PhysAddr × UInt64) → PerSlot (Option KernelRegion) → Platform →
    Checked (Except DriverError Unit × PerSlot (Option KernelRegion) × Platform)
  | [], _, mapped, p => .ok (.ok (), mapped, p)
  | slot :: _, [], mapped, p => .ok (.error (.missingMemoryResource slot.val), mapped, p)
  | slot :: slots, (start, length) :: resources, mapped, p => do
    let (answer, p) ← p.mapRegisters start length .nonCached
    match answer with
    | none => .ok (.error (.registerMapping slot.val), mapped, p)
    | some virt =>
      mapSlots slots resources (mapped.put slot (some ⟨start, virt, length⟩)) p

/-- Map the registers of the slots in turn into a process.  A refusal ends it; the answer says whether
all were mapped, with the mappings made so far. -/
def lendSlots (process : ProcessId) (registers : PerSlot (Option KernelRegion)) :
    List (Fin 6) → PerSlot (Option VirtAddr) → Platform →
    Checked (Bool × PerSlot (Option VirtAddr) × Platform)
  | [], lent, p => .ok (true, lent, p)
  | slot :: slots, lent, p =>
    match registers.entry slot with
    | none => lendSlots process registers slots lent p
    | some region => do
      let (answer, p) ← p.mapIntoProcess process region .nonCached
      match answer with
      | none => .ok (false, lent, p)
      | some base => lendSlots process registers slots (lent.put slot (some base)) p

end Platform

namespace Instance

def say (i : Instance) (severity : Severity) (text : String) : Instance :=
  { i with platform := i.platform.say severity text }

def setContext (i : Instance) (context : Context) : Instance :=
  { i with device := { i.device with context } }

/-! ## Attaching -/

/-- Attach to the function on the platform: find out where it is and allocate the scratch pool. -/
def attach (p : Platform) : Checked (Except DriverError Device × Platform) :=
  match p.bus.busNumber, p.bus.slot with
  | none, _ => .ok (.error (.property "bus number"), p)
  | some _, none => .ok (.error (.property "address"), p)
  | some bus, some slot => do
    let address : RequestAddress := ⟨bus, slot.device, slot.function⟩
    let numaNode := p.bus.numaNode.getD 0
    let (answer, p) ← p.allocate poolSize .cached
    match answer with
    | none => .ok (.error (.poolAllocation poolSize), p)
    | some pool =>
      let device : Device := { address, numaNode, context := ⟨.attached, emptySlots, some pool, none⟩ }
      .ok (.ok device,
        p.say .debug (device.name.link ++ " attached, NUMA node " ++ toString numaNode.toNat
          ++ ", scratch pool at " ++ pool.phys.toText))

/-! ## Preparing and releasing the hardware -/

/-- Take back what was lent to a process, if anything was. -/
def endLoan (i : Instance) : Instance :=
  let c := i.device.context
  match c.user with
  | none => i
  | some user =>
    { i with platform := i.platform.unmapUser c.pool c.registers user }.setContext
      { c with user := none }

def unmapRegisters (i : Instance) : Instance :=
  let c := i.device.context
  { i with platform := i.platform.unmapSlots c.registers }.setContext
    { c with registers := emptySlots }

def setState (i : Instance) (state : DeviceState) : Instance :=
  i.setContext { i.device.context with state }

def readHeader (p : Platform) : Checked (Except DriverError Header × Platform) := do
  let (data, p) ← p.busRead 0 Header.size
  match Header.ofBytes? data with
  | some header => .ok (.ok header, p)
  | none => .ok (.error (.shortHeaderRead Header.size data.length), p)

/-- Find the function's registers and map them into kernel space.

Everything mapped before is undone first.  Present slots are paired, in order, with the memory entries
of `resources`.  On failure every mapping made so far is undone and the instance is left attached. -/
def prepare (i : Instance) (resources : List Resource) :
    Checked (Except DriverError Unit × Instance) :=
  if i.device.state = .released then .ok (.error .released, i)
  else do
    let i := (i.endLoan.unmapRegisters).setState .attached
    let (header, p) ← readHeader i.platform
    match header with
    | .error e => .ok (.error e, { i with platform := p })
    | .ok header =>
      let memory := resources.filterMap Resource.asMemory?
      let (result, mapped, p) ← p.mapSlots header.presentSlots memory emptySlots
      match result with
      | .error e => .ok (.error e, { i with platform := p.unmapSlots mapped })
      | .ok () =>
        let i := { i with platform := p }.setContext
          { i.device.context with state := .hardwarePrepared, registers := mapped }
        .ok (.ok (),
          i.say .info ("netUIO driver loaded on device (B:D:F) " ++ i.device.address.toText))

/-- Undo the kernel mappings, and before them what is still lent to a process. -/
def release (i : Instance) : Instance :=
  let warned := match i.device.context.user with
    | none => i
    | some user =>
      i.say .warning (i.device.name.toText ++ ": releasing hardware while mapped into "
        ++ user.owner.process.describe)
  let undone := warned.endLoan.unmapRegisters
  if undone.device.state = .released then undone else undone.setState .attached

def freePool (i : Instance) : Instance :=
  let c := i.device.context
  match c.pool with
  | none => i
  | some pool =>
    { i with platform := i.platform.free pool }.setContext { c with pool := none }

def remove (i : Instance) : Instance :=
  if i.device.state = .released then i
  else
    let i := (i.endLoan.unmapRegisters.freePool).setState .released
    i.say .debug (i.device.name.toText ++ " removed")

/-! ## Lending to a process -/

/-- A handle is closed.  If the mappings were made for it, they are undone; the answer says whether
that was so. -/
def cleanUp (i : Instance) (caller : Caller) : Except DriverError Bool × Instance :=
  match i.device.context.user with
  | none => (.ok false, i)
  | some user =>
    if user.owner.handle ≠ caller.handle then (.ok false, i)
    else if user.owner.process ≠ caller.process then
      (.error (.wrongProcess user.owner.process caller.process), i)
    else
      let i := i.endLoan.setState .hardwarePrepared
      (.ok true,
        i.say .debug (i.device.name.toText ++ ": unmapped from " ++ caller.process.describe))

/-- Clear the pool, map it and all registers into the caller's process, and describe the result at the
front of `output`.  If a mapping is refused, those made before it are undone. -/
def mapIntoCaller (i : Instance) (caller : Caller) (output : Bytes) : Checked (Reply × Instance) :=
  let c := i.device.context
  match c.state, c.pool with
  | .userMapped, _ => .ok (⟨.error .alreadyCommitted, output⟩, i)
  | .attached, _ => .ok (⟨.error .invalidDeviceState, output⟩, i)
  | .released, _ => .ok (⟨.error .invalidDeviceState, output⟩, i)
  | .hardwarePrepared, pool =>
    if output.length < HardwareInfo.size then .ok (⟨.error .invalidBufferSize, output⟩, i)
    else match pool with
    | none => .ok (⟨.error .invalidDeviceState, output⟩, i)
    | some pool => do
      let p ← i.platform.zero pool
      let (answer, p) ← p.mapIntoProcess caller.process pool .cached
      match answer with
      | none => .ok (⟨.error .insufficientResources, output⟩, { i with platform := p })
      | some base =>
        let (complete, lent, p) ←
          p.lendSlots caller.process c.registers (List.finRange 6) emptySlots
        let user : UserMapping := ⟨caller, base, lent⟩
        if complete then
          let i := { i with platform := p }.setContext
            { c with state := .userMapped, user := some user }
          let record := (i.device.describe pool user).encode
          .ok (⟨.ok record.length, record ++ output.drop record.length⟩,
            i.say .debug (i.device.name.toText ++ ": mapped into " ++ caller.process.describe))
        else
          .ok (⟨.error .insufficientResources, output⟩,
            { i with platform := p.unmapUser (some pool) c.registers user })

end Instance

end Passthrough
