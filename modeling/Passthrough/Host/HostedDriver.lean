import Passthrough.Driver.Run

/-!
# Passthrough — drivers on a host

A host attaches a driver to each function it has.  The instance lives as long as somebody refers to it:
the host, until it gives the driver up, and every open handle.  With the last reference the instance is
removed.  The platform under it stays.

* `HostedDriver.attach` — the driver of a function, with or without an instance.
* `HostedDriver.giveUp`, `openHandle`, `dropHandle` — the references.
* `HostedDriver.withInstance` — an operation on the instance, as long as the host refers to it.
-/

namespace Passthrough

/-- A driver of a host: its platform, its instance and who refers to it. -/
structure HostedDriver where
  platform : Platform
  /-- What the instance is and holds; there is none after a failed attach and after the last
  reference is gone. -/
  device : Option Device
  /-- Whether the host still refers to the instance. -/
  held : Bool
  /-- How many handles are open. -/
  handles : Nat
deriving DecidableEq

namespace HostedDriver

def attach (bus : BusFunction) (memory : KernelMemory) :
    Checked (Except DriverError Unit × HostedDriver) := do
  let (result, platform) ← Instance.attach (.start bus memory)
  match result with
  | .error e => .ok (.error e, ⟨platform, none, false, 0⟩)
  | .ok device => .ok (.ok (), ⟨platform, some device, true, 0⟩)

def forget (d : HostedDriver) : HostedDriver := { d with platform := d.platform.forget }

def instance? (d : HostedDriver) : Option Instance := d.device.map (⟨·, d.platform⟩)

def putInstance (d : HostedDriver) (i : Instance) : HostedDriver :=
  { d with platform := i.platform, device := some i.device }

/-- The state of the instance, as long as the host refers to it. -/
def state? (d : HostedDriver) : Option DeviceState :=
  if d.held then d.device.map Device.state else none

/-- Operate on the instance, as long as the host refers to it. -/
def withInstance {α : Type} (d : HostedDriver) (operation : Instance → Checked (α × Instance)) :
    Checked (Option α × HostedDriver) :=
  match d.held, d.instance? with
  | true, some i => do
    let (answer, i) ← operation i
    .ok (some answer, d.putInstance i)
  | _, _ => .ok (none, d)

/-- Change the surroundings of the instance. -/
def adjust (d : HostedDriver) (change : Operation) : HostedDriver :=
  { d with platform := d.platform.adjust change }

/-! ## References -/

/-- Remove the instance if nobody refers to it. -/
def collect (d : HostedDriver) : HostedDriver :=
  if d.held || d.handles ≠ 0 then d
  else match d.instance? with
    | none => d
    | some i => { d with platform := i.remove.platform, device := none }

/-- The host refers to the instance no longer. -/
def giveUp (d : HostedDriver) : HostedDriver := { d with held := false }.collect

/-- Open a handle, which only the host's reference makes possible. -/
def openHandle (d : HostedDriver) : Option HostedDriver :=
  if d.held && d.device.isSome then some { d with handles := d.handles + 1 } else none

/-- Serve a request that comes in on an open handle. -/
def control (d : HostedDriver) (caller : Caller) (request : IoRequest) :
    Checked (Served × HostedDriver) :=
  match d.instance? with
  | none => .ok (⟨⟨.invalidDeviceState, 0⟩, request.output⟩, d)
  | some i => do
    let (served, i) ← i.deviceControl caller request
    .ok (served, d.putInstance i)

/-- An open handle is closed: what was lent through it is taken back. -/
def cleanUp (d : HostedDriver) (caller : Caller) : Except DriverError Bool × HostedDriver :=
  match d.instance? with
  | none => (.ok false, d)
  | some i =>
    let (answer, i) := i.cleanUp caller
    (answer, d.putInstance i)

/-- A handle no longer refers to the instance. -/
def dropHandle (d : HostedDriver) : HostedDriver := { d with handles := d.handles - 1 }.collect

end HostedDriver

end Passthrough
