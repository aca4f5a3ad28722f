import Passthrough.Discovery.DeviceList
import Passthrough.Host.Event
import Passthrough.Host.HostedDriver
import Passthrough.Host.StandIn
import Passthrough.Protocol.Request

/-!
# Passthrough — hosts

A host runs drivers and one process that talks to them.  The process reaches a driver, or a stand-in for
one, through an interface, which it opens to get a channel; on a channel it sends requests until it closes
it.  Whatever happens is kept, as events and as messages.

* `Host.openInterface`, `Host.closeChannel` — the life of a channel.
* `Host.request` — a request on a channel and its response.
* `Host.mapHardware`, `readConfig`, `writeConfig` — the requests there are.
-/

namespace Passthrough

/-- Something that a process can open. -/
inductive Interface where
  /-- The driver with this number. -/
  | driver (index : Nat)
  | standIn (standIn : StandIn)
deriving DecidableEq

/-- An open interface. -/
inductive Channel where
  | driver (index : Nat) (handle : HandleId)
  | standIn (standIn : StandIn)
deriving DecidableEq

/-- A host with a process on it. -/
structure Host where
  /-- The process that opens interfaces. -/
  process : ProcessId
  drivers : List HostedDriver
  /-- How many handles were opened so far. -/
  opened : Nat
  events : List HostEvent
  log : List Message

namespace Host

def start (process : ProcessId) : Host := ⟨process, [], 0, [], []⟩

/-- The host with nothing kept of what happened. -/
def forget (h : Host) : Host := { h with events := [], log := [] }

def note (h : Host) (event : HostEvent) : Host := { h with events := h.events ++ [event] }

def tell (h : Host) (messages : List Message) : Host := { h with log := h.log ++ messages }

def say (h : Host) (severity : Severity) (text : String) : Host := h.tell [⟨severity, text⟩]

/-! ## Drivers -/

/-- Put driver `i` back and keep what it recorded. -/
def putDriver (h : Host) (i : Nat) (d : HostedDriver) : Host :=
  { h with
    drivers := h.drivers.set i d.forget
    events := h.events ++ d.platform.calls.map (.platform i)
    log := h.log ++ d.platform.log }

def attach (h : Host) (bus : BusFunction) (memory : KernelMemory) :
    Checked (Except DriverError Unit × Host) := do
  let (result, d) ← HostedDriver.attach bus memory
  .ok (result, { h with drivers := h.drivers ++ [d] }.putDriver h.drivers.length d)

def withDriver {α : Type} (h : Host) (i : Nat)
    (operation : HostedDriver → Checked (α × HostedDriver)) : Checked (Option α × Host) :=
  match h.drivers[i]? with
  | none => .ok (none, h)
  | some d => do
    let (answer, d) ← operation d
    .ok (some answer, h.putDriver i d)

/-- Prepare the hardware of driver `i` with the resources that its function has. -/
def prepare (h : Host) (i : Nat) : Checked (Option (Except DriverError Unit) × Host) := do
  let (answer, h) ← h.withDriver i fun d => d.withInstance (·.prepare d.platform.bus.resources)
  .ok (answer.join, h)

/-! ## Channels -/

/-- Open an interface.  That of a driver gives a new handle, as long as the host refers to the driver's
instance. -/
def openInterface (h : Host) : Interface → Option (Channel × Host)
  | .standIn s => some (.standIn s, h)
  | .driver i => do
    let d ← (← h.drivers[i]?).openHandle
    let number := h.opened + 1
    some (.driver i ⟨UInt64.ofNat number⟩, { h.putDriver i d with opened := number })

def closeChannel (h : Host) : Channel → Host
  | .standIn s => h.note (.standInClosed s.label)
  | .driver i handle =>
    match h.drivers[i]? with
    | none => h
    | some d =>
      let (answer, d) := d.cleanUp ⟨h.process, handle⟩
      ((h.putDriver i d).note (.handleClosed handle answer)).putDriver i d.forget.dropHandle

def closeChannels (h : Host) (channels : List Channel) : Host := channels.foldl closeChannel h

/-- Do something on a fresh channel, which is closed afterwards; the answer is none if the interface
cannot be opened. -/
def withChannel {α : Type} (h : Host) (interface : Option Interface)
    (f : Host → Channel → Checked (α × Host)) : Checked (Option α × Host) :=
  match interface.bind h.openInterface with
  | none => .ok (none, h)
  | some (channel, h) => do
    let (answer, h) ← f h channel
    .ok (some answer, h.closeChannel channel)

/-- Send an input over a channel; the answer is the count of bytes reported and the output. -/
def control (h : Host) (channel : Channel) (code : ControlCode) (input : Bytes)
    (outputSize : Nat) : Checked (Except Status (Nat × Bytes) × Host) :=
  match channel with
  | .standIn s =>
    .ok (s.answer outputSize, h.note (.standInCalled s.label code input outputSize))
  | .driver i handle => do
    let request : IoRequest := ⟨code, input, List.replicate outputSize 0⟩
    let (served, h) ← h.withDriver i (·.control ⟨h.process, handle⟩ request)
    match served with
    | none => .ok (.error .invalidDeviceState, h)
    | some ⟨⟨.success, information⟩, output⟩ => .ok (.ok (information, output), h)
    | some ⟨⟨status, _⟩, _⟩ => .ok (.error status, h)

/-! ## Requests -/

/-- Send a request over a channel.  A failure is logged, unless it says that the request was meant for
another function. -/
def request (h : Host) (channel : Channel) (request : Request) :
    Checked (Except Status Response × Host) := do
  let kind := request.kind
  let (answer, h) ← h.control channel kind.controlCode request.encode kind.outputSize
  match answer with
  | .error .notSameDevice => .ok (.error .notSameDevice, h)
  | .error status =>
    .ok (.error status,
      h.say .error ("device control " ++ kind.name ++ " failed: " ++ status.message))
  | .ok (information, output) =>
    .ok ((Response.decode kind.controlCode output information).mapError RecordError.status, h)

/-- Ask for the hardware of the function at `address` to be mapped into the process. -/
def mapHardware (h : Host) (channel : Channel) (address : RequestAddress) (deviceId : UInt16) :
    Checked (Except Status HardwareInfo × Host) := do
  let (response, h) ← h.request channel (.mapHardware (.request address deviceId))
  match response with
  | .error status => .ok (.error status, h)
  | .ok (.mapHardware info) => .ok (.ok info, h)
  | .ok (.configAccess ..) => .ok (.error .invalidDeviceRequest, h)

/-- Access configuration space; the answer is the value read and the count of bytes transferred. -/
def accessConfig (h : Host) (channel : Channel) (access : ConfigRequest) :
    Checked (Except Status (UInt64 × Nat) × Host) := do
  let (response, h) ← h.request channel (.configAccess access)
  match response with
  | .error status => .ok (.error status, h)
  | .ok (.configAccess data transferred) => .ok (.ok (data, transferred), h)
  | .ok (.mapHardware _) => .ok (.error .invalidDeviceRequest, h)

def readConfig (h : Host) (channel : Channel) (address : RequestAddress) (offset : UInt32)
    (width : AccessWidth) : Checked (Except Status UInt64 × Host) := do
  let (answer, h) ← h.accessConfig channel (.read address offset width)
  .ok (answer.map (·.1), h)

/-- Write the low `width` bytes of `data` to configuration space; the answer is how many arrived. -/
def writeConfig (h : Host) (channel : Channel) (address : RequestAddress) (offset : UInt32)
    (width : AccessWidth) (data : UInt64) : Checked (Except Status Nat × Host) := do
  let (answer, h) ← h.accessConfig channel (.write address offset width data)
  .ok (answer.map (·.2), h)

/-! ## Requests of a device record -/

/-- Read a 32-bit word of configuration space over the channel of a record. -/
def readRecord (h : Host) (r : DeviceRecord Channel) (offset : UInt32) :
    Checked (Except Status UInt32 × Host) :=
  match r.channel with
  | none => .ok (.error .invalidDeviceState, h)
  | some channel => do
    let (answer, h) ← h.readConfig channel r.address.toRequest offset .dword
    match answer with
    | .error status => .ok (.error status, h)
    | .ok value =>
      if value.toNat < UInt32.size then .ok (.ok value.toUInt32, h)
      else .ok (.error .invalidBufferSize, h)

/-- Write a 32-bit word of configuration space over the channel of a record. -/
def writeRecord (h : Host) (r : DeviceRecord Channel) (offset value : UInt32) :
    Checked (Except Status Nat × Host) :=
  match r.channel with
  | none => .ok (.error .invalidDeviceState, h)
  | some channel => h.writeConfig channel r.address.toRequest offset .dword value.toUInt64

end Host

end Passthrough
