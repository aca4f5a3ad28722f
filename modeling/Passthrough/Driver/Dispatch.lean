import Passthrough.Driver.Device
import Passthrough.Protocol.Request

/-!
# Passthrough — serving device-control requests

A request passes two stages.  The first runs in the context of the process that issued it and serves
the requests that change that process's address space; it forwards the others to the second, which
takes them from a parallel queue and serves accesses to configuration space.

* `Instance.inCallerContext`, `Instance.fromQueue` — the two stages.
* `Instance.deviceControl` — both, one after the other.
* `Instance.serveAt` — any of these.
-/

namespace Passthrough

/-- A device-control request with its two buffers. -/
structure IoRequest where
  code : ControlCode
  input : Bytes
  output : Bytes
deriving DecidableEq

/-- How a request ended, and how many bytes it produced. -/
structure Completion where
  status : Status
  information : Nat
deriving DecidableEq

/-- A served request: how it ended and its output buffer afterwards. -/
structure Served where
  completion : Completion
  output : Bytes
deriving DecidableEq

/-- What the first stage did with a request. -/
inductive Dispatch where
  | completed (served : Served)
  /-- The request waits for the second stage. -/
  | forwarded
deriving DecidableEq

/-- Where a request is handed in. -/
inductive Stage where
  | front
  /-- At the first stage, and it goes no further. -/
  | callerContext
  | queue
deriving DecidableEq

/-- The completion of a request: a failed one produced no bytes. -/
def Completion.ofResult : Except Status Nat → Completion
  | .ok information => ⟨.success, information⟩
  | .error status => ⟨status, 0⟩

def Reply.served (reply : Reply) : Served := ⟨.ofResult reply.result, reply.output⟩

namespace Instance

/-- Check that a request is meant for this function. -/
def checkAddress (i : Instance) (address : RequestAddress) : Except Status Unit :=
  if address = i.device.address then .ok () else .error .notSameDevice

/-! ## The first stage -/

def mapHardware (i : Instance) (caller : Caller) (request : IoRequest) :
    Checked (Reply × Instance) :=
  match HardwareInfo.decode request.input with
  | .error e => .ok (⟨.error e.status, request.output⟩, i)
  | .ok info =>
    match i.checkAddress info.address with
    | .error status => .ok (⟨.error status, request.output⟩, i)
    | .ok () => i.mapIntoCaller caller request.output

/-- Say why a request to map the hardware failed. -/
def reportMapFailure (i : Instance) (status : Status) : Instance :=
  if status = .notSameDevice then
    i.say .debug (i.device.name.toText ++ ": map request for another device")
  else
    i.say .error (i.device.name.toText ++ ": map hardware failed: " ++ status.message)

/-- Look at a request in the context of the process that issued it. -/
def inCallerContext (i : Instance) (caller : Caller) (request : IoRequest) :
    Checked (Dispatch × Instance) :=
  match request.code.kind? with
  | some .mapHardware => do
    let (reply, i) ← i.mapHardware caller request
    let i := match reply.result with
      | .error status => i.reportMapFailure status
      | .ok _ => i
    .ok (.completed reply.served, i)
  | _ => .ok (.forwarded, i)

/-! ## The second stage -/

/-- Carry out a checked access to configuration space.  A read clears the front of the output buffer, as
long as the record is, and lays the bytes it got over it; a write leaves the buffer alone. -/
def accessConfig (p : Platform) (request : ConfigRequest) (width : AccessWidth)
    (operation : ConfigOperation) (output : Bytes) : Checked ((Nat × Bytes) × Platform) :=
  match operation with
  | .read => do
    let size := RequestKind.configAccess.outputSize
    let cleared := List.replicate size 0 ++ output.drop size
    let (data, p) ← p.busRead request.offset width.bytes
    .ok ((data.length, data ++ cleared.drop data.length), p)
  | .write =>
    let (count, p) := p.busWrite request.offset ((Wire.bytes64 request.data).take width.bytes)
    .ok ((count, output), p)

/-- What is wrong with a configuration request, if anything, before the bus is touched. -/
def checkConfig (i : Instance) (request : IoRequest) :
    Except Status (ConfigRequest × AccessWidth × ConfigOperation) := do
  if request.code.kind? ≠ some .configAccess then .error .invalidDeviceRequest
  let access ← (ConfigRequest.decode request.input).mapError RecordError.status
  i.checkAddress access.address
  let width ← access.accessWidth.mapError RecordError.status
  if request.output.length < RequestKind.configAccess.outputSize then .error .invalidBufferSize
  let operation ← access.configOperation.mapError RecordError.status
  .ok (access, width, operation)

/-- Serve a request from the parallel queue. -/
def fromQueue (i : Instance) (request : IoRequest) : Checked (Served × Instance) :=
  match i.checkConfig request with
  | .error status => .ok (Reply.served ⟨.error status, request.output⟩, i)
  | .ok (access, width, operation) => do
    let ((count, output), p) ← accessConfig i.platform access width operation request.output
    .ok (Reply.served ⟨.ok count, output⟩, { i with platform := p })

/-! ## Both stages -/

def deviceControl (i : Instance) (caller : Caller) (request : IoRequest) :
    Checked (Served × Instance) := do
  let (dispatch, i) ← i.inCallerContext caller request
  match dispatch with
  | .completed served => .ok (served, i)
  | .forwarded => i.fromQueue request

/-- Serve a request that is handed in at `stage`. -/
def serveAt (i : Instance) (stage : Stage) (caller : Caller) (request : IoRequest) :
    Checked (Dispatch × Instance) :=
  match stage with
  | .front => (i.deviceControl caller request).map fun (served, i) => (.completed served, i)
  | .callerContext => i.inCallerContext caller request
  | .queue => (i.fromQueue request).map fun (served, i) => (.completed served, i)

end Instance

end Passthrough
