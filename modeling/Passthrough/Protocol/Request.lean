import Passthrough.Protocol.ConfigRequest
import Passthrough.Protocol.HardwareInfo

/-!
# Passthrough — requests and responses

A request is one of the two records, a response what a completed request left in its output buffer.
Both are decoded by control code: a code outside the protocol is refused before the length is looked at.
-/

namespace Passthrough

/-- A request as it is sent. -/
inductive Request where
  | mapHardware (info : HardwareInfo)
  | configAccess (access : ConfigRequest)
deriving DecidableEq

namespace Request

def kind : Request → RequestKind
  | .mapHardware _ => .mapHardware
  | .configAccess _ => .configAccess

def controlCode (r : Request) : ControlCode := r.kind.controlCode

def encode : Request → Bytes
  | .mapHardware info => info.encode
  | .configAccess access => access.encode

/-- Write the request into `buffer`.  The answer, the size of the record, comes with the buffer
afterwards; a refusal leaves it alone. -/
def encodeInto (r : Request) (buffer : Bytes) : Except RecordError Nat × Bytes :=
  match writeRecord r.encode buffer with
  | .ok (count, written) => (.ok count, written)
  | .error e => (.error e, buffer)

/-- The request in an input buffer sent with `code`. -/
def decode (code : ControlCode) (input : Bytes) : Except RecordError Request :=
  match code.kind? with
  | some .mapHardware => (HardwareInfo.decode input).map .mapHardware
  | some .configAccess => (ConfigRequest.decode input).map .configAccess
  | none => .error (.unknownControlCode code)

/-- A record has the size its kind promises. -/
theorem length_encode (r : Request) : r.encode.length = r.kind.inputSize := by
  cases r with
  | mapHardware info => exact info.length_encode
  | configAccess access => exact access.length_encode

end Request

/-- What a completed request answered. -/
inductive Response where
  /-- The regions mapped for the caller. -/
  | mapHardware (info : HardwareInfo)
  /-- The value read, or zero after a write, and the number of bytes the bus transferred. -/
  | configAccess (data : UInt64) (transferred : Nat)
deriving DecidableEq

/-- The response in the output buffer of a request sent with `code`, of which the driver reported
`information` bytes.  Bytes past the record are ignored. -/
def Response.decode (code : ControlCode) (output : Bytes) (information : Nat) :
    Except RecordError Response :=
  match code.kind? with
  | none => .error (.unknownControlCode code)
  | some kind =>
    if output.length < kind.outputSize then .error (.bufferSize kind.outputSize output.length)
    else
      let record := output.take kind.outputSize
      match kind with
      | .mapHardware => (HardwareInfo.decode record).map .mapHardware
      | .configAccess => .ok (.configAccess (Wire.word64At record 0) information)

end Passthrough
