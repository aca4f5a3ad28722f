import Passthrough.Protocol.ControlCode
import Passthrough.Protocol.Status
import Passthrough.Wire

/-!
# Passthrough — errors of records

What can be wrong with a record, a code or a number taken from the wire, the text that says so, and
the status with which a driver answers a request that has it.
-/

namespace Passthrough

/-- What is wrong with a record or a number taken from one. -/
inductive RecordError where
  /-- An input that is not exactly the record, or an output too short for it. -/
  | bufferSize (expected actual : Nat)
  /-- A code outside the protocol. -/
  | unknownControlCode (code : ControlCode)
  /-- An access width other than 1, 2, 4 and 8 bytes. -/
  | invalidAccessWidth (width : UInt32)
  /-- An operation other than read and write. -/
  | invalidOperation (operation : UInt32)
  /-- A status number outside the protocol. -/
  | unknownStatus (code : UInt32)
deriving DecidableEq

namespace RecordError

def name : RecordError → String
  | .bufferSize .. => "BufferSize"
  | .unknownControlCode _ => "UnknownControlCode"
  | .invalidAccessWidth _ => "InvalidAccessWidth"
  | .invalidOperation _ => "InvalidOperation"
  | .unknownStatus _ => "UnknownStatus"

def message : RecordError → String
  | .bufferSize expected actual =>
    "buffer size mismatch: expected " ++ toString expected ++ " bytes, got " ++ toString actual
  | .unknownControlCode code => "unknown control code " ++ code.toText
  | .invalidAccessWidth width => "invalid config-space access width " ++ toString width.toNat
  | .invalidOperation operation => "invalid config-space operation " ++ toString operation.toNat
  | .unknownStatus code => "unknown status " ++ Text.word32 code

/-- The status that answers a request with this error. -/
def status : RecordError → Status
  | .bufferSize .. => .invalidBufferSize
  | .unknownControlCode _ => .invalidDeviceRequest
  | .invalidAccessWidth _ => .invalidParameter
  | .invalidOperation _ => .invalidParameter
  | .unknownStatus _ => .unsuccessful

end RecordError

def Status.ofCode (n : UInt32) : Except RecordError Status :=
  match ofCode? n with
  | some s => .ok s
  | none => .error (.unknownStatus n)

/-- Lay the bytes of a record over the front of `buffer`.  The answer is the record's size and the
buffer after it; a buffer that is too short is refused. -/
def writeRecord (record buffer : Bytes) : Except RecordError (Nat × Bytes) :=
  if buffer.length < record.length then .error (.bufferSize record.length buffer.length)
  else .ok (record.length, record ++ buffer.drop record.length)

end Passthrough
