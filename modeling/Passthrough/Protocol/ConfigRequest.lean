import Passthrough.Pci.Address
import Passthrough.Protocol.RecordError

/-!
# Passthrough — configuration-space requests

The record of a request to read or write one location of a function's configuration space, 32 bytes:

| offset | bytes | field |
|---|---|---|
| 0 | 8 | address of the function |
| 8 | 4 | offset in configuration space |
| 12 | 4 | operation, 0 for read and 1 for write |
| 16 | 4 | width in bytes, 1, 2, 4 or 8 |
| 20 | 4 | nothing, zero |
| 24 | 8 | the data to write, in the lowest bytes |

Operation and width are kept as the numbers they are, so that a record with illegal ones can be decoded
and answered with a status of its own.
-/

namespace Passthrough

/-- Direction of an access. -/
inductive ConfigOperation where
  | read
  | write
deriving DecidableEq, Inhabited

/-- Width of an access. -/
inductive AccessWidth where
  | byte
  | word
  | dword
  | qword
deriving DecidableEq, Inhabited

namespace ConfigOperation

def name : ConfigOperation → String
  | .read => "Read"
  | .write => "Write"

def code : ConfigOperation → UInt32
  | .read => 0
  | .write => 1

def ofCode (n : UInt32) : Except RecordError ConfigOperation :=
  if n = 0 then .ok .read else if n = 1 then .ok .write else .error (.invalidOperation n)

end ConfigOperation

namespace AccessWidth

def name : AccessWidth → String
  | .byte => "Byte"
  | .word => "Word"
  | .dword => "Dword"
  | .qword => "Qword"

def bytes : AccessWidth → Nat
  | .byte => 1
  | .word => 2
  | .dword => 4
  | .qword => 8

def code (w : AccessWidth) : UInt32 := UInt32.ofNat w.bytes

def ofCode (n : UInt32) : Except RecordError AccessWidth :=
  if n = 1 then .ok .byte
  else if n = 2 then .ok .word
  else if n = 4 then .ok .dword
  else if n = 8 then .ok .qword
  else .error (.invalidAccessWidth n)

theorem ofCode_eq_ok_iff {n : UInt32} {w : AccessWidth} : ofCode n = .ok w ↔ w.code = n := by
  unfold ofCode
  constructor
  · intro h
    repeat' split at h
    all_goals cases h
    all_goals exact Eq.symm (by assumption)
  · rintro rfl
    cases w <;> rfl

theorem bytes_le (w : AccessWidth) : w.bytes ≤ 8 := by cases w <;> decide

end AccessWidth

/-- A request to read or write configuration space. -/
structure ConfigRequest where
  address : RequestAddress
  offset : UInt32
  operation : UInt32
  width : UInt32
  data : UInt64
deriving DecidableEq, Inhabited

namespace ConfigRequest

def size : Nat := 32

def read (address : RequestAddress) (offset : UInt32) (width : AccessWidth) : ConfigRequest :=
  ⟨address, offset, ConfigOperation.read.code, width.code, 0⟩

def write (address : RequestAddress) (offset : UInt32) (width : AccessWidth) (data : UInt64) :
    ConfigRequest :=
  ⟨address, offset, ConfigOperation.write.code, width.code, data⟩

/-- The width asked for, if it is legal. -/
def accessWidth (r : ConfigRequest) : Except RecordError AccessWidth :=
  AccessWidth.ofCode r.width

/-- The operation asked for, if there is such an operation. -/
def configOperation (r : ConfigRequest) : Except RecordError ConfigOperation :=
  ConfigOperation.ofCode r.operation

def encode (r : ConfigRequest) : Bytes :=
  r.address.encode ++ Wire.bytes32 r.offset ++ Wire.bytes32 r.operation ++ Wire.bytes32 r.width
    ++ Wire.bytes32 0 ++ Wire.bytes64 r.data

/-- The request in a record, which must have exactly the record's size. -/
def decode (bs : Bytes) : Except RecordError ConfigRequest :=
  if bs.length = size then
    .ok {
      address := .decodeAt bs 0
      offset := Wire.word32At bs 8
      operation := Wire.word32At bs 12
      width := Wire.word32At bs 16
      data := Wire.word64At bs 24
    }
  else .error (.bufferSize size bs.length)

@[simp] theorem length_encode (r : ConfigRequest) : r.encode.length = size := by
  simp [encode, size, RequestAddress.size]

end ConfigRequest

end Passthrough
