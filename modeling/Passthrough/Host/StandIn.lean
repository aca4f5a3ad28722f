import Passthrough.Protocol.HardwareInfo

/-!
# Passthrough — stand-ins for drivers

A stand-in takes the place of a driver and answers every request the same way, whatever is asked.
-/

namespace Passthrough

/-- What a stand-in answers. -/
structure StandIn where
  /-- Names it in traces. -/
  label : String
  /-- The status that every request fails with, even if it is `success`. -/
  failure : Option Status
  /-- The record it puts into outputs that have the size of one. -/
  info : Option HardwareInfo
  /-- The word it puts into outputs of eight bytes. -/
  data : Option UInt64
  /-- The count of bytes it reports; the size of the output if there is none. -/
  information : Option Nat
deriving DecidableEq

namespace StandIn

/-- The output of `size` bytes: what the stand-in has for that size, or zeros. -/
def output (s : StandIn) (size : Nat) : Bytes :=
  let known :=
    if size = HardwareInfo.size then s.info.map HardwareInfo.encode
    else if size = 8 then s.data.map Wire.bytes64
    else none
  known.getD (List.replicate size 0)

/-- The answer to a request with an output of `size` bytes: the count of bytes and the output. -/
def answer (s : StandIn) (size : Nat) : Except Status (Nat × Bytes) :=
  match s.failure with
  | some status => .error status
  | none => .ok (s.information.getD size, s.output size)

end StandIn

end Passthrough
