import Passthrough.Discovery.Identity
import Passthrough.Text.Fields

/-!
# Passthrough — hardware identities

A hardware identity such as `PCI\VEN_8086&DEV_153A&SUBSYS_00008086&REV_04` names vendor, device and
subsystem.  The list behind the first backslash is cut at ampersands, each piece at underscores, and the
second part of each of the first three pieces holds a hexadecimal number behind other characters.

A subsystem of exactly eight bytes is the subsystem's device number in the first four and its vendor
number in the last four; any other is the device number alone.
-/

namespace Passthrough

/-- Vendor, device and subsystem numbers of a PCI function. -/
structure HardwareId where
  vendor : UInt16
  device : UInt16
  subsystemVendor : UInt16
  subsystemDevice : UInt16
deriving DecidableEq, Inhabited

namespace HardwareId

def zero : HardwareId := ⟨0, 0, 0, 0⟩

/-- The second part of a piece. -/
def valueOf (input : String) (part : IdentityPart) (piece : Option (List Char)) :
    Except IdentityError (List Char) :=
  match piece.bind fun cs => (Text.fields '_' cs)[1]? with
  | some value => .ok value
  | none => .error (.missing part input)

/-- The hexadecimal number in a value, which has to fit 16 bits. -/
def wordOf (input : String) (part : IdentityPart) (value : List Char) :
    Except IdentityError UInt16 :=
  match Text.leadingNumber 16 (value.dropWhile fun c => !Text.isDigit 16 c) with
  | none => .error (.notANumber part input)
  | some n =>
    if n < 65536 then .ok (UInt16.ofNat n) else .error (.outOfRange part n input)

/-- The halves of a subsystem value that holds both numbers. -/
def halves (value : List Char) : Option (List Char × List Char) :=
  if Text.byteLength value = 8 then Text.cutBytes 4 value else none

/-- Device and vendor number of the subsystem. -/
def subsystemOf (input : String) (value : List Char) :
    Except IdentityError (UInt16 × UInt16) := do
  match halves value with
  | some (high, low) =>
    let device ← wordOf input .subsystemDeviceId high
    let vendor ← wordOf input .subsystemVendorId low
    .ok (device, vendor)
  | none =>
    let device ← wordOf input .subsystemDeviceId value
    .ok (device, 0)

/-- The numbers that a hardware identity names. -/
def parse (input : String) : Except IdentityError HardwareId := do
  let some list := (Text.fields '\\' input.toList)[1]? | .error (.missing .idList input)
  let pieces := Text.fields '&' list
  let vendor ← valueOf input .vendorId pieces[0]?
  let device ← valueOf input .deviceId pieces[1]?
  let subsystem ← valueOf input .subsystemId pieces[2]?
  let (subsystemDevice, subsystemVendor) ← subsystemOf input subsystem
  let vendor ← wordOf input .vendorId vendor
  let device ← wordOf input .deviceId device
  .ok { vendor, device, subsystemVendor, subsystemDevice }

end HardwareId

end Passthrough
