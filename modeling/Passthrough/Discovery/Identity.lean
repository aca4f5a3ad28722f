import Passthrough.Failure
import Passthrough.Text.Quoted

/-!
# Passthrough — what identity texts lack

The platform describes a device by two texts, its location and its hardware identity.  Either can fail to
give one of the numbers that are read from it.
-/

namespace Passthrough

/-- What is read from an identity text. -/
inductive IdentityPart where
  | bus
  | device
  | function
  | idList
  | vendorId
  | deviceId
  | subsystemId
  | subsystemDeviceId
  | subsystemVendorId
deriving DecidableEq

def IdentityPart.label : IdentityPart → String
  | .bus => "bus"
  | .device => "device"
  | .function => "function"
  | .idList => "id list"
  | .vendorId => "vendor id"
  | .deviceId => "device id"
  | .subsystemId => "subsystem id"
  | .subsystemDeviceId => "subsystem device id"
  | .subsystemVendorId => "subsystem vendor id"

/-- What is wrong with an identity text. -/
inductive IdentityError where
  /-- The location is not that of a PCI function. -/
  | notPci (input : String)
  /-- The piece that should hold the part is not there. -/
  | missing (part : IdentityPart) (input : String)
  /-- The piece holds no number. -/
  | notANumber (part : IdentityPart) (input : String)
  /-- The number is too large for the part. -/
  | outOfRange (part : IdentityPart) (value : Nat) (input : String)
deriving DecidableEq

def IdentityError.name : IdentityError → String
  | .notPci _ => "NotPci"
  | .missing .. => "MissingField"
  | .notANumber .. => "NotANumber"
  | .outOfRange .. => "OutOfRange"

def IdentityError.message : IdentityError → String
  | .notPci input => "location " ++ Text.quoted input ++ " does not describe a PCI function"
  | .missing part input => part.label ++ " is missing from " ++ Text.quoted input
  | .notANumber part input => part.label ++ " in " ++ Text.quoted input ++ " is not a number"
  | .outOfRange part value input =>
    part.label ++ " " ++ toString value ++ " in " ++ Text.quoted input ++ " is out of range"

instance : Failure IdentityError := ⟨IdentityError.name, IdentityError.message⟩

end Passthrough
