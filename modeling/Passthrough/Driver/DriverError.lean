import Passthrough.Driver.Calls
import Passthrough.Protocol.Status

/-!
# Passthrough — errors of the driver's lifecycle

Why attaching, preparing or cleaning up failed, the text that says so and the status the platform is
given.
-/

namespace Passthrough

/-- Why a lifecycle operation failed. -/
inductive DriverError where
  /-- The platform does not know a property of the device. -/
  | property (name : String)
  | poolAllocation (size : UInt64)
  /-- The configuration header could not be read in full. -/
  | shortHeaderRead (expected actual : Nat)
  /-- A present register has no memory resource left to go with it. -/
  | missingMemoryResource (slot : Nat)
  /-- Registers could not be mapped into kernel space. -/
  | registerMapping (slot : Nat)
  /-- Mappings can only be undone by the process that owns them. -/
  | wrongProcess (owner caller : ProcessId)
  | released
deriving DecidableEq

namespace DriverError

def name : DriverError → String
  | .property _ => "Property"
  | .poolAllocation _ => "PoolAllocation"
  | .shortHeaderRead .. => "ShortHeaderRead"
  | .missingMemoryResource _ => "MissingMemoryResource"
  | .registerMapping _ => "IoSpaceMapping"
  | .wrongProcess .. => "WrongProcess"
  | .released => "Released"

def message : DriverError → String
  | .property name => "device property " ++ name ++ " unavailable"
  | .poolAllocation size =>
    "scratch pool allocation of " ++ toString size.toNat ++ " bytes failed"
  | .shortHeaderRead expected actual =>
    "configuration header read returned " ++ toString actual ++ " of " ++ toString expected
      ++ " bytes"
  | .missingMemoryResource slot => "no memory resource for BAR " ++ toString slot
  | .registerMapping slot => "mapping BAR " ++ toString slot ++ " into kernel space failed"
  | .wrongProcess owner caller =>
    "mappings belong to " ++ owner.describe ++ ", cleanup attempted from " ++ caller.describe
  | .released => "device already released"

def status : DriverError → Status
  | .property _ => .unsuccessful
  | .poolAllocation _ => .noMemory
  | .shortHeaderRead .. => .notSupported
  | .missingMemoryResource _ => .deviceConfigurationError
  | .registerMapping _ => .insufficientResources
  | .wrongProcess .. => .invalidDeviceState
  | .released => .invalidDeviceState

end DriverError

end Passthrough
