import Passthrough.Discovery.Identity
import Passthrough.Failure
import Passthrough.Log
import Passthrough.Protocol.Status
import Passthrough.Segments.SegmentError

/-!
# Passthrough — what goes wrong in a scan

A scan fails if the platform cannot list its devices or if none of them can be used.  A single node that
cannot be used is passed over, for one of six reasons.
-/

namespace Passthrough

/-- Why a scan failed. -/
inductive ScanError where
  | enumerate (reason : String)
  /-- No node led to a device. -/
  | noDevices
deriving DecidableEq

namespace ScanError

def name : ScanError → String
  | .enumerate _ => "Enumerate"
  | .noDevices => "NoDevices"

def message : ScanError → String
  | .enumerate reason => "cannot enumerate devices: " ++ reason
  | .noDevices => "no PCI devices found"

end ScanError

instance : Failure ScanError := ⟨ScanError.name, ScanError.message⟩

/-- Why a node was passed over. -/
inductive Skip where
  | noLocation
  | noHardwareId
  | identity (error : IdentityError)
  | noInterface
  /-- The driver did not map the hardware. -/
  | map (status : Status)
  /-- The scratch pool could not be stored. -/
  | segments (error : SegmentError)
deriving DecidableEq

def Skip.reason : Skip → String
  | .noLocation => "no location information"
  | .noHardwareId => "no hardware id"
  | .identity error => error.message
  | .noInterface => "no netuio interface"
  | .map status => "map hardware failed: " ++ status.message
  | .segments error => "cannot store memory segments: " ++ error.message

/-- The message about a node, given by its id, that was passed over.  That a pool could not be stored is
an error, the other reasons are ordinary. -/
def Skip.message (skip : Skip) (node : String) : Message :=
  match skip with
  | .segments _ => ⟨.error, node ++ ": " ++ skip.reason⟩
  | _ => ⟨.debug, node ++ ": skipped, " ++ skip.reason⟩

end Passthrough
