import Passthrough.Discovery.ScanError
import Passthrough.Sharing.SharedConfig

/-!
# Passthrough — errors of bring-up

Bring-up fails when one of its stages does; the error says which and why.
-/

namespace Passthrough

/-- Why an environment could not be brought up. -/
inductive EnvironmentError where
  | settings (error : SettingsError)
  | sharing (error : SharingError)
  | scan (error : ScanError)
  | segments (error : SegmentError)
deriving DecidableEq

namespace EnvironmentError

/-- The name of an error in programs: the stage and the name within it. -/
def name : EnvironmentError → String
  | .settings error => "Config." ++ error.name
  | .sharing error => "Process." ++ error.name
  | .scan error => "Scan." ++ error.name
  | .segments error => "Memseg." ++ error.name

def message : EnvironmentError → String
  | .settings error => error.message
  | .sharing error => error.message
  | .scan error => "cannot scan the PCI bus: " ++ error.message
  | .segments error => error.message

end EnvironmentError

instance : Failure EnvironmentError := ⟨EnvironmentError.name, EnvironmentError.message⟩

end Passthrough
