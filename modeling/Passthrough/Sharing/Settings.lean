import Passthrough.Failure
import Passthrough.Sharing.Path
import Passthrough.SystemError
import Passthrough.Text.Quoted

/-!
# Passthrough — settings of a process

Processes that share memory form a group, named by its file prefix, from which the places of its
files below the runtime root are derived.

* `Settings.validate` — the settings that no process could start with.
* `Settings.runtimeDir`, `Settings.configPath` — the places.
-/

namespace Passthrough

/-- The part a process plays in its group. -/
inductive Role where
  /-- The one that creates and writes the shared configuration. -/
  | primary
  /-- One that reads it. -/
  | secondary
deriving DecidableEq

/-- The part a process asks for. -/
inductive RoleRequest where
  | primary
  | secondary
  /-- Primary if there is none yet. -/
  | auto
deriving DecidableEq

def Role.label : Role → String
  | .primary => "PRIMARY"
  | .secondary => "SECONDARY"

def RoleRequest.label : RoleRequest → String
  | .primary => Role.primary.label
  | .secondary => Role.secondary.label
  | .auto => "AUTO"

/-- Settings of one process. -/
structure Settings where
  /-- Names the group. -/
  filePrefix : String
  role : RoleRequest
  /-- Whether the configuration is kept in the process and not in a file. -/
  unshared : Bool
  /-- The directory below which all files are. -/
  root : String
  /-- How many milliseconds a secondary waits for the primary. -/
  attachTimeout : Nat
  /-- The setup class that enumeration is narrowed to. -/
  classFilter : Option String
deriving DecidableEq

/-- What is wrong with settings, or with the places derived from them. -/
inductive SettingsError where
  | emptyPrefix
  | invalidPrefix (filePrefix : String)
  /-- A secondary needs the file that the settings do without. -/
  | secondaryUnshared
  /-- A directory could not be made. -/
  | runtimeDir (path : String) (reason : SystemError)
deriving DecidableEq

def SettingsError.name : SettingsError → String
  | .emptyPrefix => "EmptyPrefix"
  | .invalidPrefix _ => "InvalidPrefix"
  | .secondaryUnshared => "SecondaryWithoutSharedConfig"
  | .runtimeDir .. => "RuntimeDir"

def SettingsError.message : SettingsError → String
  | .emptyPrefix => "file prefix must not be empty"
  | .invalidPrefix p => "file prefix " ++ Text.quoted p ++ " must not contain path separators"
  | .secondaryUnshared => "secondary processes need a shared configuration file"
  | .runtimeDir path reason =>
    "cannot create runtime directory " ++ path ++ ": " ++ reason.message

instance : Failure SettingsError := ⟨SettingsError.name, SettingsError.message⟩

namespace Settings

/-- The file prefix when none is chosen. -/
def defaultPrefix : String := "rte"

/-- The timeout when none is chosen. -/
def defaultTimeout : Nat := 10000

/-- The settings with a runtime root and nothing else chosen. -/
def ofRoot (root : String) : Settings where
  filePrefix := defaultPrefix
  role := .auto
  unshared := false
  root := root
  attachTimeout := defaultTimeout
  classFilter := none

/-- Refuse settings that no process could start with. -/
def validate (s : Settings) : Except SettingsError Unit :=
  if s.filePrefix.toList = [] then .error .emptyPrefix
  else if s.filePrefix.toList.any (fun c => c = '/' || c = '\\') then
    .error (.invalidPrefix s.filePrefix)
  else if s.unshared && s.role = .secondary then .error .secondaryUnshared
  else .ok ()

/-- The directory that all groups below the root share. -/
def sharedDir (s : Settings) : String := Path.join s.root "dpdk"

def runtimeDir (s : Settings) : String := Path.join s.sharedDir s.filePrefix

def configPath (s : Settings) : String := Path.join s.root (s.filePrefix ++ ".config")

end Settings

end Passthrough
