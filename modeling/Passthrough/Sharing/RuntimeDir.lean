import Passthrough.Sharing.FileStore
import Passthrough.Sharing.Settings

/-!
# Passthrough — runtime directories

The directory of a group is made one level at a time.  A level that is there already is fine:
another process may have made it.
-/

namespace Passthrough

/-- Make a directory unless something with its name is there. -/
def FileStore.ensureDirectory (s : FileStore) (path : String) : Except SystemError FileStore :=
  match s.createDirectory path with
  | .error .alreadyExists => .ok s
  | result => result

/-- Make the directory of the group.  On failure the levels made before stay. -/
def Settings.createRuntimeDir (settings : Settings) (s : FileStore) :
    Except SettingsError String × FileStore :=
  match s.ensureDirectory settings.sharedDir with
  | .error reason => (.error (.runtimeDir settings.sharedDir reason), s)
  | .ok s =>
    match s.ensureDirectory settings.runtimeDir with
    | .error reason => (.error (.runtimeDir settings.runtimeDir reason), s)
    | .ok s => (.ok settings.runtimeDir, s)

end Passthrough
