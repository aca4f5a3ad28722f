import Passthrough.Failure
import Passthrough.Segments.Layout
import Passthrough.Sharing.FileStore
import Passthrough.Sharing.Settings

/-!
# Passthrough — shared configurations

The processes of a group share one file.  The first to lock it becomes the primary and keeps the lock,
and with it the right to write, for as long as it has the file open; the others are secondaries.

```text
 primary                              secondary
 ───────                              ─────────
 open, lock                           open, find it locked
 size the file, clear the marker      wait for the size
 write the table                      wait for the marker
 set the marker ────────────────────▶ see the marker
                                      read the table
```

Nothing else runs while a process waits here, so what it waits for is there at once or not at all, and who
waits in vain has waited as long as it may.

The processes have the file mapped, in the size it has when they open it.  They go on reading and writing
the mapping when somebody else makes the file shorter.

The system may refuse what a process asks of it on the way, for reasons that lie in none of the files.

* `Refusals` — what the system refuses during one opening.
* `SharedConfig.openAs` — open the file and settle the role.
* `SharedConfig.publish`, `markComplete` — what a primary does.
* `SharedConfig.wait`, `load` — what a secondary does.
-/

namespace Passthrough

/-- A process's hold on the shared configuration. -/
structure SharedConfig where
  path : String
  role : Role
  handle : FileHandle
deriving DecidableEq

/-- Why the shared configuration could not be used. -/
inductive SharingError where
  | openFile (path : String) (reason : SystemError)
  | lock (path : String) (reason : SystemError)
  /-- Another primary has the file. -/
  | primaryRunning (path : String)
  | resize (path : String) (reason : SystemError)
  | map (path : String) (reason : SystemError)
  /-- The primary was not ready within so many milliseconds. -/
  | attachTimeout (path : String) (waited : Nat)
  /-- A secondary must not write. -/
  | notPrimary
  | segments (error : SegmentError)
deriving DecidableEq

def SharingError.name : SharingError → String
  | .openFile .. => "Open"
  | .lock .. => "Lock"
  | .primaryRunning _ => "PrimaryRunning"
  | .resize .. => "Resize"
  | .map .. => "Map"
  | .attachTimeout .. => "AttachTimeout"
  | .notPrimary => "NotPrimary"
  | .segments error => "Memseg." ++ error.name

/-- A number of milliseconds in the largest unit of time that it reaches. -/
def describeMillis (n : Nat) : String :=
  if n = 0 then "0ns"
  else if n < 1000 then toString n ++ "ms"
  else
    -- the last digits first, without the zeros at the end
    let digits := (toString (1000 + n % 1000)).toList.reverse.take 3 |>.dropWhile (· = '0')
    toString (n / 1000) ++ (if digits = [] then "" else "." ++ String.ofList digits.reverse) ++ "s"

def SharingError.message : SharingError → String
  | .openFile path reason => "cannot open shared configuration " ++ path ++ ": " ++ reason.message
  | .lock path reason => "cannot lock shared configuration " ++ path ++ ": " ++ reason.message
  | .primaryRunning path =>
    "cannot lock shared configuration " ++ path ++ ". Is another primary process running?"
  | .resize path reason => "cannot resize shared configuration " ++ path ++ ": " ++ reason.message
  | .map path reason => "cannot map shared configuration " ++ path ++ ": " ++ reason.message
  | .attachTimeout path waited =>
    "no primary process initialized " ++ path ++ " within " ++ describeMillis waited
  | .notPrimary => "only the primary process may publish the shared configuration"
  | .segments error => error.message

instance : Failure SharingError := ⟨SharingError.name, SharingError.message⟩

/-- What the system refuses during an opening, and why; a step that it does not refuse it grants. -/
structure Refusals where
  opening : Option SystemError
  locking : Option SystemError
  /-- Asking for the size of the file. -/
  sizing : Option SystemError
  resizing : Option SystemError
  mapping : Option SystemError
deriving DecidableEq

/-- Nothing is refused. -/
def Refusals.nothing : Refusals := ⟨none, none, none, none, none⟩

namespace SharedConfig

/-- The completion marker of a configuration that is ready. -/
def marker : UInt32 := 19820526

/-- The bytes under the mapping that every process of the group has of the file.  The file had its full
size when it was mapped; it may have become shorter since. -/
def region (s : FileStore) (handle : FileHandle) : ByteArray :=
  (s.content handle.file).mapped Layout.regionSize

/-- The content of a file in which a primary starts: of the right size, with a cleared marker and a
table without lists. -/
def started (content : FileContent) : FileContent :=
  let content := content.resize Layout.regionSize
  content.storeMapped
    (Layout.cleared (Packed.put (content.mapped Layout.regionSize) 0 (Wire.bytes32 0)))

/-- The message about a mapping that was refused. -/
def unmappable (path : String) : Message :=
  ⟨.error, "Cannot mmap the shared configuration at '" ++ path ++ "'"⟩

/-- Start as the primary, who has the lock: size the file, map it, clear the marker and the table.  What a
refusal leaves is the file as it was, or as it was in its new size. -/
def create (s : FileStore) (path : String) (handle : FileHandle) (refusals : Refusals) :
    Except SharingError SharedConfig × FileStore × List Message :=
  let sized := (s.content handle.file).size = Layout.regionSize
  match refusals.sizing.or (if sized then none else refusals.resizing) with
  | some reason => (.error (.resize path reason), s.close handle, [])
  | none =>
    match refusals.mapping with
    | some reason =>
      (.error (.map path reason),
        (s.modify handle.file (·.resize Layout.regionSize)).close handle, [unmappable path])
    | none =>
      (.ok ⟨path, .primary, handle⟩, s.modify handle.file started,
        [⟨.debug, "created shared configuration " ++ path⟩])

/-- Start as a secondary, once the file has its size. -/
def attach (s : FileStore) (path : String) (handle : FileHandle) (timeout : Nat)
    (refusals : Refusals) : Except SharingError SharedConfig × FileStore × List Message :=
  match refusals.sizing with
  | some reason => (.error (.openFile path reason), s.close handle, [])
  | none =>
    if (s.content handle.file).size < Layout.regionSize then
      (.error (.attachTimeout path timeout), s.close handle, [])
    else
      let attached : Message := ⟨.debug, "attached to shared configuration " ++ path⟩
      match refusals.mapping with
      | some reason => (.error (.map path reason), s.close handle, [attached, unmappable path])
      | none => (.ok ⟨path, .secondary, handle⟩, s, [attached])

/-- Take the lock of the file, if nobody else has it. -/
def tryLock (s : FileStore) (path : String) (handle : FileHandle) (refusals : Refusals) :
    Except SharingError (Option FileStore) :=
  match refusals.locking with
  | some reason => .error (.lock path reason)
  | none => .ok (s.tryLock handle)

/-- Open the file at `path` and settle the role.  A process that does not care becomes the primary if
nobody has the lock; one that has to be the primary fails if somebody has, and one that has to be a
secondary does not look.  A secondary waits `timeout` milliseconds for the file to get its size. -/
def openAs (s : FileStore) (path : String) (requested : RoleRequest) (timeout : Nat)
    (refusals : Refusals) : Except SharingError SharedConfig × FileStore × List Message :=
  match refusals.opening.elim (s.openFile path) .error with
  | .error reason =>
    (.error (.openFile path reason), s,
      [⟨.error, "Cannot open '" ++ path ++ "' for the shared configuration"⟩])
  | .ok (handle, s) =>
    match requested with
    | .secondary => attach s path handle timeout refusals
    | .primary =>
      match tryLock s path handle refusals with
      | .error e => (.error e, s.close handle, [])
      | .ok none =>
        (.error (.primaryRunning path), s.close handle,
          [⟨.error, "Cannot create lock on '" ++ path ++ "'. Is another primary process running?"⟩])
      | .ok (some s) => create s path handle refusals
    | .auto =>
      let detected (role : Role) : Message :=
        ⟨.info, "Auto-detected process type: " ++ role.label⟩
      match tryLock s path handle refusals with
      | .error e => (.error e, s.close handle, [])
      | .ok none =>
        let (result, s, log) := attach s path handle timeout refusals
        (result, s, detected .secondary :: log)
      | .ok (some s) =>
        let (result, s, log) := create s path handle refusals
        (result, s, detected .primary :: log)

/-- Close the file, which gives a primary's lock back. -/
def close (shared : SharedConfig) (s : FileStore) : FileStore := s.close shared.handle

/-! ## What a primary does -/

/-- Write the table of a configuration. -/
def publish (shared : SharedConfig) (s : FileStore) (c : MemConfig) :
    Except SharingError Unit × FileStore :=
  if shared.role ≠ .primary then (.error .notPrimary, s)
  else
    let (result, region) := Layout.overwrite (region s shared.handle) c
    (result.mapError .segments, s.modify shared.handle.file (·.storeMapped region))

/-- Let secondaries in. -/
def markComplete (shared : SharedConfig) (s : FileStore) : Except SharingError Unit × FileStore :=
  if shared.role ≠ .primary then (.error .notPrimary, s)
  else (.ok (), s.modify shared.handle.file
    (·.storeMapped (Packed.put (region s shared.handle) 0 (Wire.bytes32 marker))))

/-! ## What a secondary does -/

/-- Whether the primary has let secondaries in. -/
def isComplete (shared : SharedConfig) (s : FileStore) : Bool :=
  Packed.word32At (region s shared.handle) 0 = marker

/-- Wait `timeout` milliseconds for the primary to let secondaries in. -/
def wait (shared : SharedConfig) (s : FileStore) (timeout : Nat) : Except SharingError Unit :=
  if shared.isComplete s then .ok () else .error (.attachTimeout shared.path timeout)

/-- Read the configuration that the primary wrote. -/
def load (shared : SharedConfig) (s : FileStore) : Except SharingError MemConfig :=
  (Layout.read (region s shared.handle)).mapError .segments

end SharedConfig

end Passthrough
