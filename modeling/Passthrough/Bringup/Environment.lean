import Passthrough.Bringup.EnvironmentError
import Passthrough.Discovery.Scan
import Passthrough.Segments.Reservation
import Passthrough.Sharing.RuntimeDir

/-!
# Passthrough — environments

An environment is what a process runs in: its role, its devices and its memory.

```text
 settings ──▶ runtime directory ──▶ shared configuration ──▶ role
                                                              │
        primary: scan, publish the lists, let secondaries in ◀┤
        secondary: wait, read the lists, set ranges aside    ◀┘
```

A primary that does without the shared configuration only scans.  When a stage fails, what the stages
before it took is given back.  What the system refuses of the file, and where it places ranges, is up to the
system and given from outside.

* `Machine` — the host and the files that environments live on.
* `Machine.bringUp`, `Machine.takeDown` — the life of an environment.
* `Machine.launch`, `Machine.shutDown` — the same for environments that are kept under names.
-/

namespace Passthrough

/-- What a process runs in. -/
structure Environment where
  settings : Settings
  role : Role
  /-- The shared configuration, unless the environment does without it. -/
  shared : Option SharedConfig
  config : MemConfig
  /-- The devices that the environment has mapped; a secondary has none. -/
  devices : DeviceList Channel
  /-- What a secondary has set aside for the lists. -/
  reservations : List Reservation

/-- What environments live on, and the environments that are kept under names. -/
structure Machine where
  host : Host
  files : FileStore
  environments : List (String × Environment)

namespace Machine

def tell (m : Machine) (messages : List Message) : Machine :=
  { m with host := m.host.tell messages }

/-- Close a shared configuration, if there is one. -/
def closeShared (m : Machine) (shared : Option SharedConfig) : Machine :=
  match shared with
  | none => m
  | some shared => { m with files := shared.close m.files }

/-! ## The two roles -/

/-- Publish a configuration and let secondaries in, if there is a file to publish it in. -/
def publish (shared : Option SharedConfig) (c : MemConfig) (files : FileStore) :
    Except SharingError Unit × FileStore :=
  match shared with
  | none => (.ok (), files)
  | some shared =>
    match shared.publish files c with
    | (.error e, files) => (.error e, files)
    | (.ok (), files) => shared.markComplete files

def bringUpPrimary (m : Machine) (settings : Settings) (shared : Option SharedConfig)
    (tree : DeviceTree) : Checked (Except EnvironmentError Environment × Machine) := do
  let (found, s) ← Survey.scan ⟨m.host, .empty, .empty⟩ tree settings.classFilter
  let giveUp (e : EnvironmentError) (files : FileStore) :
      Except EnvironmentError Environment × Machine :=
    (.error e, { m with host := s.dropDevices.host, files }.closeShared shared)
  match found with
  | .error e => .ok (giveUp (.scan e) m.files)
  | .ok _ =>
    match publish shared s.config m.files with
    | (.error e, files) => .ok (giveUp (.sharing e) files)
    | (.ok (), files) =>
      let message : Message :=
        ⟨.info, settings.filePrefix ++ ": primary process up with " ++ toString s.devices.len
          ++ " devices, " ++ toString s.config.len ++ " memseg lists"⟩
      .ok (.ok ⟨settings, .primary, shared, s.config, s.devices, []⟩,
        { m with host := s.host.tell [message], files })

def bringUpSecondary (m : Machine) (settings : Settings) (shared : SharedConfig)
    (place : Placement) : Checked (Except EnvironmentError Environment × Machine) :=
  match (do shared.wait m.files settings.attachTimeout; shared.load m.files) with
  | .error e => .ok (.error (.sharing e), m.closeShared (some shared))
  | .ok c => do
    let reserved ← reserveLists place c
    let m := m.tell reserved.log
    match reserved.result with
    | .error e => .ok (.error (.segments e), m.closeShared (some shared))
    | .ok reservations =>
      let message : Message :=
        ⟨.info, settings.filePrefix ++ ": secondary process attached to "
          ++ toString reserved.config.len ++ " memseg lists"⟩
      .ok (.ok ⟨settings, .secondary, some shared, reserved.config, .empty, reservations⟩,
        m.tell [message])

/-! ## Environments -/

/-- Bring up an environment with settings, on a tree of drivers.  The system refuses `refusals` of the
shared configuration and places the ranges of a secondary by `place`. -/
def bringUp (m : Machine) (settings : Settings) (tree : DeviceTree) (refusals : Refusals)
    (place : Placement) : Checked (Except EnvironmentError Environment × Machine) :=
  match settings.validate with
  | .error e => .ok (.error (.settings e), m)
  | .ok () =>
    if settings.unshared then m.bringUpPrimary settings none tree
    else
      match settings.createRuntimeDir m.files with
      | (.error e, files) => .ok (.error (.settings e), { m with files })
      | (.ok _, files) =>
        match SharedConfig.openAs files settings.configPath settings.role settings.attachTimeout
          refusals with
        | (.error e, files, log) => .ok (.error (.sharing e), { m with files }.tell log)
        | (.ok shared, files, log) =>
          let m := { m with files }.tell log
          match shared.role with
          | .primary => m.bringUpPrimary settings (some shared) tree
          | .secondary => m.bringUpSecondary settings shared place

/-- Take an environment down: close the shared configuration and all devices.  Its reservations go with it. -/
def takeDown (m : Machine) (r : Environment) : Machine :=
  let m := m.closeShared r.shared
  { m with host := m.host.closeChannels r.devices.channels }

/-! ## Environments under names -/

def environment? (m : Machine) (name : String) : Option Environment :=
  (m.environments.find? fun r => r.1 = name).map (·.2)

/-- Take the environment under a name down; the answer says whether there was one. -/
def shutDown (m : Machine) (name : String) : Bool × Machine :=
  match m.environment? name with
  | none => (false, m)
  | some r => (true, { m with environments := m.environments.filter fun r => r.1 ≠ name }.takeDown r)

/-- Bring up an environment and keep it under a name.  The environment that was there is taken down once the
new one is up. -/
def launch (m : Machine) (name : String) (settings : Settings) (tree : DeviceTree)
    (refusals : Refusals) (place : Placement) :
    Checked (Except EnvironmentError Environment × Machine) := do
  let (result, m) ← m.bringUp settings tree refusals place
  match result with
  | .error e => .ok (.error e, m)
  | .ok r =>
    let (_, m) := m.shutDown name
    .ok (.ok r, { m with environments := (name, r) :: m.environments })

end Machine

end Passthrough
