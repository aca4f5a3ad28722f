import Passthrough.Sharing.SharedConfig

/-!
# Passthrough — sessions with shared configurations

Several holds on shared configurations at once, each under a name.  A hold that takes the name of
another replaces it, and the other is closed once the new one is open.

* `Session.openAs`, `Session.close` — new holds and the end of holds.
* `Session.hold?`, `Session.change` — the hold under a name and what it does to the store.
-/

namespace Passthrough

/-- A file store, the holds on shared configurations in it, and the messages about them. -/
structure Session where
  store : FileStore
  holds : List (String × SharedConfig)
  log : List Message

namespace Session

def start (store : FileStore) : Session := ⟨store, [], []⟩

def forget (s : Session) : Session := { s with log := [] }

def hold? (s : Session) (name : String) : Option SharedConfig :=
  (s.holds.find? fun h => h.1 = name).map (·.2)

/-- End the hold under a name; the answer says whether there was one. -/
def close (s : Session) (name : String) : Bool × Session :=
  match s.hold? name with
  | none => (false, s)
  | some shared =>
    (true, { s with
      store := shared.close s.store
      holds := s.holds.filter fun h => h.1 ≠ name })

/-- Open a shared configuration under a name.  On failure the hold under that name stays. -/
def openAs (s : Session) (name path : String) (requested : RoleRequest) (timeout : Nat)
    (refusals : Refusals) : Except SharingError Role × Session :=
  let (result, store, log) := SharedConfig.openAs s.store path requested timeout refusals
  let s := { s with store, log := s.log ++ log }
  match result with
  | .error e => (.error e, s)
  | .ok shared =>
    let (_, s) := s.close name
    (.ok shared.role, { s with holds := (name, shared) :: s.holds })

/-- Let the hold under a name change the store, if there is one. -/
def change (s : Session) (name : String)
    (f : SharedConfig → FileStore → Except SharingError Unit × FileStore) :
    Option (Except SharingError Unit) × Session :=
  match s.hold? name with
  | none => (none, s)
  | some shared =>
    let (result, store) := f shared s.store
    (some result, { s with store })

end Session

end Passthrough
