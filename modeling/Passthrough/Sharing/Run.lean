import Passthrough.Sharing.Session

/-!
# Passthrough — runs of a session

What the processes of a group do with one shared configuration, as data: they open it, publish, mark it
complete, look at it and close it, each under the name of a hold.  What the system refuses of an opening
is part of the action.

* `SessionAction`, `Session.step` — one thing that is done, what it answers and what it does.
* `Session.run`, `Session.outcomes` — a sequence of them, and their answers.
-/

namespace Passthrough

/-- Something that is done with a shared configuration under a name. -/
inductive SessionAction where
  | openAs (name : String) (requested : RoleRequest) (timeout : Nat) (refusals : Refusals)
  | publish (name : String) (c : MemConfig)
  | markComplete (name : String)
  | isComplete (name : String)
  | wait (name : String) (timeout : Nat)
  | load (name : String)
  | close (name : String)

/-- What an action answers; nothing if there is no hold under the name. -/
inductive SessionOutcome where
  | opened (result : Except SharingError Role)
  | changed (result : Option (Except SharingError Unit))
  | complete (answer : Option Bool)
  | waited (result : Option (Except SharingError Unit))
  | loaded (result : Option (Except SharingError MemConfig))
  | closed (there : Bool)

namespace Session

/-- What one action on the shared configuration at `path` does. -/
def step (s : Session) (path : String) : SessionAction → SessionOutcome × Session
  | .openAs name requested timeout refusals =>
    let (result, s) := s.openAs name path requested timeout refusals
    (.opened result, s)
  | .publish name c =>
    let (result, s) := s.change name fun shared store => shared.publish store c
    (.changed result, s)
  | .markComplete name =>
    let (result, s) := s.change name SharedConfig.markComplete
    (.changed result, s)
  | .isComplete name => (.complete ((s.hold? name).map (·.isComplete s.store)), s)
  | .wait name timeout => (.waited ((s.hold? name).map (·.wait s.store timeout)), s)
  | .load name => (.loaded ((s.hold? name).map (·.load s.store)), s)
  | .close name =>
    let (there, s) := s.close name
    (.closed there, s)

def run (s : Session) (path : String) : List SessionAction → Session
  | [] => s
  | action :: actions => (s.step path action).2.run path actions

/-- What a sequence of actions answers. -/
def outcomes (s : Session) (path : String) : List SessionAction → List SessionOutcome
  | [] => []
  | action :: actions =>
    (s.step path action).1 :: (s.step path action).2.outcomes path actions

end Session

end Passthrough
