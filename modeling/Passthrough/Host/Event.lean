import Passthrough.Driver.Calls
import Passthrough.Driver.DriverError
import Passthrough.Protocol.ControlCode

/-!
# Passthrough — events on a host

Everything that can be observed on a host from outside a process, in order: the calls of the drivers on
their platforms, the ends of handles, the calls on stand-ins, and the questions to the device tree.

* `HostEvent.line` — the line an event makes in a trace.
-/

namespace Passthrough

/-- An event on a host. -/
inductive HostEvent where
  /-- Driver `index` made a call on its platform. -/
  | platform (index : Nat) (call : PlatformCall)
  /-- A handle was closed; the driver's answer to that. -/
  | handleClosed (handle : HandleId) (answer : Except DriverError Bool)
  /-- A stand-in got a request. -/
  | standInCalled (label : String) (code : ControlCode) (input : Bytes) (outputSize : Nat)
  /-- The channel to a stand-in was closed. -/
  | standInClosed (label : String)
  /-- The device tree was asked for its nodes. -/
  | nodesListed (classFilter : Option String)
  /-- The device tree was asked for the interface of a node. -/
  | interfaceSought (node : String)

/-- The error with its fields spelled out, as far as the end of a handle can have it. -/
def DriverError.describe : DriverError → String
  | .wrongProcess owner caller =>
    "WrongProcess \x7b owner: " ++ owner.describe ++ ", caller: " ++ caller.describe ++ " \x7d"
  | error => error.name

/-- A driver's answer to the end of a handle. -/
def describeCleanUp : Except DriverError Bool → String
  | .ok true => "Ok(true)"
  | .ok false => "Ok(false)"
  | .error e => "Err(" ++ e.describe ++ ")"

def HostEvent.line : HostEvent → String
  | .platform index call => "d" ++ toString index ++ " " ++ call.line
  | .handleClosed handle answer =>
    "close handle " ++ toString handle.number.toNat ++ " -> " ++ describeCleanUp answer
  | .standInCalled label code input outputSize =>
    label ++ " call " ++ code.toText ++ " " ++ Text.hexBytes input ++ " out "
      ++ toString outputSize
  | .standInClosed label => label ++ " close"
  | .nodesListed classFilter => "tree devices class=" ++ classFilter.getD "-"
  | .interfaceSought node => "tree open " ++ node

end Passthrough
