import Passthrough.Discovery.HardwareId
import Passthrough.Discovery.Location
import Passthrough.Discovery.ScanError
import Passthrough.Host.Host

/-!
# Passthrough — device trees

The platform lists the devices of a host as nodes.  A node is known by an id of the platform's own, and
gives away what it is in two texts.

* `DeviceTree` — what a platform lists, and what it opens for a node.
* `DeviceNode.identify` — address and identity of the function that a node stands for.
-/

namespace Passthrough

/-- A device as the platform lists it. -/
structure DeviceNode where
  id : String
  location : Option String
  hardwareId : Option String
deriving DecidableEq

/-- The devices of a platform. -/
structure DeviceTree where
  /-- The nodes, of one setup class or of all, or why they cannot be listed. -/
  list : Option String → Except ScanError (List DeviceNode)
  /-- What can be opened to reach the driver of a node. -/
  interface? : DeviceNode → Option Interface

/-- Address and identity of the function that a node stands for. -/
def DeviceNode.identify (node : DeviceNode) : Except Skip (FunctionAddress × HardwareId) := do
  let some location := node.location | .error .noLocation
  let address ← (Location.parse location).mapError .identity
  let some hardwareId := node.hardwareId | .error .noHardwareId
  let id ← (HardwareId.parse hardwareId).mapError .identity
  .ok (address, id)

/-- A tree that lists the same nodes for every class, all of which lead to one interface or to none. -/
def DeviceTree.leadingTo (interface : Option Interface) (nodes : List DeviceNode) : DeviceTree where
  list _ := .ok nodes
  interface? _ := interface

end Passthrough
