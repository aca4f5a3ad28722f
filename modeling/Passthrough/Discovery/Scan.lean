import Passthrough.Discovery.DeviceTree
import Passthrough.Segments.MemConfig

/-!
# Passthrough — scans of a device tree

A scan visits every node of a tree, in order.  A node leads to a device if it tells where its function
is and what it is, if its interface can be opened and the driver maps the hardware, and if the scratch
pool fits a free segment list.  A node that does not is passed over, with everything undone.  A function
that the process has mapped already counts, but is not opened again.

* `Survey` — what a scan works on.
* `Survey.visit` — one node.
* `Survey.scan` — all of them.
-/

namespace Passthrough

/-- The host, the devices that are known on it, and the segment lists of their pools. -/
structure Survey where
  host : Host
  devices : DeviceList Channel
  config : MemConfig

namespace Survey

def say (s : Survey) (severity : Severity) (text : String) : Survey :=
  { s with host := s.host.say severity text }

/-- Add a record to the devices and close the channel that is left over. -/
def insert (s : Survey) (r : DeviceRecord Channel) : Inserted × Survey :=
  let i := s.devices.insert r
  (i.inserted, { s with
    devices := i.list
    host := s.host.closeChannels i.leftOver.toList })

/-- Do something with the record of the function at `address`, if there is one. -/
def withRecord {α : Type} (s : Survey) (address : FunctionAddress)
    (f : Host → DeviceRecord Channel → Checked (α × Host)) : Checked (Option α × Survey) :=
  match s.devices.get? address with
  | none => .ok (none, s)
  | some r => do
    let (answer, host) ← f s.host r
    .ok (some answer, { s with host })

/-- Give all devices up. -/
def dropDevices (s : Survey) : Survey :=
  { s with devices := .empty, host := s.host.closeChannels s.devices.channels }

/-- Map a function through an open channel and store its pool.  The channel stays open only if both
succeed. -/
def acquire (s : Survey) (address : FunctionAddress) (id : HardwareId) (channel : Channel) :
    Checked (Except Skip (DeviceRecord Channel) × Survey) := do
  let (answer, host) ← s.host.mapHardware channel address.toRequest id.device
  match answer with
  | .error status => .ok (.error (.map status), { s with host := host.closeChannel channel })
  | .ok info => do
    let stored ← s.config.storePool info.scratch info.numaNode.toUInt32.toInt32
    let s := { s with host := host.tell stored.log, config := stored.config }
    match stored.result with
    | .error e => .ok (.error (.segments e), { s with host := s.host.closeChannel channel })
    | .ok _ => .ok (.ok ((DeviceRecord.new address id).bind info channel), s)

/-- Open the interface of a node and acquire the function behind it. -/
def openNode (s : Survey) (tree : DeviceTree) (node : DeviceNode) (address : FunctionAddress)
    (id : HardwareId) : Checked (Except Skip (DeviceRecord Channel) × Survey) :=
  let s := { s with host := s.host.note (.interfaceSought node.id) }
  match (tree.interface? node).bind s.host.openInterface with
  | none => .ok (.error .noInterface, s)
  | some (channel, host) => { s with host }.acquire address id channel

/-- The message about a device that a node led to. -/
def foundMessage (node : DeviceNode) (r : DeviceRecord Channel) : Message :=
  ⟨.debug, node.id ++ ": " ++ r.name ++ " (" ++ Text.hexLower 4 r.id.vendor.toNat ++ ":"
    ++ Text.hexLower 4 r.id.device.toNat ++ ") at " ++ (InstanceName.mk r.address.toRequest).userPath⟩

/-- Visit a node; the answer says whether it counts. -/
def visit (s : Survey) (tree : DeviceTree) (node : DeviceNode) : Checked (Bool × Survey) :=
  match node.identify with
  | .error skip => .ok (false, { s with host := s.host.tell [skip.message node.id] })
  | .ok (address, id) =>
    if s.devices.isBound address then
      .ok (true, s.say .debug (node.id ++ ": " ++ address.toText ++ " is already mapped"))
    else do
      let (result, s) ← s.openNode tree node address id
      match result with
      | .error skip => .ok (false, { s with host := s.host.tell [skip.message node.id] })
      | .ok r =>
        let (_, s) := { s with host := s.host.tell [foundMessage node r] }.insert r
        .ok (true, s)

/-- Visit nodes in order; the answer is how many count. -/
def visitAll (s : Survey) (tree : DeviceTree) : List DeviceNode → Checked (Nat × Survey)
  | [] => .ok (0, s)
  | node :: nodes => do
    let (counts, s) ← s.visit tree node
    let (found, s) ← s.visitAll tree nodes
    .ok (found + counts.toNat, s)

/-- Scan a tree; the answer is how many devices were found. -/
def scan (s : Survey) (tree : DeviceTree) (classFilter : Option String) :
    Checked (Except ScanError Nat × Survey) :=
  let s := { s with host := s.host.note (.nodesListed classFilter) }
  match tree.list classFilter with
  | .error e => .ok (.error e, s)
  | .ok nodes => do
    let (found, s) ← s.visitAll tree nodes
    let s := s.say .info ("PCI scan found " ++ toString found ++ " devices")
    .ok (if found = 0 then .error .noDevices else .ok found, s)

end Survey

end Passthrough
