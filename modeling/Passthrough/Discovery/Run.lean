import Passthrough.Discovery.Scan

/-!
# Passthrough — runs of a survey

What happens to a host and to what a process knows of it, as data: drivers are attached, operated on by
anybody and given up by the host, and the process scans device trees.

* `SurveyAction`, `Survey.step` — one thing that happens and what it answers.
* `Survey.run` — a sequence of them, which ends early at a fault.
-/

namespace Passthrough

/-- Something that happens on a host that a process surveys. -/
inductive SurveyAction where
  | attach (bus : BusFunction) (memory : KernelMemory)
  /-- Something happens to driver `index`, as long as the host refers to its instance. -/
  | operate (index : Nat) (operation : Operation)
  /-- The host refers to the instance of driver `index` no longer. -/
  | giveUp (index : Nat)
  | scan (tree : DeviceTree) (classFilter : Option String)

/-- What an action answers; nothing if there is no instance to operate on. -/
inductive SurveyOutcome where
  | attached (result : Except DriverError Unit)
  | operated (outcome : Option Outcome)
  | gaveUp (there : Bool)
  | scanned (result : Except ScanError Nat)

namespace Survey

/-- A process that knows nothing, on a host without drivers. -/
def start (process : ProcessId) : Survey := ⟨.start process, .empty, .empty⟩

def step (s : Survey) : SurveyAction → Checked (SurveyOutcome × Survey)
  | .attach bus memory => do
    let (result, host) ← s.host.attach bus memory
    .ok (.attached result, { s with host })
  | .operate i operation => do
    let (outcome, host) ← s.host.withDriver i (·.withInstance (·.step operation))
    .ok (.operated outcome.join, { s with host })
  | .giveUp i => do
    let (there, host) ← s.host.withDriver i fun d => .ok ((), d.giveUp)
    .ok (.gaveUp there.isSome, { s with host })
  | .scan tree classFilter => do
    let (result, s) ← s.scan tree classFilter
    .ok (.scanned result, s)

def run (s : Survey) : List SurveyAction → Checked Survey
  | [] => .ok s
  | action :: actions => do
    let (_, s) ← s.step action
    s.run actions

end Survey

end Passthrough
