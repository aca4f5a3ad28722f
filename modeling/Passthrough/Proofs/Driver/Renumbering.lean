import Mathlib.Logic.Equiv.Basic
import Passthrough.Driver.Dispatch
import Passthrough.Proofs.Driver.Effect

/-!
# Passthrough — handles by other numbers

A driver compares the handle of a caller with the one it lent to, and does nothing else with handles.
Two instances that differ only in the numbers of handles, and in what was recorded of them, therefore
answer alike and stay alike.

* `Checked.Related` — two computations fault alike, or their answers are related.
* `Caller.renumber`, `Device.renumber` — the handles of one process by other numbers.
* `Instance.Alike` — instances that differ in these numbers and in their records.
* `Instance.Alike.deviceControl`, `cleanUp`, `remove` — what keeps them alike.
-/

namespace Passthrough

/-! ## Two computations -/

/-- Both computations fault in the same way, or both answer and the answers are related. -/
inductive Checked.Related {α β : Type} (R : α → β → Prop) : Checked α → Checked β → Prop where
  | fault (fault : Fault) : Related R (.error fault) (.error fault)
  | answer {a : α} {b : β} (related : R a b) : Related R (.ok a) (.ok b)

namespace Checked.Related

variable {α β γ δ : Type} {R : α → β → Prop} {Q : γ → δ → Prop}

theorem same (x : Checked α) : Related Eq x x := by
  cases x with
  | error fault => exact .fault fault
  | ok a => exact .answer rfl

theorem bind_ok {x : Checked α} {y : Checked β} {f : α → Checked γ} {g : β → Checked δ}
    (first : Related R x y)
    (next : ∀ a b, x = .ok a → y = .ok b → R a b → Related Q (f a) (g b)) :
    Related Q (x >>= f) (y >>= g) := by
  cases first with
  | fault fault => exact .fault fault
  | answer related => exact next _ _ rfl rfl related

theorem bind {x : Checked α} {y : Checked β} {f : α → Checked γ} {g : β → Checked δ}
    (first : Related R x y) (next : ∀ a b, R a b → Related Q (f a) (g b)) :
    Related Q (x >>= f) (y >>= g) :=
  first.bind_ok fun a b _ _ => next a b

end Checked.Related

/-! ## Other numbers -/

variable {process : ProcessId} {σ : Equiv.Perm HandleId}

/-- The caller with the handles of `process` numbered otherwise. -/
def Caller.renumber (process : ProcessId) (σ : Equiv.Perm HandleId) (c : Caller) : Caller :=
  if c.process = process then ⟨process, σ c.handle⟩ else c

def UserMapping.renumber (process : ProcessId) (σ : Equiv.Perm HandleId) (user : UserMapping) :
    UserMapping :=
  { user with owner := user.owner.renumber process σ }

def Device.renumber (process : ProcessId) (σ : Equiv.Perm HandleId) (d : Device) : Device :=
  { d with context := { d.context with user := d.context.user.map (·.renumber process σ) } }

namespace Caller

@[simp] theorem process_renumber (c : Caller) : (c.renumber process σ).process = c.process := by
  unfold renumber
  split
  · next same => exact same.symm
  · rfl

theorem renumber_of_process (handle : HandleId) :
    (⟨process, handle⟩ : Caller).renumber process σ = ⟨process, σ handle⟩ := if_pos rfl

theorem renumber_inj {c c' : Caller} : c.renumber process σ = c'.renumber process σ ↔ c = c' := by
  constructor
  · intro same
    have processes := congrArg Caller.process same
    rw [process_renumber, process_renumber] at processes
    obtain ⟨p, handle⟩ := c
    obtain ⟨p', handle'⟩ := c'
    cases processes
    unfold renumber at same
    split at same
    · have handles := congrArg Caller.handle same
      exact congrArg (Caller.mk p) (σ.injective handles)
    · exact same
  · rintro rfl
    rfl

@[simp] theorem renumber_refl (c : Caller) : c.renumber process (Equiv.refl _) = c := by
  unfold renumber
  split
  · next same =>
    rw [← same]
    rfl
  · rfl

end Caller

@[simp] theorem Device.renumber_refl (d : Device) : d.renumber process (Equiv.refl _) = d := by
  obtain ⟨address, numaNode, state, registers, pool, user⟩ := d
  cases user <;> simp [renumber, UserMapping.renumber]

/-- Where a loan lies does not depend on its number. -/
theorem UserMapping.mappings_renumber (user : UserMapping) (pool : Option KernelRegion)
    (registers : PerSlot (Option KernelRegion)) :
    (user.renumber process σ).mappings pool registers = user.mappings pool registers := by
  unfold mappings renumber
  rw [Caller.process_renumber]

/-! ## Platforms -/

namespace Platform

/-- The platforms differ at most in what was recorded. -/
structure Alike (p q : Platform) : Prop where
  bus : q.bus = p.bus
  memory : q.memory = p.memory

variable {p q : Platform}

theorem alike_iff_forget : p.Alike q ↔ q.forget = p.forget := by
  obtain ⟨bus, memory, calls, log⟩ := p
  obtain ⟨bus', memory', calls', log'⟩ := q
  constructor
  · rintro ⟨rfl, rfl⟩
    rfl
  · intro same
    cases same
    exact ⟨rfl, rfl⟩

namespace Alike

theorem say (alike : p.Alike q) (severity severity' : Severity) (text text' : String) :
    (p.say severity text).Alike (q.say severity' text') := ⟨alike.bus, alike.memory⟩

theorem zero (alike : p.Alike q) (region : KernelRegion) :
    Checked.Related Alike (p.zero region) (q.zero region) := by
  unfold Platform.zero
  rw [alike.memory]
  refine (Checked.Related.same (p.memory.zero region.size)).bind ?_
  rintro memory _ rfl
  exact .answer ⟨alike.bus, rfl⟩

theorem mapIntoProcess (alike : p.Alike q) (process : ProcessId) (region : KernelRegion)
    (cache : CacheKind) :
    Checked.Related (fun x y => x.1 = y.1 ∧ x.2.Alike y.2) (p.mapIntoProcess process region cache)
      (q.mapIntoProcess process region cache) := by
  unfold Platform.mapIntoProcess
  rw [alike.memory]
  refine (Checked.Related.same (p.memory.mapIntoProcess process region.size)).bind ?_
  rintro answer _ rfl
  exact .answer ⟨rfl, alike.bus, rfl⟩

theorem unmapFromProcess (alike : p.Alike q) (process : ProcessId) (base : VirtAddr)
    (length : UInt64) :
    (p.unmapFromProcess process base length).Alike (q.unmapFromProcess process base length) :=
  ⟨alike.bus, congrArg (·.unmapFromProcess process base length) alike.memory⟩

theorem unmapRegisters (alike : p.Alike q) (region : KernelRegion) :
    (p.unmapRegisters region).Alike (q.unmapRegisters region) :=
  ⟨alike.bus, congrArg (·.unmapRegisters region.virt region.size) alike.memory⟩

theorem free (alike : p.Alike q) (region : KernelRegion) : (p.free region).Alike (q.free region) :=
  ⟨alike.bus, congrArg (·.free region) alike.memory⟩

/-- What keeps platforms alike can be done again and again. -/
theorem foldl {α : Type} {f : Platform → α → Platform}
    (step : ∀ (p q : Platform) (a : α), p.Alike q → (f p a).Alike (f q a)) (as : List α)
    (alike : p.Alike q) : (as.foldl f p).Alike (as.foldl f q) := by
  induction as generalizing p q with
  | nil => exact alike
  | cons a as ih => exact ih (step p q a alike)

theorem unmapUser (alike : p.Alike q) (pool : Option KernelRegion)
    (registers : PerSlot (Option KernelRegion)) (user : UserMapping) :
    (p.unmapUser pool registers user).Alike
      (q.unmapUser pool registers (user.renumber process σ)) := by
  rw [unmapUser_eq_foldl, unmapUser_eq_foldl, UserMapping.mappings_renumber]
  exact foldl (fun _ _ m alike => alike.unmapFromProcess m.process m.base m.length) _ alike

theorem unmapSlots (alike : p.Alike q) (registers : PerSlot (Option KernelRegion)) :
    (p.unmapSlots registers).Alike (q.unmapSlots registers) :=
  foldl (fun _ _ region alike => alike.unmapRegisters region) _ alike

theorem lendSlots (process : ProcessId) (registers : PerSlot (Option KernelRegion))
    (slots : List (Fin 6)) (lent : PerSlot (Option VirtAddr)) (alike : p.Alike q) :
    Checked.Related (fun x y => x.1 = y.1 ∧ x.2.1 = y.2.1 ∧ x.2.2.Alike y.2.2)
      (p.lendSlots process registers slots lent) (q.lendSlots process registers slots lent) := by
  induction slots generalizing lent p q with
  | nil => exact .answer ⟨rfl, rfl, alike⟩
  | cons slot slots ih =>
    unfold Platform.lendSlots
    cases registers.entry slot with
    | none => exact ih lent alike
    | some region =>
      refine (alike.mapIntoProcess process region .nonCached).bind ?_
      rintro ⟨answer, p⟩ ⟨_, q⟩ ⟨rfl, alike⟩
      cases answer with
      | none => exact .answer ⟨rfl, rfl, alike⟩
      | some base => exact ih _ alike

end Alike

end Platform

/-! ## Instances -/

/-- The second instance numbers the handles of `process` otherwise, and may have recorded something else. -/
structure Instance.Alike (process : ProcessId) (σ : Equiv.Perm HandleId) (i j : Instance) : Prop where
  device : j.device = i.device.renumber process σ
  platform : i.platform.Alike j.platform

namespace Instance

namespace Alike

variable {i j : Instance}

theorem say (alike : i.Alike process σ j) (severity severity' : Severity) (text text' : String) :
    (i.say severity text).Alike process σ (j.say severity' text') :=
  ⟨alike.device, alike.platform.say severity severity' text text'⟩

/-- **Mapping.**  The caller gets the same, by the other number. -/
theorem mapIntoCaller (alike : i.Alike process σ j) (caller : Caller) (output : Bytes) :
    Checked.Related (fun x y => x.1 = y.1 ∧ x.2.Alike process σ y.2)
      (i.mapIntoCaller caller output)
      (j.mapIntoCaller (caller.renumber process σ) output) := by
  obtain ⟨⟨address, numaNode, state, registers, pool, user⟩, p⟩ := i
  obtain ⟨_, q⟩ := j
  have same := alike
  obtain ⟨rfl, platform⟩ := alike
  unfold Instance.mapIntoCaller
  cases state with
  | userMapped | attached | released => exact .answer ⟨rfl, same⟩
  | hardwarePrepared =>
    dsimp only [Device.renumber]
    split
    · exact .answer ⟨rfl, same⟩
    · cases pool with
      | none => exact .answer ⟨rfl, same⟩
      | some pool =>
        refine (platform.zero pool).bind fun p q platform => ?_
        rw [Caller.process_renumber]
        refine (platform.mapIntoProcess caller.process pool .cached).bind ?_
        rintro ⟨answer, p⟩ ⟨_, q⟩ ⟨rfl, platform⟩
        cases answer with
        | none => exact .answer ⟨rfl, rfl, platform⟩
        | some base =>
          refine (platform.lendSlots caller.process registers _ _).bind ?_
          rintro ⟨complete, lent, p⟩ ⟨_, _, q⟩ ⟨rfl, rfl, platform⟩
          cases complete with
          | true => exact .answer ⟨rfl, rfl, platform.say _ _ _ _⟩
          | false =>
            refine .answer ⟨rfl, rfl, ?_⟩
            exact platform.unmapUser (some pool) registers ⟨caller, base, lent⟩

theorem mapHardware (alike : i.Alike process σ j) (caller : Caller) (request : IoRequest) :
    Checked.Related (fun x y => x.1 = y.1 ∧ x.2.Alike process σ y.2) (i.mapHardware caller request)
      (j.mapHardware (caller.renumber process σ) request) := by
  have checked (address : RequestAddress) : j.checkAddress address = i.checkAddress address := by
    unfold checkAddress
    rw [alike.device]
    rfl
  unfold Instance.mapHardware
  cases HardwareInfo.decode request.input with
  | error e => exact .answer ⟨rfl, alike⟩
  | ok info =>
    dsimp only
    rw [checked]
    cases i.checkAddress info.address with
    | error status => exact .answer ⟨rfl, alike⟩
    | ok u => exact alike.mapIntoCaller caller request.output

theorem reportMapFailure (alike : i.Alike process σ j) (status : Status) :
    (i.reportMapFailure status).Alike process σ (j.reportMapFailure status) := by
  unfold Instance.reportMapFailure
  split
  · exact alike.say _ _ _ _
  · exact alike.say _ _ _ _

/-- **Requests to map the hardware.**  They are answered alike. -/
theorem deviceControl (alike : i.Alike process σ j) (caller : Caller) {request : IoRequest}
    (kind : request.code.kind? = some .mapHardware) :
    Checked.Related (fun x y => x.1 = y.1 ∧ x.2.Alike process σ y.2) (i.deviceControl caller request)
      (j.deviceControl (caller.renumber process σ) request) := by
  unfold Instance.deviceControl inCallerContext
  rw [kind]
  simp only [bind_assoc]
  refine (alike.mapHardware caller request).bind ?_
  rintro ⟨⟨result, output⟩, i⟩ ⟨_, j⟩ ⟨rfl, alike⟩
  cases result with
  | ok count => exact .answer ⟨rfl, alike⟩
  | error status => exact .answer ⟨rfl, alike.reportMapFailure status⟩

/-! ### Undoing -/

theorem endLoan (alike : i.Alike process σ j) : i.endLoan.Alike process σ j.endLoan := by
  obtain ⟨⟨address, numaNode, state, registers, pool, user⟩, p⟩ := i
  obtain ⟨_, q⟩ := j
  obtain ⟨rfl, platform⟩ := alike
  cases user with
  | none => exact ⟨rfl, platform⟩
  | some user => exact ⟨rfl, platform.unmapUser pool registers user⟩

theorem setState (alike : i.Alike process σ j) (state : DeviceState) :
    (i.setState state).Alike process σ (j.setState state) := by
  obtain ⟨d, p⟩ := i
  obtain ⟨_, q⟩ := j
  obtain ⟨rfl, platform⟩ := alike
  exact ⟨rfl, platform⟩

theorem unmapRegisters (alike : i.Alike process σ j) :
    i.unmapRegisters.Alike process σ j.unmapRegisters := by
  obtain ⟨d, p⟩ := i
  obtain ⟨_, q⟩ := j
  obtain ⟨rfl, platform⟩ := alike
  exact ⟨rfl, platform.unmapSlots d.context.registers⟩

theorem freePool (alike : i.Alike process σ j) : i.freePool.Alike process σ j.freePool := by
  obtain ⟨⟨address, numaNode, state, registers, pool, user⟩, p⟩ := i
  obtain ⟨_, q⟩ := j
  obtain ⟨rfl, platform⟩ := alike
  cases pool with
  | none => exact ⟨rfl, platform⟩
  | some pool => exact ⟨rfl, platform.free pool⟩

/-- **Removal.**  It undoes the same. -/
theorem remove (alike : i.Alike process σ j) : i.remove.Alike process σ j.remove := by
  have state : j.device.state = i.device.state := by
    rw [alike.device]
    rfl
  unfold Instance.remove
  rw [state]
  split
  · exact alike
  · exact (alike.endLoan.unmapRegisters.freePool.setState .released).say _ _ _ _

end Alike

/-- What a close leaves. -/
theorem snd_cleanUp (i : Instance) (caller : Caller) :
    (i.cleanUp caller).2
      = if i.device.context.user.map UserMapping.owner = some caller then
          let undone := i.endLoan.setState .hardwarePrepared
          undone.say .debug
            (undone.device.name.toText ++ ": unmapped from " ++ caller.process.describe)
        else i := by
  unfold Instance.cleanUp
  cases lent : i.device.context.user with
  | none => rfl
  | some user =>
    obtain ⟨⟨owner, handle⟩, pool, registers⟩ := user
    obtain ⟨process', handle'⟩ := caller
    simp only [Option.map_some]
    by_cases own : (⟨owner, handle⟩ : Caller) = ⟨process', handle'⟩
    · cases own
      rw [if_pos rfl, if_neg (fun other => other rfl), if_neg (fun other => other rfl)]
    · -- The handle is another one, or the process is.
      rw [if_neg (fun same => own (Option.some.inj same))]
      split
      · rfl
      · next handles =>
        have elsewhere : owner ≠ process' := by
          rintro rfl
          exact own (congrArg (Caller.mk owner) (not_not.1 handles))
        rw [if_pos elsewhere]

/-- **Closes.**  What was lent to the caller is undone, whatever its number. -/
theorem Alike.cleanUp {i j : Instance} (alike : i.Alike process σ j) (caller : Caller) :
    (i.cleanUp caller).2.Alike process σ (j.cleanUp (caller.renumber process σ)).2 := by
  have owner : j.device.context.user.map UserMapping.owner = some (caller.renumber process σ)
      ↔ i.device.context.user.map UserMapping.owner = some caller := by
    rw [alike.device]
    cases lent : i.device.context.user with
    | none => simp [Device.renumber, lent]
    | some user => simp [Device.renumber, lent, UserMapping.renumber, Caller.renumber_inj]
  rw [snd_cleanUp, snd_cleanUp]
  by_cases own : i.device.context.user.map UserMapping.owner = some caller
  · rw [if_pos own, if_pos (owner.2 own)]
    exact (alike.endLoan.setState .hardwarePrepared).say _ _ _ _
  · rw [if_neg own, if_neg (mt owner.1 own)]
    exact alike

end Instance

end Passthrough
