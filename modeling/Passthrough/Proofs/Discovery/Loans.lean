import Passthrough.Host.HostedDriver
import Passthrough.Proofs.Driver.CallerContext
import Passthrough.Proofs.Driver.Clearing

/-!
# Passthrough — what a driver on a host has lent

A driver lends its pool to one caller at a time.  What others do to the driver in the meantime does not
concern the loan, and neither do the references that come and go, as long as one is left.

* `HostedDriver.Lends` — the pool is mapped for a caller, and the mapping is live.
* `HostedDriver.Sound` — the books of the driver balance, with an instance or without.
* `HostedDriver.Spares` — what some callers have borrowed stays, and they borrow nothing more.
-/

namespace Passthrough

/-- What is lent after the close of a handle is lent to somebody else. -/
theorem Device.Turn.owner_ne_of_cleanUp {d d' : Device} {caller : Caller} {outcome : Outcome}
    {calls : List PlatformCall} (turn : d.Turn (.cleanUp caller) outcome calls d')
    {user : UserMapping} (lent : d'.context.user = some user) : user.owner ≠ caller := by
  cases turn with
  | closed user' lent' => cases lent
  | closedOther _ result other => exact other user lent
  | changed _ change => cases change

theorem Instance.Balanced.processMappings_remove {i : Instance} (h : i.Balanced) :
    i.remove.platform.memory.processMappings = [] := by
  have stepped : i.step .remove = .ok (.done, i.remove) := rfl
  have after := h.step stepped
  have state : i.remove.device.context.state = .released := by
    unfold remove
    split
    · assumption
    · rfl
  -- What is mapped is what the books say is lent, and in this state the books say nothing is.
  rw [after.processMappings_eq]
  apply after.orderly.lent_eq_nil
  rw [state]
  decide

/-- Attaching maps nothing into a process, and a failure has nothing to undo. -/
theorem Instance.processMappings_of_attach {p p' : Platform} {result : Except DriverError Device}
    (h : attach p = .ok (result, p')) : p'.memory.processMappings = p.memory.processMappings := by
  unfold attach at h
  split at h
  · cases h
    rfl
  · cases h
    rfl
  · -- Only the pool is allocated, and that is kernel memory.
    obtain ⟨⟨answer, p₁⟩, hallocate, h⟩ := Checked.bind_eq_ok_iff.1 h
    obtain ⟨⟨answer', memory⟩, hm, hp⟩ := Checked.bind_eq_ok_iff.1 hallocate
    cases hp
    have same : memory.processMappings = p.memory.processMappings := by
      unfold KernelMemory.allocate at hm
      split at hm
      · cases hm
        rfl
      · obtain ⟨_, -, hm⟩ := Checked.bind_eq_ok_iff.1 hm
        obtain ⟨_, -, hm⟩ := Checked.bind_eq_ok_iff.1 hm
        cases hm
        rfl
    cases answer with
    | none =>
      cases h
      exact same
    | some pool =>
      cases h
      exact same

namespace HostedDriver

/-- Who the hardware is lent to, if it is lent. -/
def borrower? (d : HostedDriver) : Option Caller :=
  (d.device.bind fun device => device.context.user).map UserMapping.owner

/-- The pool of the driver, all `size` bytes of it, is mapped for `caller` at `base`, and the mapping is
live. -/
structure Lends (d : HostedDriver) (caller : Caller) (base : VirtAddr) (size : UInt64) : Prop where
  loan : ∃ device pool user, d.device = some device ∧ device.context.pool = some pool
    ∧ pool.size = size ∧ device.context.user = some user ∧ user.owner = caller ∧ user.pool = base
  live : ⟨caller.process, base, size⟩ ∈ d.platform.memory.processMappings

/-- The books of the driver balance. -/
structure Sound (d : HostedDriver) : Prop where
  balanced : ∀ device, d.device = some device → (⟨device, d.platform⟩ : Instance).Balanced
  size : ∀ device pool, d.device = some device → device.context.pool = some pool →
    pool.size = poolSize
  /-- Without an instance nothing is left mapped. -/
  gone : d.device = none → d.platform.memory.processMappings = []

/-- What the callers in question have borrowed stays with them, and they borrow nothing more. -/
structure Spares (callers : Caller → Prop) (d d' : HostedDriver) : Prop where
  sound : d'.Sound
  lends : ∀ caller base size, callers caller → d.Lends caller base size → d'.Lends caller base size
  borrowed : ∀ caller, callers caller → d'.borrower? = some caller → d.borrower? = some caller

variable {callers : Caller → Prop} {d d' d'' : HostedDriver}

theorem borrower?_eq_some_iff {caller : Caller} :
    d.borrower? = some caller ↔ ∃ device user, d.device = some device
      ∧ device.context.user = some user ∧ user.owner = caller := by
  unfold borrower?
  rw [Option.map_eq_some_iff]
  constructor
  · rintro ⟨user, huser, howner⟩
    obtain ⟨device, hdevice, huser⟩ := Option.bind_eq_some_iff.1 huser
    exact ⟨device, user, hdevice, huser, howner⟩
  · rintro ⟨device, user, hdevice, huser, howner⟩
    exact ⟨user, Option.bind_eq_some_iff.2 ⟨device, hdevice, huser⟩, howner⟩

theorem Lends.borrower?_eq {caller : Caller} {base : VirtAddr} {size : UInt64}
    (h : d.Lends caller base size) : d.borrower? = some caller := by
  obtain ⟨device, pool, user, hdevice, -, -, huser, howner, -⟩ := h.loan
  exact borrower?_eq_some_iff.2 ⟨device, user, hdevice, huser, howner⟩

/-- Whatever is mapped from a sound driver is mapped for its borrower. -/
theorem Sound.process_of_mem (sound : d.Sound) {m : ProcessMapping}
    (live : m ∈ d.platform.memory.processMappings) :
    ∃ caller, d.borrower? = some caller ∧ m.process = caller.process := by
  cases hdevice : d.device with
  | none =>
    rw [sound.gone hdevice] at live
    cases live
  | some device =>
    rw [(sound.balanced device hdevice).processMappings_eq] at live
    unfold Context.lent at live
    dsimp only at live
    split at live
    · cases live
    · next user huser =>
      refine ⟨user.owner, borrower?_eq_some_iff.2 ⟨device, user, hdevice, huser, rfl⟩, ?_⟩
      exact UserMapping.process_of_mem_mappings live

/-! ## What leaves loans alone -/

theorem Spares.trans (first : d.Spares callers d') (second : d'.Spares callers d'') :
    d.Spares callers d'' where
  sound := second.sound
  lends caller base size asked h := second.lends caller base size asked
    (first.lends caller base size asked h)
  borrowed caller asked h := first.borrowed caller asked (second.borrowed caller asked h)

/-- References, the bus and the record do not matter. -/
theorem spares_of_same (sound : d.Sound) (device : d'.device = d.device)
    (memory : d'.platform.memory = d.platform.memory) : d.Spares callers d' where
  sound := {
    balanced := by
      intro device' there
      rw [device] at there
      have before := sound.balanced device' there
      exact ⟨before.orderly, by rw [memory]; exact before.ledger⟩
    size := by
      rw [device]
      exact sound.size
    gone := by
      rw [device, memory]
      exact sound.gone }
  lends caller base size _ h := ⟨by rw [device]; exact h.loan, by rw [memory]; exact h.live⟩
  borrowed caller _ h := by
    unfold borrower? at h ⊢
    rw [device] at h
    exact h

/-- An operation on the instance spares those who did not ask for it, unless it ends their loans. -/
theorem spares_of_step {device : Device} {operation : Operation} {outcome : Outcome} {i' : Instance}
    (sound : d.Sound) (there : d.device = some device)
    (stepped : (⟨device, d.platform⟩ : Instance).step operation = .ok (outcome, i'))
    (others : ∀ caller, callers caller → operation.requester? ≠ some caller)
    (calm : ∀ caller, callers caller → d.borrower? = some caller →
      operation.endsLoanOf caller = false) : d.Spares callers (d.putInstance i') := by
  obtain ⟨calls, turn, -⟩ := Instance.turn_of_step stepped
  have before := sound.balanced device there
  have after := before.step stepped
  refine ⟨⟨?_, ?_, ?_⟩, ?_, ?_⟩
  · intro device' there'
    cases there'
    exact after
  · intro device' pool there' held
    cases there'
    exact sound.size device pool there (turn.pool_before held)
  · intro gone
    cases gone
  · intro caller base size asked h
    have borrowed := h.borrower?_eq
    obtain ⟨device', pool, user, hdevice, hpool, hsize, huser, howner, hbase⟩ := h.loan
    cases there.symm.trans hdevice
    -- The loan stands, so the instance is what it was, and so are the mappings it accounts for.
    obtain ⟨same, -⟩ := turn.keeps_loan before.orderly huser (by
      rw [howner]
      exact calm caller asked borrowed)
    refine ⟨⟨device, pool, user, congrArg some same, hpool, hsize, huser, howner, hbase⟩, ?_⟩
    show _ ∈ i'.platform.memory.processMappings
    rw [after.processMappings_eq, same, ← before.processMappings_eq]
    exact h.live
  · intro caller asked h
    obtain ⟨device', user, hdevice, huser, howner⟩ := borrower?_eq_some_iff.1 h
    cases hdevice
    -- A loan that was not there before goes to whoever asked for it.
    rcases turn.loan_before huser with old | ⟨-, request, rfl⟩
    · exact borrower?_eq_some_iff.2 ⟨device, user, there, old, howner⟩
    · exact absurd (congrArg some howner) (others caller asked)

theorem withInstance_eq_ok {α : Type} {operation : Instance → Checked (α × Instance)}
    {answer : Option α} (done : d.withInstance operation = .ok (answer, d')) :
    d' = d ∨ ∃ device a j, d.device = some device
      ∧ operation ⟨device, d.platform⟩ = .ok (a, j) ∧ d' = d.putInstance j := by
  unfold withInstance instance? at done
  split at done
  · next i held there =>
    obtain ⟨device, hdevice, rfl⟩ := Option.map_eq_some_iff.1 there
    obtain ⟨⟨a, j⟩, operated, put⟩ := Checked.bind_eq_ok_iff.1 done
    cases put
    exact .inr ⟨device, a, j, hdevice, operated, rfl⟩
  · cases done
    exact .inl rfl

theorem control_eq_ok {device : Device} {caller : Caller} {request : IoRequest} {served : Served}
    (there : d.device = some device) (done : d.control caller request = .ok (served, d')) :
    ∃ j, (⟨device, d.platform⟩ : Instance).deviceControl caller request = .ok (served, j)
      ∧ d' = d.putInstance j := by
  unfold control instance? at done
  rw [there] at done
  obtain ⟨⟨served', j⟩, answered, put⟩ := Checked.bind_eq_ok_iff.1 done
  cases put
  exact ⟨j, answered, rfl⟩

theorem handles_giveUp (d : HostedDriver) : d.giveUp.handles = d.handles := by
  unfold giveUp collect
  dsimp only
  split
  · rfl
  · split <;> rfl

/-- Giving a driver up spares those who have a handle open. -/
theorem spares_giveUp (sound : d.Sound)
    (kept : ∀ caller, callers caller → d.borrower? = some caller → 0 < d.handles) :
    d.Spares callers d.giveUp := by
  by_cases unused : d.handles = 0
  · -- The last reference goes, so an instance that is left is removed.
    cases hdevice : d.device with
    | none =>
      have same : d.giveUp = { d with held := false } := by
        simp [giveUp, collect, instance?, hdevice]
      rw [same]
      exact spares_of_same sound rfl rfl
    | some device =>
      have removed : d.giveUp = { d with
          held := false
          platform := (⟨device, d.platform⟩ : Instance).remove.platform
          device := none } := by
        simp [giveUp, collect, instance?, hdevice, unused]
      have balanced := sound.balanced device hdevice
      rw [removed]
      refine ⟨⟨by simp, by simp, fun _ => balanced.processMappings_remove⟩, ?_, ?_⟩
      · intro caller base size asked h
        have used := kept caller asked h.borrower?_eq
        omega
      · intro caller asked h
        cases h
  · have same : d.giveUp = { d with held := false } := by
      simp [giveUp, collect, unused]
    rw [same]
    exact spares_of_same sound rfl rfl

/-! ## The life of a handle -/

theorem cleanUp_eq (d : HostedDriver) (caller : Caller) :
    (d.cleanUp caller).2 = match d.device with
      | none => d
      | some device => d.putInstance ((⟨device, d.platform⟩ : Instance).cleanUp caller).2 := by
  unfold cleanUp instance?
  cases d.device <;> rfl

/-- The close of a handle takes back what was lent through it and spares everybody else. -/
theorem spares_cleanUp {caller : Caller} (sound : d.Sound) (others : ¬ callers caller) :
    d.Spares callers (d.cleanUp caller).2 := by
  rw [cleanUp_eq]
  cases hdevice : d.device with
  | none => exact spares_of_same sound rfl rfl
  | some device =>
    have stepped : (⟨device, d.platform⟩ : Instance).step (.cleanUp caller)
        = .ok (.cleaned _, ((⟨device, d.platform⟩ : Instance).cleanUp caller).2) := rfl
    refine spares_of_step sound hdevice stepped ?_ ?_
    · intro other asked same
      cases same
      exact others asked
    · intro other asked _
      apply decide_eq_false
      rintro rfl
      exact others asked

@[simp] theorem held_cleanUp (d : HostedDriver) (caller : Caller) :
    (d.cleanUp caller).2.held = d.held := by
  rw [cleanUp_eq]
  cases d.device <;> rfl

@[simp] theorem handles_cleanUp (d : HostedDriver) (caller : Caller) :
    (d.cleanUp caller).2.handles = d.handles := by
  rw [cleanUp_eq]
  cases d.device <;> rfl

theorem borrower?_cleanUp_ne (d : HostedDriver) (caller : Caller) :
    (d.cleanUp caller).2.borrower? ≠ some caller := by
  intro borrowed
  rw [cleanUp_eq] at borrowed
  obtain ⟨after, user, there, huser, howner⟩ := borrower?_eq_some_iff.1 borrowed
  cases hdevice : d.device with
  | none =>
    simp only [hdevice, reduceCtorEq] at there
  | some device =>
    simp only [hdevice] at there
    cases there
    obtain ⟨calls, turn, -⟩ := (⟨device, d.platform⟩ : Instance).turn_of_cleanUp caller
    exact turn.owner_ne_of_cleanUp huser howner

/-- As long as the host refers to the instance, a handle that is gone leaves only its count. -/
theorem dropHandle_of_held (held : d.held = true) :
    d.dropHandle = { d with handles := d.handles - 1 } := by
  simp [dropHandle, collect, held]

/-! ## Attaching -/

/-- A driver that was just attached on a fresh memory manager has lent nothing. -/
theorem sound_of_attach {bus : BusFunction} {memory : KernelMemory}
    {result : Except DriverError Unit} (fresh : memory.ledger = ⟨[], [], []⟩)
    (h : attach bus memory = .ok (result, d)) : d.Sound ∧ d.borrower? = none := by
  obtain ⟨⟨answer, p⟩, attached, h⟩ := Checked.bind_eq_ok_iff.1 h
  cases answer with
  | error e =>
    cases h
    have nothing := congrArg Ledger.processes fresh
    exact ⟨⟨by simp, by simp, fun _ => (Instance.processMappings_of_attach attached).trans nothing⟩, rfl⟩
  | ok device =>
    cases h
    obtain ⟨pool, hcontext, -, size, -⟩ := Instance.effect_attach attached
    refine ⟨⟨?_, ?_, by simp⟩, ?_⟩
    · rintro _ ⟨⟩
      exact Instance.balanced_of_attach fresh attached
    · intro device' pool' there held
      cases there
      rw [hcontext] at held
      cases held
      exact size
    · simp [borrower?, hcontext]

end HostedDriver

end Passthrough
