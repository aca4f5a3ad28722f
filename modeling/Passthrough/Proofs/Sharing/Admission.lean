import Passthrough.Bringup.Environment
import Passthrough.Proofs.Sharing.Completion

/-!
# Passthrough — who lets secondaries in

A secondary is let in by the marker, and the marker stays in the file when the primary that has set it is
gone: only the next primary clears it.  So while a primary is live, a marker that is seen is its own; and
without one, a secondary that does not look for the lock is let in by what is left of an earlier primary.

* `Session.Orderly.elected_iff` — a marker and the primary that is live.
* `SharedConfig.attached_of_bringUp` — what an environment of a secondary has gone through.
* `Session.admission` — what a secondary may conclude from being let in.
* `Session.admitted_abandoned` — a secondary is let in and nobody is there.
-/

namespace Passthrough

open SharedConfig (Group Opening Marked)

namespace FileStore

/-! ## More directories -/

/-- The second store is the first with more directories. -/
structure Widens (s s' : FileStore) : Prop where
  contents : s'.contents = s.contents
  locks : s'.locks = s.locks
  nextHandle : s'.nextHandle = s.nextHandle
  sound : s.Sound → s'.Sound
  leads : ∀ path id, s.Leads path id → s'.Leads path id

theorem Widens.refl (s : FileStore) : Widens s s := ⟨rfl, rfl, rfl, id, fun _ _ => id⟩

theorem Widens.trans {s s' s'' : FileStore} (first : Widens s s') (second : Widens s' s'') :
    Widens s s'' where
  contents := second.contents.trans first.contents
  locks := second.locks.trans first.locks
  nextHandle := second.nextHandle.trans first.nextHandle
  sound := second.sound ∘ first.sound
  leads path id := second.leads path id ∘ first.leads path id

theorem widens_of_createDirectory {s s' : FileStore} {path : String}
    (h : s.createDirectory path = .ok s') : Widens s s' := by
  unfold createDirectory at h
  cases step : s.lastStep path with
  | error reason =>
    rw [step] at h
    cases h
  | ok last =>
    rw [step] at h
    simp only [bind, Except.bind] at h
    cases last with
    | reached directory => cases h
    | name directory last =>
      dsimp only at h
      split at h
      · cases h
      cases free : s.node? (directory ++ [last]) with
      | some node =>
        rw [free] at h
        cases h
      | none =>
        rw [free] at h
        have nodes : s'.nodes = (directory ++ [last], .directory) :: s.nodes := by
          cases h
          rfl
        cases h
        refine ⟨rfl, rfl, rfl, ?_, ?_⟩
        · intro sound names id there
          rcases List.mem_cons.1 there with new | there
          · cases new
          · exact sound names id there
        · rintro path id ⟨directory', last', step', noSlash, short, there⟩
          have keeps := lastStep_of_keeps (fun names => node?_of_new free nodes) step'
          exact ⟨directory', last', keeps, noSlash, short, node?_of_new free nodes there⟩

theorem widens_of_ensureDirectory {s s' : FileStore} {path : String}
    (h : s.ensureDirectory path = .ok s') : Widens s s' := by
  unfold ensureDirectory at h
  split at h
  · cases h
    exact .refl s
  · exact widens_of_createDirectory h

/-- Whether the directory of a group can be made or not, the levels that are made stay. -/
theorem widens_of_createRuntimeDir {s s' : FileStore} {settings : Settings}
    {result : Except SettingsError String} (h : settings.createRuntimeDir s = (result, s')) :
    Widens s s' := by
  unfold Settings.createRuntimeDir at h
  split at h
  · cases h
    exact .refl s
  next s₁ first =>
  split at h
  · cases h
    exact widens_of_ensureDirectory first
  next s₂ second =>
  cases h
  exact (widens_of_ensureDirectory first).trans (widens_of_ensureDirectory second)

end FileStore

namespace SharedConfig

section Waiting

variable {x : SharedConfig} {s : FileStore} {timeout : Nat}

theorem wait_eq_ok_iff : x.wait s timeout = .ok () ↔ x.isComplete s = true := by
  unfold wait
  split <;> simp_all

/-- A secondary that comes to a configuration has seen the marker and read the table. -/
theorem load_of_wait {c : MemConfig} (h : (do x.wait s timeout; x.load s) = .ok c) :
    x.isComplete s = true ∧ x.load s = .ok c := by
  cases waited : x.wait s timeout with
  | error e =>
    rw [waited] at h
    cases h
  | ok =>
    rw [waited] at h
    exact ⟨wait_eq_ok_iff.1 waited, h⟩

end Waiting

/-- More directories do not matter to a group. -/
theorem Group.widened {path : String} {s s' : FileStore} {live : SharedConfig → Prop}
    (group : Group path s live) (more : s.Widens s') : Group path s' live where
  sound := more.sound group.sound
  leads x hx := more.leads path _ (group.leads x hx)
  own := group.own
  older x hx := by
    rw [more.nextHandle]
    exact group.older x hx
  locks l := by
    rw [more.locks]
    exact group.locks l
  single := group.single
  room x hx := by
    unfold FileStore.content
    rw [more.contents]
    exact group.room x hx
  sized x hx primary := by
    unfold FileStore.content
    rw [more.contents]
    exact group.sized x hx primary

theorem role_of_bringUpPrimary {m m' : Machine} {settings : Settings}
    {shared : Option SharedConfig} {tree : DeviceTree} {env : Environment}
    (h : m.bringUpPrimary settings shared tree = .ok (.ok env, m')) : env.role = .primary := by
  obtain ⟨⟨found, s⟩, -, h⟩ := Checked.bind_eq_ok_iff.1 h
  dsimp only at h
  split at h
  · cases h
  · split at h
    · cases h
    · cases h
      rfl

/-- An environment of a secondary comes up once the secondary has attached to the file and seen the
marker in it. -/
theorem attached_of_bringUp {m m' : Machine} {settings : Settings} {tree : DeviceTree}
    {refusals : Refusals} {place : Placement} {env : Environment}
    (h : m.bringUp settings tree refusals place = .ok (.ok env, m'))
    (secondary : env.role = .secondary) :
    ∃ files shared opened, m.files.Widens files
      ∧ Opening files settings.configPath settings.attachTimeout refusals settings.role
        (.ok shared) opened
      ∧ shared.role = .secondary ∧ shared.wait opened settings.attachTimeout = .ok () := by
  have other {shared : Option SharedConfig} {m : Machine}
      (h : m.bringUpPrimary settings shared tree = .ok (.ok env, m')) : False := by
    rw [role_of_bringUpPrimary h] at secondary
    cases secondary
  unfold Machine.bringUp at h
  split at h
  · cases h
  split at h
  · exact (other h).elim
  split at h
  · cases h
  next dir files made =>
  split at h
  · cases h
  next shared opened log found =>
  have opening := opening_of_openAs files settings.configPath settings.role settings.attachTimeout
    refusals
  rw [found] at opening
  dsimp only at h
  split at h
  · exact (other h).elim
  next role =>
  refine ⟨files, shared, opened, FileStore.widens_of_createRuntimeDir made, opening, role, ?_⟩
  -- The environment comes up only behind the wait.
  unfold Machine.bringUpSecondary at h
  split at h
  · cases h
  next c found =>
  exact wait_eq_ok_iff.2 (load_of_wait found).1

end SharedConfig

namespace Session

variable {path : String} {s : Session}

/-! ## The marker and the primary that is live -/

/-- Of a session that starts without holds: when the file has its marker, a primary is live exactly if a
live primary has set it. -/
theorem Orderly.elected_iff (orderly : Orderly path s) (alone : s.holds = [])
    {actions : List SessionAction} (complete : Complete path (s.run path actions)) :
    (s.run path actions).Elected
      ↔ ∃ x, MarkedBy path s actions x ∧ (s.run path actions).Live x := by
  constructor
  · rintro ⟨z, ⟨name, there⟩, primary⟩
    rcases (complete_run_iff orderly actions).1 complete with ⟨-, nobody⟩ | ⟨x, marked⟩
    · rcases opened_of_mem_run there with before | opened
      · rw [alone] at before
        cases before
      · rw [show (name, z).2.role = .primary from primary] at opened
        exact absurd opened nobody
    · have keep := marked
      obtain ⟨before, n, after, rfl, held, primary', nobody⟩ := marked
      refine ⟨x, keep, name, ?_⟩
      have orderly' := orderly_run orderly before
      rw [run_append] at there ⊢
      replace there : (name, z) ∈ (((s.run path before).step path (.markComplete n)).2.run path
        after).holds := there
      -- Nobody became the primary after the mark, so the one that is live was there already.
      have marking : (name, z) ∈ ((s.run path before).step path (.markComplete n)).2.holds := by
        rcases opened_of_mem_run there with there | opened
        · exact there
        · rw [show (name, z).2.role = .primary from primary] at opened
          exact absurd opened nobody
      have there' : (name, z) ∈ (s.run path before).holds := by
        rcases (move_of_step path _ (.markComplete n)).mem_before marking with there | ⟨opened, -⟩
        · exact there
        · cases opened
      have same := orderly'.only_primary there' primary held primary'
      rw [same.2]
      exact there
  · rintro ⟨x, ⟨-, -, -, -, -, primary, -⟩, live⟩
    exact ⟨x, live, primary⟩

/-- A secondary whose environment comes up next found a primary if it looked for one, and then it has
seen the marker of the session's file. -/
theorem Orderly.elected_of_bringUp (orderly : Orderly path s) {m m' : Machine} {settings : Settings}
    {tree : DeviceTree} {refusals : Refusals} {place : Placement} {env : Environment}
    (files : m.files = s.store) (here : settings.configPath = path)
    (up : m.bringUp settings tree refusals place = .ok (.ok env, m')) (secondary : env.role = .secondary) :
    (settings.role = .auto → s.Elected) ∧ (s.Elected → Complete path s) := by
  obtain ⟨wide, shared, opened, more, opening, role, waited⟩ :=
    SharedConfig.attached_of_bringUp up secondary
  rw [files] at more
  rw [here] at opening
  have group := orderly.group.widened more
  generalize settings.role = requested at opening ⊢
  cases opening with
  | created => cases role
  | attached follows sized =>
    constructor
    · intro auto
      exact (group.locked_iff follows.file).1 (follows.taken auto)
    · rintro ⟨x, live, primary⟩
      have leads := group.leads x live
      obtain ⟨same, rfl⟩ := follows.file.known _ leads
      have marked := (SharedConfig.isComplete_iff sized).1 (SharedConfig.wait_eq_ok_iff.1 waited)
      refine ⟨x.handle.file, orderly.group.leads x live, ?_⟩
      rw [← same]
      unfold FileStore.content at marked ⊢
      rw [← more.contents]
      exact marked

/-- **Who lets secondaries in.**  Any number of processes open the file at a path, publish, mark and
close, in any order, on files of any content that nobody has locked before.  The system may refuse any step
of any opening.

* Who has the file open sees the marker exactly if a primary has set it and nobody became the primary
  after that, or nobody became the primary at all and the file had it from the start.
* Waiting ends exactly if the marker is seen.
* When it is seen, a primary is live exactly if a live primary has set it.
* An environment of a secondary comes up next to a live primary only if that primary has set the marker,
  and an environment whose role is not asked for becomes a secondary's only next to a live primary.

The last point takes a bring-up at one instant, in which nobody else does anything.  Of a secondary that opens
the file, waits and reads at different times the other points speak, with anything in between. -/
theorem admission {store : FileStore} (sound : store.Sound) (unlocked : store.locks = [])
    {path : String} {actions : List SessionAction} {s : Session}
    (reached : (start store).run path actions = s) :
    (∀ a ∈ s.holds, a.2.isComplete s.store = true ↔
        (Complete path (start store)
            ∧ .opened (.ok .primary) ∉ (start store).outcomes path actions)
          ∨ ∃ x, MarkedBy path (start store) actions x)
      ∧ (∀ a ∈ s.holds, ∀ timeout,
          a.2.wait s.store timeout = .ok () ↔ a.2.isComplete s.store = true)
      ∧ (∀ a ∈ s.holds, a.2.isComplete s.store = true →
          (s.Elected ↔ ∃ x, MarkedBy path (start store) actions x ∧ s.Live x))
      ∧ ∀ (m m' : Machine) (settings : Settings) tree refusals place env, m.files = s.store →
          settings.configPath = path → m.bringUp settings tree refusals place = .ok (.ok env, m') →
          env.role = .secondary →
          (settings.role = .auto → s.Elected)
            ∧ (s.Elected → ∃ x, MarkedBy path (start store) actions x ∧ s.Live x) := by
  subst reached
  have first : Orderly path (start store) := .start sound unlocked
  have orderly := orderly_run first actions
  have seen : ∀ a ∈ ((start store).run path actions).holds,
      a.2.isComplete ((start store).run path actions).store = true
        ↔ Complete path ((start store).run path actions) := by
    intro a ha
    constructor
    · intro complete
      have marked := (SharedConfig.isComplete_iff (orderly.room ha)).1 complete
      exact ⟨_, orderly.group.leads a.2 ⟨a.1, ha⟩, marked⟩
    · intro complete
      exact orderly.isComplete complete a ha
  refine ⟨?_, fun a _ timeout => SharedConfig.wait_eq_ok_iff, ?_, ?_⟩
  · intro a ha
    rw [seen a ha]
    exact complete_run_iff first actions
  · intro a ha complete
    exact first.elected_iff rfl ((seen a ha).1 complete)
  · intro m m' settings tree refusals place env files here up secondary
    obtain ⟨auto, complete⟩ := orderly.elected_of_bringUp files here up secondary
    exact ⟨auto, fun elected => (first.elected_iff rfl (complete elected)).1 elected⟩

/-- A secondary attaches before the primary marks the file; what it sees then is the mark of a primary
that is live. -/
theorem admission_markedLater : ∃ s y, (start .empty).run "/rte.config"
      (bothOpen .auto .secondary ++ [.markComplete "a"]) = s
    ∧ ("b", y) ∈ s.holds ∧ y.role = .secondary ∧ y.isComplete s.store = true
    ∧ ∃ x, MarkedBy "/rte.config" (start .empty) (bothOpen .auto .secondary ++ [.markComplete "a"]) x
      ∧ s.Live x := by
  have orderly : Orderly "/rte.config" ((start .empty).run "/rte.config" (bothOpen .auto .secondary)) :=
    orderly_run (.start FileStore.sound_empty rfl) _
  have first : ((start .empty).run "/rte.config" (bothOpen .auto .secondary)
      |>.hold? "a").any (·.role = .primary) = true := by
    decide +kernel
  have second : ((start .empty).run "/rte.config" (bothOpen .auto .secondary)
      |>.hold? "b").any (·.role = .secondary) = true := by
    decide +kernel
  obtain ⟨x, heldA, roleA⟩ := (Option.any_eq_true _ _).1 first
  obtain ⟨y, heldB, roleB⟩ := (Option.any_eq_true _ _).1 second
  have thereA := mem_of_hold? heldA
  have thereB := mem_of_hold? heldB
  have roleA := of_decide_eq_true roleA
  have complete := orderly.complete_of_markComplete heldA roleA
  have orderly' := (move_of_step "/rte.config" _ (.markComplete "a")).orderly orderly
  rw [← holds_change _ "a" SharedConfig.markComplete] at thereA thereB
  obtain ⟨-, -, live, -⟩ := admission FileStore.sound_empty rfl (rfl : (start .empty).run
    "/rte.config" (bothOpen .auto .secondary ++ [.markComplete "a"]) = _)
  have seen := orderly'.isComplete complete _ thereB
  exact ⟨_, y, rfl, thereB, of_decide_eq_true roleB, seen,
    (live _ thereB seen).1 ⟨x, ⟨"a", thereA⟩, roleA⟩⟩

/-! ## A marker without a primary -/

theorem orderly_abandoned : Orderly "/rte.config" abandoned :=
  orderly_run (.start FileStore.sound_empty rfl) _

theorem complete_abandoned : Complete "/rte.config" abandoned := by
  have primary : ((start .empty).run "/rte.config" [.openAs "a" .primary 0 .nothing] |>.hold? "a").any
      (·.role = .primary) = true := by
    decide +kernel
  obtain ⟨x, held, role⟩ := (Option.any_eq_true _ _).1 primary
  have first : Orderly "/rte.config"
      ((start .empty).run "/rte.config" [.openAs "a" .primary 0 .nothing]) :=
    orderly_run (.start FileStore.sound_empty rfl) _
  have marked := first.complete_of_markComplete held (of_decide_eq_true role)
  have orderly := (move_of_step "/rte.config" _ (.markComplete "a")).orderly first
  exact (move_of_step "/rte.config" _ (.close "a")).complete orderly marked (by simp [step])

/-- **A marker outlives its primary.**  The primary has marked the file and is gone; a process that asks
to be a secondary attaches, sees the marker and is let in, and no primary is live. -/
theorem admitted_abandoned : ∃ s y,
    abandoned.step "/rte.config" (.openAs "b" .secondary 0 .nothing)
        = (.opened (.ok .secondary), s)
      ∧ s.hold? "b" = some y ∧ y.role = .secondary ∧ y.isComplete s.store = true
      ∧ (∀ timeout, y.wait s.store timeout = .ok ()) ∧ ¬s.Elected := by
  have opened : ∃ s, abandoned.step "/rte.config" (.openAs "b" .secondary 0 .nothing)
      = (.opened (.ok .secondary), s) := ⟨_, rfl⟩
  have holds : (abandoned.step "/rte.config" (.openAs "b" .secondary 0 .nothing)).2.holds
      = [("b", ⟨"/rte.config", .secondary, ⟨0, 1⟩⟩)] := by
    decide +kernel
  obtain ⟨s, opened⟩ := opened
  have move := move_of_step "/rte.config" abandoned (.openAs "b" .secondary 0 .nothing)
  rw [opened] at move holds
  dsimp only at move holds
  have orderly : Orderly "/rte.config" s := move.orderly orderly_abandoned
  have complete : Complete "/rte.config" s :=
    move.complete orderly_abandoned complete_abandoned (by simp)
  have there : ("b", ⟨"/rte.config", .secondary, ⟨0, 1⟩⟩) ∈ s.holds := by
    rw [holds]
    exact List.mem_singleton_self _
  have seen := orderly.isComplete complete _ there
  refine ⟨s, _, opened, orderly.hold?_of_mem there, rfl, seen,
    fun timeout => SharedConfig.wait_eq_ok_iff.2 seen, ?_⟩
  rintro ⟨x, ⟨name, live⟩, primary⟩
  rw [holds, List.mem_singleton] at live
  cases live
  cases primary

end Session

end Passthrough
