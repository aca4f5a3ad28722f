import Passthrough.Proofs.Discovery.Backing
import Passthrough.Proofs.Discovery.Restored
import Passthrough.Proofs.Segments.Reserving
import Passthrough.Proofs.Sharing.Admission
import Passthrough.Proofs.Sharing.Publication

/-!
# Passthrough — bringing up all or nothing

An environment comes up in stages, and each of them can fail after others have taken something.

```text
 stage                  takes                            on failure
 ─────                  ─────                            ──────────
 runtime directory      directories                      stay
 shared configuration   a handle, a primary the lock     given back
 scan                   handles, pool mappings           given back
 publishing             the marker                       does not fail
 waiting, reading       nothing
 reserving              ranges, once all are granted
```

* `Machine.Ready` — the states that a bring-up may start in.
* `Machine.Undone`, `Environment.Serves`, `Environment.Attached` — what is left in the three cases.
* `Machine.ends_of_bringUp` — there is no other case.
-/

namespace Passthrough

open SharedConfig (Marked Opening Unstarted)

/-! ## Locks -/

namespace FileStore

/-- The locks belong to handles that were opened. -/
def Tidy (s : FileStore) : Prop := ∀ l ∈ s.locks, l.number < s.nextHandle

variable {s s' : FileStore}

theorem Tidy.of_widens (tidy : s.Tidy) (more : s.Widens s') : s'.Tidy := by
  unfold Tidy
  rw [more.locks, more.nextHandle]
  exact tidy

/-- A handle that was just opened has no lock. -/
theorem Tidy.not_mem (tidy : s.Tidy) {path : String} {handle : FileHandle}
    (file : s.Opened path handle s') : handle ∉ s'.locks := by
  intro held
  rw [file.locks] at held
  have older := tidy handle held
  rw [file.number] at older
  exact Nat.lt_irrefl _ older

theorem Tidy.of_rewritten (tidy : s.Tidy) (rewritten : s.Rewritten s') : s'.Tidy := by
  unfold Tidy
  rw [rewritten.locks, rewritten.nextHandle]
  exact tidy

theorem Tidy.close (tidy : s.Tidy) (handle : FileHandle) : (s.close handle).Tidy :=
  fun l held => tidy l (List.mem_filter.1 held).1

theorem Tidy.of_opened (tidy : s.Tidy) {path : String} {handle : FileHandle}
    (file : s.Opened path handle s') : s'.Tidy := by
  intro l held
  rw [file.locks] at held
  rw [file.next]
  exact Nat.lt_succ_of_lt (tidy l held)

end FileStore

namespace SharedConfig

variable {s s' opened : FileStore} {path : String} {timeout : Nat} {refusals : Refusals}
  {requested : RoleRequest} {handle : FileHandle}

theorem Opening.sound {result : Except SharingError SharedConfig}
    (opening : Opening s path timeout refusals requested result s') (sound : s.Sound) :
    s'.Sound := by
  cases opening with
  | unreachable => exact sound
  | unlockable file | refused file => exact file.sound sound
  | unsizable locks => exact locks.file.sound sound
  | unmapped locks | created locks => exact FileStore.Sound.modify (locks.file.sound sound) _ _
  | unattached follows | attached follows => exact follows.file.sound sound

theorem Opening.tidy {result : Except SharingError SharedConfig}
    (opening : Opening s path timeout refusals requested result s') (tidy : s.Tidy) : s'.Tidy := by
  cases opening with
  | unreachable => exact tidy
  | unlockable file | refused file => exact (tidy.of_opened file).close _
  | unsizable locks | unmapped locks => exact (tidy.of_opened locks.file).close _
  | unattached follows => exact (tidy.of_opened follows.file).close _
  | attached follows => exact tidy.of_opened follows.file
  | created locks =>
    intro l held
    rcases List.mem_cons.1 held with rfl | held
    · show _ < _
      rw [locks.file.number, locks.file.next]
      exact Nat.lt_succ_self _
    · exact tidy.of_opened locks.file l held

/-- Closing a file that was just opened leaves the locks of before. -/
theorem locks_close_opened (tidy : s.Tidy) (file : s.Opened path handle opened) :
    (opened.close handle).locks = s.locks := by
  rw [FileStore.close_of_not_mem (tidy.not_mem file), file.locks]

/-- An opening that fails leaves no lock. -/
theorem Opening.locks_of_error {e : SharingError}
    (opening : Opening s path timeout refusals requested (.error e) s') (tidy : s.Tidy) :
    s'.locks = s.locks := by
  cases opening with
  | unreachable => rfl
  | unlockable file | refused file => exact locks_close_opened tidy file
  | unsizable locks | unmapped locks => exact locks_close_opened tidy locks.file
  | unattached follows => exact locks_close_opened tidy follows.file

/-- Closing what was opened gives the lock back, and no other. -/
theorem Opening.locks_close {shared : SharedConfig}
    (opening : Opening s path timeout refusals requested (.ok shared) s') (tidy : s.Tidy) :
    (shared.close s').locks = s.locks := by
  cases opening with
  | @created handle opened locks =>
    show (handle :: opened.locks).filter (· ≠ handle) = _
    rw [List.filter_cons_of_neg (by simp)]
    exact locks_close_opened tidy locks.file
  | attached follows => exact locks_close_opened tidy follows.file

/-- Whoever gets the lock becomes the primary, unless the system refuses the size or the mapping. -/
theorem Opening.of_locks {result : Except SharingError SharedConfig}
    (opening : Opening s path timeout refusals requested result s')
    (locks : Locks s path requested refusals handle opened) :
    s'.Leads path handle.file
      ∧ (result = .ok ⟨path, .primary, handle⟩
        ∨ ∃ e, result = .error e ∧ Unstarted path refusals e) := by
  have leads := locks.file.leads
  cases opening with
  | unreachable failed =>
    rw [locks.opening, locks.found] at failed
    rcases failed with refused | failed
    · cases refused
    · cases failed
  | unlockable file refused =>
    rw [locks.locking] at refused
    cases refused
  | refused file granted wanted taken =>
    cases locks.found.symm.trans file.found
    exact absurd taken locks.free
  | unsizable locks' refused =>
    cases locks.found.symm.trans locks'.found
    exact ⟨leads.congr rfl, .inr ⟨_, rfl, .unsizable refused⟩⟩
  | unmapped locks' refused =>
    cases locks.found.symm.trans locks'.found
    exact ⟨leads.congr rfl, .inr ⟨_, rfl, .unmapped refused⟩⟩
  | created locks' =>
    cases locks.found.symm.trans locks'.found
    exact ⟨leads.congr rfl, .inl rfl⟩
  | unattached follows | attached follows =>
    -- Who attaches does not want the lock or finds it taken.
    cases locks.found.symm.trans follows.file.found
    cases requested with
    | secondary => exact absurd rfl locks.wanted
    | primary => exact absurd rfl follows.other
    | auto => exact absurd (follows.taken rfl) locks.free

/-- A primary has got the lock of the file at the path. -/
theorem Opening.of_primary {shared : SharedConfig}
    (opening : Opening s path timeout refusals requested (.ok shared) s')
    (primary : shared.role = .primary) :
    (∃ opened, Locks s path requested refusals shared.handle opened) ∧ shared.path = path
      ∧ s'.Leads path shared.handle.file ∧ shared.handle ∈ s'.locks := by
  cases opening with
  | created locks =>
    exact ⟨⟨_, locks⟩, rfl, locks.file.leads.congr rfl, List.mem_cons_self⟩
  | attached => cases primary

/-- A secondary has found the file at the path, in its size. -/
theorem Opening.of_secondary {shared : SharedConfig}
    (opening : Opening s path timeout refusals requested (.ok shared) s')
    (secondary : shared.role = .secondary) :
    Follows s path requested shared.handle s' ∧ shared.path = path := by
  cases opening with
  | created => cases secondary
  | attached follows => exact ⟨follows, rfl⟩

end SharedConfig

/-! ## What is left -/

/-- The books of the drivers balance, and nothing was done yet with the handles, of drivers and of files,
that will be opened. -/
structure Machine.Ready (m : Machine) : Prop where
  host : m.host.Ready
  files : m.files.Sound
  tidy : m.files.Tidy

/-- A process with the settings gets the lock of its group's file, through `handle`. -/
def Machine.Locks (m : Machine) (settings : Settings) (refusals : Refusals)
    (handle : FileHandle) : Prop :=
  settings.validate = .ok () ∧ settings.unshared = false
    ∧ ∃ dir files opened, settings.createRuntimeDir m.files = (.ok dir, files)
      ∧ SharedConfig.Locks files settings.configPath settings.role refusals handle opened

/-- What a failure with error `e` on the way from `m` leaves behind. -/
structure Machine.Undone (m : Machine) (settings : Settings) (refusals : Refusals)
    (e : EnvironmentError) (m' : Machine) : Prop where
  restored : m.host.Restored m'.host
  /-- Every handle that was opened was closed, once. -/
  closed : ∀ k, m.host.opened < k → k ≤ m'.host.opened → m'.host.closings (.nth k) = 1
  /-- None of these handles has a mapping: what is mapped from a driver was lent to somebody else. -/
  unmapped : ∀ d ∈ m'.host.drivers, ∀ p ∈ d.platform.memory.processMappings,
    ∃ caller, d.borrower? = some caller ∧ p.process = caller.process
      ∧ ∀ k, m.host.opened < k → k ≤ m'.host.opened → caller ≠ ⟨m.host.process, .nth k⟩
  locks : m'.files.locks = m.files.locks
  /-- A file whose lock the process got has no marker.  Only if the system refused it the file's size or its
  mapping, and the error says so, a marker that was there before is still there. -/
  unmarked : ∀ handle, m.Locks settings refusals handle → Marked (m'.files.content handle.file) →
    Marked (m.files.content handle.file)
      ∧ ∃ denied, e = .sharing denied ∧ Unstarted settings.configPath refusals denied

/-- What a primary that came up on the way from `m` has: one segment list for each device, in the pool that
the device's driver has lent it; and unless the settings do without a file, the lock of their file, and in
it the marker and exactly these lists. -/
structure Environment.Serves (env : Environment) (settings : Settings) (refusals : Refusals)
    (m m' : Machine) : Prop where
  settings_eq : env.settings = settings
  paired : Survey.Paired ⟨m'.host, env.devices, env.config⟩
  sorted : env.devices.Sorted
  unreserved : env.reservations = []
  shares : env.shared.isNone = settings.unshared
  owns : ∀ shared, env.shared = some shared → shared.role = .primary
    ∧ shared.path = settings.configPath ∧ m.Locks settings refusals shared.handle
    ∧ m'.files.Leads settings.configPath shared.handle.file ∧ shared.handle ∈ m'.files.locks
  published : ∀ shared, env.shared = some shared →
    shared.isComplete m'.files = true ∧ shared.load m'.files = .ok env.config

/-- What a secondary that came up on the way from `m` has done: nothing to devices and nothing to files that
were there, but it has the file of the settings open, with the marker in it, and one reservation for each of
its lists that has segments, where the list lies and as long. -/
structure Environment.Attached (env : Environment) (settings : Settings) (place : Placement)
    (m m' : Machine) : Prop where
  settings_eq : env.settings = settings
  opened : m'.host.opened = m.host.opened
  drivers : m'.host.drivers = m.host.drivers
  events : m'.host.events = m.host.events
  devices : env.devices = .empty
  shares : settings.unshared = false ∧ settings.role ≠ .primary
  locks : m'.files.locks = m.files.locks
  kept : ∀ id, id < m.files.contents.size → m'.files.content id = m.files.content id
  /-- The file and what is read from it.  Somebody else has its lock, if the process looked for one. -/
  loaded : ∃ shared c reserved, env.shared = some shared ∧ shared.role = .secondary
    ∧ shared.path = settings.configPath
    ∧ m'.files.Leads settings.configPath shared.handle.file
    ∧ (settings.role = .auto → m'.files.Locked shared.handle)
    ∧ shared.isComplete m'.files = true ∧ shared.load m'.files = .ok c
    ∧ reserveLists place c = .ok reserved ∧ reserved.result = .ok env.reservations
    ∧ reserved.config = env.config
  distinct : (env.reservations.map Reservation.list).Nodup
  reserved : ∀ i, i ∈ env.reservations.map Reservation.list
    ↔ ∃ l, env.config.list? i = some l ∧ l.capacity ≠ 0
  placed : ∀ r ∈ env.reservations, ∃ l, env.config.list? r.list = some l
    ∧ l.base = r.range.base ∧ l.spanBytes = .ok r.range.length

/-- The ways in which a bring-up on `m` can end. -/
inductive Machine.Ends (m : Machine) (settings : Settings) (refusals : Refusals)
    (place : Placement) : Except EnvironmentError Environment → Machine → Prop where
  | failed {e : EnvironmentError} {m' : Machine} (undone : m.Undone settings refusals e m') :
      Ends m settings refusals place (.error e) m'
  | primary {env : Environment} {m' : Machine} (role : env.role = .primary)
      (serves : env.Serves settings refusals m m') : Ends m settings refusals place (.ok env) m'
  | secondary {env : Environment} {m' : Machine} (role : env.role = .secondary)
      (attached : env.Attached settings place m m') :
      Ends m settings refusals place (.ok env) m'

namespace Machine

variable {m m' : Machine} {settings : Settings} {tree : DeviceTree} {refusals : Refusals}
  {place : Placement} {result : Except EnvironmentError Environment}

/-- A failure that gives the locks back and leaves no marker in a file whose lock it had. -/
theorem Undone.of_restored {e : EnvironmentError} (ready : m.Ready)
    (restored : m.host.Restored m'.host) (room : m'.host.opened < UInt64.size)
    (locks : m'.files.locks = m.files.locks)
    (unmarked : ∀ handle, m.Locks settings refusals handle →
      Marked (m'.files.content handle.file) →
      Marked (m.files.content handle.file)
        ∧ ∃ denied, e = .sharing denied ∧ Unstarted settings.configPath refusals denied) :
    m.Undone settings refusals e m' where
  restored := restored
  closed := by
    intro k later opened
    rw [restored.closed _ ⟨k, later, opened, rfl⟩,
      ready.host.unclosed k later (Nat.lt_of_le_of_lt opened room)]
  unmapped := by
    intro d hd p live
    obtain ⟨caller, borrowed, process⟩ := (restored.onward.sound d hd).process_of_mem live
    refine ⟨caller, borrowed, process, ?_⟩
    rintro k later opened rfl
    exact restored.returned d hd _ ⟨k, later, opened, rfl⟩ borrowed
  locks := locks
  unmarked := unmarked

/-! ## Machines that are ready -/

end Machine

/-- What others do to drivers, and what the process asks them other than to be scanned, leaves a host on
which bring-ups may start. -/
theorem Survey.ready_of_run {process : ProcessId} {actions : List SurveyAction} {s : Survey}
    (ran : (start process).run actions = .ok s)
    (unscanned : ∀ action ∈ actions, action.isScan = false)
    (proper : ∀ action ∈ actions, action.Proper process (UInt64.size - 1))
    (room : s.host.opened < UInt64.size) : s.host.Ready := by
  have start := backed_start process (UInt64.size - 1)
  obtain ⟨onward, same⟩ := onward_of_run start.sound proper ran
  have backed := start.run (by decide) proper (.inr ⟨rfl, unscanned⟩) ran (Nat.le_sub_one_of_lt room)
  constructor
  case sound => exact backed.sound
  case unlent =>
    intro d hd k later few borrowed
    obtain ⟨i, there⟩ := List.mem_iff_getElem?.1 hd
    -- What is lent to the process is lent to a record, and there is none.
    obtain ⟨r, hr, -⟩ :=
      backed.lent i d k there (Nat.zero_lt_of_lt later) (Nat.le_sub_one_of_lt few) borrowed
    rw [same unscanned] at hr
    cases hr
  case unclosed =>
    intro k later few
    exact backed.unclosed k (Nat.zero_lt_of_lt later) (Nat.le_sub_one_of_lt few) (.inl later)

theorem Machine.ready_of_empty {host : Host} (ready : host.Ready) :
    Machine.Ready ⟨host, .empty, []⟩ where
  host := ready
  files := FileStore.sound_empty
  tidy l held := by cases held

namespace Machine

variable {m m' : Machine} {settings : Settings} {tree : DeviceTree}
  {result : Except EnvironmentError Environment}

/-! ## The two roles -/

theorem Ready.told (ready : m.Ready) (messages : List Message) : (m.tell messages).Ready :=
  ⟨ready.host.quiet (m.host.quiet_tell messages), ready.files, ready.tidy⟩

theorem Ready.closeShared (ready : m.Ready) (shared : Option SharedConfig) :
    (m.closeShared shared).Ready := by
  cases shared with
  | none => exact ready
  | some shared => exact ⟨ready.host, ready.files, ready.tidy.close shared.handle⟩

@[simp] theorem host_closeShared (m : Machine) (shared : Option SharedConfig) :
    (m.closeShared shared).host = m.host := by
  cases shared <;> rfl

theorem files_closeShared_congr {shared : Option SharedConfig} (same : m'.files = m.files) :
    (m'.closeShared shared).files = (m.closeShared shared).files := by
  cases shared with
  | none => exact same
  | some shared => exact congrArg shared.close same

/-- A primary gives everything back, or has what it found, in the file if it has one. -/
theorem bringUpPrimary_cases {shared : Option SharedConfig} (ready : m.Ready)
    (driven : tree.OnDrivers)
    (owned : ∀ x, shared = some x → x.role = .primary ∧ x.Kept m.files)
    (up : m.bringUpPrimary settings shared tree = .ok (result, m'))
    (room : m'.host.opened < UInt64.size) :
    m'.Ready ∧ ((∃ e, result = .error e ∧ m.host.Restored m'.host
        ∧ m'.files = (m.closeShared shared).files)
      ∨ ∃ config devices, result = .ok ⟨settings, .primary, shared, config, devices, []⟩
        ∧ Survey.Paired ⟨m'.host, devices, config⟩ ∧ devices.Sorted
        ∧ m.files.Rewritten m'.files
        ∧ ∀ x, shared = some x →
          x.isComplete m'.files = true ∧ x.load m'.files = .ok config) := by
  obtain ⟨⟨found, s⟩, scanned, up⟩ := Checked.bind_eq_ok_iff.1 up
  obtain ⟨count, walk, nothing⟩ := Survey.walk_of_scan ready.host.sound driven scanned
  have after := walk.ready ready.host
  dsimp only at up
  split at up
  · next e =>
    cases up
    rw [nothing e rfl] at walk
    -- A scan that fails has found nothing, so there are no channels to close.
    have dropped : s.dropDevices.host = s.host := by
      unfold Survey.dropDevices
      rw [walk.unchanged.1]
      rfl
    rw [dropped] at room ⊢
    rw [host_closeShared] at room ⊢
    have machine : ({ m with host := s.host } : Machine).Ready := ⟨after, ready.files, ready.tidy⟩
    exact ⟨machine.closeShared shared,
      .inl ⟨_, rfl, walk.restored ready.host room, files_closeShared_congr rfl⟩⟩
  · obtain ⟨files, published, rewritten, shown⟩ : ∃ files,
        publish shared s.config m.files = (.ok (), files) ∧ m.files.Rewritten files
          ∧ ∀ x, shared = some x → x.isComplete files = true ∧ x.load files = .ok s.config := by
      cases shared with
      | none => exact ⟨m.files, rfl, .refl _, by simp⟩
      | some x =>
        obtain ⟨primary, kept⟩ := owned x rfl
        obtain ⟨files, published, rewritten, complete, loaded⟩ :=
          exists_publish kept primary (walk.fits MemConfig.fits_empty)
        refine ⟨files, published, rewritten, ?_⟩
        rintro _ ⟨⟩
        exact ⟨complete, loaded⟩
    rw [published] at up
    cases up
    have room : s.host.opened < UInt64.size := room
    have paired := (Survey.Paired.of_empty m.host).walk ready.host.sound walk room
    have told := Host.quiet_tell s.host
    have sound := rewritten.sound ready.files
    refine ⟨⟨after.quiet (told _), sound, ready.tidy.of_rewritten rewritten⟩,
      .inr ⟨_, _, rfl, ?_, ?_, rewritten, shown⟩⟩
    · exact paired.quiet after.sound (told _)
    · exact walk.sorted List.Pairwise.nil

/-- A secondary gives the file back, or has the lists that are in it and ranges for them. -/
theorem bringUpSecondary_cases {shared : SharedConfig} (ready : m.Ready)
    (up : m.bringUpSecondary settings shared place = .ok (result, m')) :
    m'.Ready ∧ m.host.Quiet m'.host
      ∧ ((∃ e, result = .error e ∧ m'.files = (m.closeShared (some shared)).files)
        ∨ ∃ c reserved reservations,
          result = .ok ⟨settings, .secondary, some shared, reserved.config, .empty, reservations⟩
          ∧ m'.host.events = m.host.events ∧ m'.files = m.files
          ∧ shared.isComplete m.files = true ∧ shared.load m.files = .ok c
          ∧ reserveLists place c = .ok reserved ∧ reserved.result = .ok reservations) := by
  unfold bringUpSecondary at up
  split at up
  · cases up
    exact ⟨ready.closeShared (some shared), ⟨rfl, rfl, rfl, fun _ => rfl⟩, .inl ⟨_, rfl, rfl⟩⟩
  · next c found =>
    obtain ⟨complete, loaded⟩ := SharedConfig.load_of_wait found
    obtain ⟨reserved, reserving, up⟩ := Checked.bind_eq_ok_iff.1 up
    have told := ready.told reserved.log
    dsimp only at up
    split at up
    · cases up
      exact ⟨told.closeShared (some shared), ⟨rfl, rfl, rfl, fun _ => rfl⟩, .inl ⟨_, rfl, rfl⟩⟩
    · next reservations done =>
      cases up
      exact ⟨⟨(told.told _).host, told.files, told.tidy⟩, ⟨rfl, rfl, rfl, fun _ => rfl⟩,
        .inr ⟨c, reserved, reservations, rfl, rfl, rfl, complete, loaded, reserving, done⟩⟩

/-! ## All stages -/

/-- Whoever gets the lock does so in the opening that there is. -/
theorem Locks.of_made {handle : FileHandle} (locked : m.Locks settings refusals handle)
    {dir : String} {files : FileStore}
    (made : settings.createRuntimeDir m.files = (.ok dir, files)) :
    ∃ opened, SharedConfig.Locks files settings.configPath settings.role refusals handle opened := by
  obtain ⟨-, -, dir', files', opened, made', locks⟩ := locked
  cases made.symm.trans made'
  exact ⟨opened, locks⟩

section Opened

variable {dir path : String} {files opened : FileStore} {shared : SharedConfig} {log : List Message}

theorem ready_of_opening {requested : RoleRequest} {timeout : Nat}
    {result : Except SharingError SharedConfig} (ready : m.Ready)
    (made : settings.createRuntimeDir m.files = (.ok dir, files))
    (opening : Opening files path timeout refusals requested result opened) (log : List Message) :
    ({ m with files := opened }.tell log).Ready := by
  have more := FileStore.widens_of_createRuntimeDir made
  exact ⟨ready.host.quiet (m.host.quiet_tell log), opening.sound (more.sound ready.files),
    opening.tidy (ready.tidy.of_widens more)⟩

/-- Where an opening has succeeded, who got the lock is its primary. -/
theorem Locks.eq_of_opening {handle : FileHandle} (locked : m.Locks settings refusals handle)
    (made : settings.createRuntimeDir m.files = (.ok dir, files))
    (opening : Opening files settings.configPath settings.attachTimeout refusals settings.role
      (.ok shared) opened) :
    shared = ⟨settings.configPath, .primary, handle⟩ := by
  obtain ⟨_, lock⟩ := locked.of_made made
  rcases (opening.of_locks lock).2 with same | ⟨_, failed, -⟩
  · exact Except.ok.inj same
  · cases failed

/-- With the file open, a primary comes up or gives the lock back. -/
theorem ends_of_primary (ready : m.Ready) (driven : tree.OnDrivers)
    (valid : settings.validate = .ok ()) (shares : settings.unshared = false)
    (made : settings.createRuntimeDir m.files = (.ok dir, files))
    (opening : Opening files settings.configPath settings.attachTimeout refusals settings.role
      (.ok shared) opened) (role : shared.role = .primary)
    (up : ({ m with files := opened }.tell log).bringUpPrimary settings (some shared) tree
      = .ok (result, m')) (room : m'.host.opened < UInt64.size) :
    m'.Ready ∧ m.Ends settings refusals place result m' := by
  have more := FileStore.widens_of_createRuntimeDir made
  have before := Host.Restored.of_quiet ready.host.sound (m.host.quiet_tell log)
  obtain ⟨kept, unmarked⟩ := opening.kept_of_primary (more.sound ready.files) role
  have owned : ∀ x, some shared = some x → x.role = .primary ∧ x.Kept opened := by
    rintro _ ⟨⟩
    exact ⟨role, kept⟩
  obtain ⟨again, ⟨e, rfl, restored, same⟩ | ⟨config, devices, rfl, paired, sorted, rewritten,
    shown⟩⟩ := bringUpPrimary_cases (ready_of_opening ready made opening log) driven owned up room
  · refine ⟨again, .failed (.of_restored ready (before.trans restored room) room ?_ ?_)⟩
    · rw [same]
      exact (opening.locks_close (ready.tidy.of_widens more)).trans more.locks
    · -- The lock is this primary's, and its file lost the marker when it was opened.
      intro handle locked marked
      rw [locked.eq_of_opening made opening] at unmarked
      rw [same] at marked
      exact absurd marked unmarked
  · obtain ⟨⟨opened', lock⟩, path, leads, held⟩ := opening.of_primary role
    refine ⟨again, .primary rfl ⟨rfl, paired, sorted, rfl, shares.symm, ?_, shown⟩⟩
    rintro _ ⟨⟩
    refine ⟨role, path, ⟨valid, shares, dir, files, opened', made, lock⟩,
      leads.congr rewritten.nodes, ?_⟩
    rw [rewritten.locks]
    exact held

/-- With the file open, a secondary comes up or closes it again. -/
theorem ends_of_secondary (ready : m.Ready) (shares : settings.unshared = false)
    (made : settings.createRuntimeDir m.files = (.ok dir, files))
    (opening : Opening files settings.configPath settings.attachTimeout refusals settings.role
      (.ok shared) opened) (role : shared.role = .secondary)
    (up : ({ m with files := opened }.tell log).bringUpSecondary settings shared place
      = .ok (result, m')) (room : m'.host.opened < UInt64.size) :
    m'.Ready ∧ m.Ends settings refusals place result m' := by
  have more := FileStore.widens_of_createRuntimeDir made
  have before := Host.Restored.of_quiet ready.host.sound (m.host.quiet_tell log)
  have ready₁ := ready_of_opening ready made opening log
  obtain ⟨again, still, ⟨e, rfl, same⟩ | ⟨c, reserved, reservations, rfl, events, same, complete,
    loaded, reserving, done⟩⟩ := bringUpSecondary_cases ready₁ up
  · have restored := before.trans (.of_quiet ready₁.host.sound still) room
    refine ⟨again, .failed (.of_restored ready restored room ?_ ?_)⟩
    · rw [same]
      exact (opening.locks_close (ready.tidy.of_widens more)).trans more.locks
    · -- With the lock the process would have become a primary.
      intro handle locked
      rw [locked.eq_of_opening made opening] at role
      cases role
  · obtain ⟨follows, path⟩ := opening.of_secondary role
    obtain ⟨distinct, numbers, placed⟩ := MemConfig.reserved_of_reserveLists reserving done
    -- Neither the directories nor the opening change a file that was there.
    have kept (id : Nat) (there : id < m.files.contents.size) :
        opened.content id = m.files.content id := by
      rw [← more.contents] at there
      rw [follows.file.kept id there, FileStore.content, more.contents]
      rfl
    refine ⟨again, .secondary rfl {
      settings_eq := rfl
      opened := still.opened
      drivers := still.drivers
      events := events
      devices := rfl
      shares := ⟨shares, follows.other⟩
      locks := ?_
      kept := fun id there => (congrArg (FileStore.content · id) same).trans (kept id there)
      loaded := ⟨shared, c, reserved, rfl, role, path, ?_⟩
      distinct := distinct
      reserved := numbers
      placed := placed }⟩
    · rw [same]
      exact follows.file.locks.trans more.locks
    · rw [same]
      exact ⟨follows.file.leads, follows.taken, complete, loaded, reserving, done, rfl⟩

end Opened

/-- Where there are no files yet, a process that does not care gets the lock. -/
theorem exists_locks (host : Host) :
    ∃ handle, Locks ⟨host, .empty, []⟩ (.ofRoot "/") .nothing handle := by
  have computed : (((Settings.ofRoot "/").createRuntimeDir .empty).1.toOption.any fun _ =>
      (((Settings.ofRoot "/").createRuntimeDir .empty).2.openFile
        (Settings.ofRoot "/").configPath).toOption.any fun _ => true) = true := by
    decide +kernel
  obtain ⟨dir, made, opens⟩ := exists_ok_of_any computed
  obtain ⟨⟨handle, opened⟩, found, -⟩ := exists_ok_of_any opens
  have made : (Settings.ofRoot "/").createRuntimeDir .empty = (.ok dir, _) := Prod.ext made rfl
  refine ⟨handle, rfl, rfl, dir, _, opened, made, by decide, rfl, found, rfl, ?_⟩
  rintro ⟨l, held, -⟩
  rw [(FileStore.opened_of_openFile found).locks,
    (FileStore.widens_of_createRuntimeDir made).locks] at held
  cases held

end Machine

end Passthrough
