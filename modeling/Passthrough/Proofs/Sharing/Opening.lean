import Passthrough.Proofs.Segments.Table
import Passthrough.Proofs.Sharing.Store
import Passthrough.Sharing.SharedConfig

/-!
# Passthrough — the processes that share one file

`SharedConfig.Opening` lists the ways in which opening a shared configuration can end, and
`SharedConfig.Group path store live` says what holds of the holds that are live on the file at `path`:
all have that file, each its own handle, and the lock of the file belongs to the one of them that is
the primary.  Every way of opening, every close and every change by the primary keeps this.

* `SharedConfig.opening_of_openAs` — opening ends in one of the listed ways.
* `SharedConfig.Opening.content_cases` — what an opening does to the files that are there.
* `SharedConfig.Group.locked_iff` — the lock is taken exactly while a primary is live.
* `SharedConfig.Group.joined_of_opening`, `same_of_opening`, `closed`, `changed` — what a group becomes.
-/

namespace Passthrough

open FileStore (Opened)

namespace SharedConfig

/-- The opening gets to the lock of the file, and nobody else has it. -/
structure Locks (s : FileStore) (path : String) (requested : RoleRequest) (refusals : Refusals)
    (handle : FileHandle) (opened : FileStore) : Prop where
  wanted : requested ≠ .secondary
  opening : refusals.opening = none
  found : s.openFile path = .ok (handle, opened)
  locking : refusals.locking = none
  free : ¬opened.Locked handle

theorem Locks.file {s opened : FileStore} {path : String} {requested : RoleRequest}
    {refusals : Refusals} {handle : FileHandle} (locks : Locks s path requested refusals handle opened) :
    s.Opened path handle opened := FileStore.opened_of_openFile locks.found

/-- The opening has the file open and does not get the lock, or does not want it. -/
structure Follows (s : FileStore) (path : String) (requested : RoleRequest) (handle : FileHandle)
    (opened : FileStore) : Prop where
  file : s.Opened path handle opened
  other : requested ≠ .primary
  taken : requested = .auto → opened.Locked handle

/-- The error that ends the opening of a process which had the lock: the system refused it the size of the
file or the mapping. -/
inductive Unstarted (path : String) (refusals : Refusals) : SharingError → Prop where
  | unsizable {reason : SystemError}
      (refused : refusals.sizing = some reason ∨ refusals.resizing = some reason) :
      Unstarted path refusals (.resize path reason)
  | unmapped {reason : SystemError} (refused : refusals.mapping = some reason) :
      Unstarted path refusals (.map path reason)

/-- The ways in which opening a shared configuration can end. -/
inductive Opening (s : FileStore) (path : String) (timeout : Nat) (refusals : Refusals)
    (requested : RoleRequest) : Except SharingError SharedConfig → FileStore → Prop where
  | unreachable {reason : SystemError}
      (failed : refusals.opening = some reason ∨ s.openFile path = .error reason) :
      Opening s path timeout refusals requested (.error (.openFile path reason)) s
  | unlockable {reason : SystemError} {handle : FileHandle} {opened : FileStore}
      (file : s.Opened path handle opened) (refused : refusals.locking = some reason) :
      Opening s path timeout refusals requested (.error (.lock path reason)) (opened.close handle)
  | refused {handle : FileHandle} {opened : FileStore} (file : s.Opened path handle opened)
      (granted : refusals.opening = none ∧ refusals.locking = none) (wanted : requested = .primary)
      (taken : opened.Locked handle) :
      Opening s path timeout refusals requested (.error (.primaryRunning path))
        (opened.close handle)
  | unsizable {reason : SystemError} {handle : FileHandle} {opened : FileStore}
      (locks : Locks s path requested refusals handle opened)
      (refused : refusals.sizing = some reason ∨ refusals.resizing = some reason) :
      Opening s path timeout refusals requested (.error (.resize path reason)) (opened.close handle)
  /-- The file has its size by then, and nothing else is done to it. -/
  | unmapped {reason : SystemError} {handle : FileHandle} {opened : FileStore}
      (locks : Locks s path requested refusals handle opened)
      (refused : refusals.mapping = some reason) :
      Opening s path timeout refusals requested (.error (.map path reason))
        ((opened.close handle).modify handle.file (·.resize Layout.regionSize))
  | created {handle : FileHandle} {opened : FileStore}
      (locks : Locks s path requested refusals handle opened) :
      Opening s path timeout refusals requested (.ok ⟨path, .primary, handle⟩)
        ({ opened with locks := handle :: opened.locks }.modify handle.file started)
  /-- A secondary finds the file too short, or is refused its size or the mapping. -/
  | unattached {e : SharingError} {handle : FileHandle} {opened : FileStore}
      (follows : Follows s path requested handle opened)
      (why : (e = .attachTimeout path timeout
          ∧ (opened.content handle.file).size < Layout.regionSize)
        ∨ ∃ reason, (e = .openFile path reason ∧ refusals.sizing = some reason)
          ∨ e = .map path reason ∧ refusals.mapping = some reason) :
      Opening s path timeout refusals requested (.error e) (opened.close handle)
  | attached {handle : FileHandle} {opened : FileStore}
      (follows : Follows s path requested handle opened)
      (sized : Layout.regionSize ≤ (opened.content handle.file).size) :
      Opening s path timeout refusals requested (.ok ⟨path, .secondary, handle⟩) opened

section Stages

variable {s opened : FileStore} {path : String} {handle : FileHandle} {requested : RoleRequest}
  {timeout : Nat} {refusals : Refusals}

/-- Whoever does not become the primary attaches. -/
theorem opening_of_attach (follows : Follows s path requested handle opened) :
    Opening s path timeout refusals requested (attach opened path handle timeout refusals).1
      (attach opened path handle timeout refusals).2.1 := by
  unfold attach
  split
  · next reason refused => exact .unattached follows (.inr ⟨reason, .inl ⟨rfl, refused⟩⟩)
  · split
    · next short => exact .unattached follows (.inl ⟨rfl, short⟩)
    · next sized =>
      split
      · next reason refused => exact .unattached follows (.inr ⟨reason, .inr ⟨rfl, refused⟩⟩)
      · exact .attached follows (Nat.le_of_not_lt sized)

/-- Whoever has the lock creates, and gives the lock back on failure. -/
theorem opening_of_create (locks : Locks s path requested refusals handle opened) :
    Opening s path timeout refusals requested
      (create { opened with locks := handle :: opened.locks } path handle refusals).1
      (create { opened with locks := handle :: opened.locks } path handle refusals).2.1 := by
  have closed : ({ opened with locks := handle :: opened.locks } : FileStore).close handle
      = opened.close handle := by
    unfold FileStore.close
    rw [List.filter_cons_of_neg (by simp)]
  unfold create
  dsimp only
  split
  · next reason refused =>
    rw [closed]
    refine .unsizable locks ?_
    rcases Option.or_eq_some_iff.1 refused with sizing | ⟨-, resizing⟩
    · exact .inl sizing
    · exact .inr (Option.ite_none_left_eq_some.1 resizing).2
  · split
    · next reason refused =>
      have left : (({ opened with locks := handle :: opened.locks } : FileStore).modify handle.file
          (·.resize Layout.regionSize)).close handle
            = (opened.close handle).modify handle.file (·.resize Layout.regionSize) :=
        congrArg (FileStore.modify · handle.file (·.resize Layout.regionSize)) closed
      rw [left]
      exact .unmapped locks refused
    · exact .created locks

end Stages

/-- Opening ends in one of the listed ways. -/
theorem opening_of_openAs (s : FileStore) (path : String) (requested : RoleRequest) (timeout : Nat)
    (refusals : Refusals) : Opening s path timeout refusals requested
      (openAs s path requested timeout refusals).1 (openAs s path requested timeout refusals).2.1 := by
  unfold openAs
  cases granted : refusals.opening with
  | some reason => exact .unreachable (.inl granted)
  | none =>
    rw [Option.elim_none]
    cases found : s.openFile path with
    | error reason => exact .unreachable (.inr found)
    | ok result =>
      obtain ⟨handle, opened⟩ := result
      have file := FileStore.opened_of_openFile found
      unfold tryLock
      cases requested with
      | secondary => exact opening_of_attach ⟨file, by decide, by simp⟩
      | primary =>
        cases locking : refusals.locking with
        | some reason => exact .unlockable file locking
        | none =>
          dsimp only
          rcases opened.tryLock_cases handle with ⟨taken, lock⟩ | ⟨free, lock⟩
          · rw [lock]
            exact .refused file ⟨granted, locking⟩ rfl taken
          · rw [lock]
            exact opening_of_create ⟨by decide, granted, found, locking, free⟩
      | auto =>
        cases locking : refusals.locking with
        | some reason => exact .unlockable file locking
        | none =>
          dsimp only
          rcases opened.tryLock_cases handle with ⟨taken, lock⟩ | ⟨free, lock⟩
          · rw [lock]
            exact opening_of_attach ⟨file, by decide, fun _ => taken⟩
          · rw [lock]
            exact opening_of_create ⟨by decide, granted, found, locking, free⟩

section Files

variable {s s' : FileStore} {path : String} {timeout : Nat} {refusals : Refusals}
  {requested : RoleRequest} {result : Except SharingError SharedConfig}

/-- An opening keeps all files as they are, unless it has the lock: then it ends in a primary, or the file
has got its size and the mapping was refused. -/
theorem Opening.content_cases (opening : Opening s path timeout refusals requested result s')
    {id : Nat} (there : id < s.contents.size) :
    s'.content id = s.content id ∨ (∃ shared, result = .ok shared ∧ shared.role = .primary)
      ∨ ∃ handle opened reason, Locks s path requested refusals handle opened
        ∧ refusals.mapping = some reason ∧ result = .error (.map path reason)
        ∧ s'.content id = (s.content id).resize Layout.regionSize := by
  cases opening with
  | unreachable => exact .inl rfl
  | unlockable file | refused file => exact .inl (file.kept id there)
  | unsizable locks => exact .inl (locks.file.kept id there)
  | unattached follows | attached follows => exact .inl (follows.file.kept id there)
  | created => exact .inr (.inl ⟨_, rfl, rfl⟩)
  | @unmapped reason handle opened locks refused =>
    have kept : (opened.close handle).content id = s.content id := locks.file.kept id there
    rw [FileStore.content_modify, kept]
    split
    · exact .inr (.inr ⟨handle, opened, reason, locks, refused, rfl, rfl⟩)
    · exact .inl rfl

/-- What the file at the path is opened as, unless it cannot be. -/
theorem Opening.opened (opening : Opening s path timeout refusals requested result s') :
    s' = s ∨ ∃ handle opened, s.Opened path handle opened ∧ s'.nodes = opened.nodes
      ∧ s'.nextHandle = opened.nextHandle := by
  cases opening with
  | unreachable => exact .inl rfl
  | unlockable file | refused file => exact .inr ⟨_, _, file, rfl, rfl⟩
  | unsizable locks | unmapped locks | created locks => exact .inr ⟨_, _, locks.file, rfl, rfl⟩
  | unattached follows | attached follows => exact .inr ⟨_, _, follows.file, rfl, rfl⟩

/-- A path that leads to a file leads there after an opening. -/
theorem Opening.leads (opening : Opening s path timeout refusals requested result s')
    {id : Nat} (h : s.Leads path id) : s'.Leads path id := by
  rcases opening.opened with rfl | ⟨handle, opened, file, nodes, -⟩
  · exact h
  · obtain ⟨-, rfl⟩ := file.known id h
    exact h.congr nodes

end Files

/-! ## The holds on one file -/

/-- What holds of a store and the live holds on the file at a path. -/
structure Group (path : String) (store : FileStore) (live : SharedConfig → Prop) : Prop where
  sound : store.Sound
  leads : ∀ x, live x → store.Leads path x.handle.file
  own : ∀ x y, live x → live y → x.handle.number = y.handle.number → x = y
  older : ∀ x, live x → x.handle.number < store.nextHandle
  /-- The locks are those of the primaries. -/
  locks : ∀ l, l ∈ store.locks ↔ ∃ x, live x ∧ x.role = .primary ∧ x.handle = l
  single : ∀ x y, live x → live y → x.role = .primary → y.role = .primary → x = y
  /-- Who has the file open has found it in its size, or in a larger one. -/
  room : ∀ x, live x → Layout.regionSize ≤ (store.content x.handle.file).size
  /-- A primary has given the file its size. -/
  sized : ∀ x, live x → x.role = .primary →
    (store.content x.handle.file).size = Layout.regionSize

namespace Group

variable {path : String} {store opened : FileStore} {live : SharedConfig → Prop}
  {handle : FileHandle}

theorem congr (group : Group path store live) {live' : SharedConfig → Prop}
    (same : ∀ x, live x ↔ live' x) : Group path store live' := by
  have same : live = live' := funext fun x => propext (same x)
  rwa [← same]

/-- A store without locks is in order for nobody. -/
theorem start (sound : store.Sound) (unlocked : store.locks = []) :
    Group path store fun _ => False where
  sound := sound
  leads := by simp
  own := by simp
  older := by simp
  locks := by simp [unlocked]
  single := by simp
  room := by simp
  sized := by simp

theorem lt_size (group : Group path store live) {x : SharedConfig} (hx : live x) :
    x.handle.file < store.contents.size :=
  (group.leads x hx).lt_size group.sound

/-- The lock of the file is taken exactly while a primary is live. -/
theorem locked_iff (group : Group path store live) (file : store.Opened path handle opened) :
    opened.Locked handle ↔ ∃ x, live x ∧ x.role = .primary := by
  unfold FileStore.Locked
  rw [file.locks]
  constructor
  · rintro ⟨l, taken, -, -⟩
    obtain ⟨x, hx, primary, -⟩ := (group.locks l).1 taken
    exact ⟨x, hx, primary⟩
  · rintro ⟨x, hx, primary⟩
    have known := (file.known _ (group.leads x hx)).1
    have older := group.older x hx
    refine ⟨x.handle, (group.locks _).2 ⟨x, hx, primary, rfl⟩, known.symm, ?_⟩
    rw [file.number]
    exact Nat.ne_of_lt older

/-- Another handle on the file does not matter to a group. -/
theorem reopened (group : Group path store live) (file : store.Opened path handle opened) :
    Group path opened live where
  sound := file.sound group.sound
  leads x hx := by
    have known := (file.known _ (group.leads x hx)).2
    exact (group.leads x hx).congr (by rw [known])
  own := group.own
  older x hx := by
    rw [file.next]
    exact Nat.lt_succ_of_lt (group.older x hx)
  locks l := by
    rw [file.locks]
    exact group.locks l
  single := group.single
  room x hx := by
    rw [file.kept _ (group.lt_size hx)]
    exact group.room x hx
  sized x hx primary := by
    rw [file.kept _ (group.lt_size hx)]
    exact group.sized x hx primary

theorem number_ne (group : Group path store live) (file : store.Opened path handle opened)
    {x : SharedConfig} (hx : live x) : x.handle.number ≠ handle.number := by
  rw [file.number]
  exact Nat.ne_of_lt (group.older x hx)

/-- An opening that fails gives its handle back and leaves the locks alone. -/
theorem close_opened (group : Group path store live) (file : store.Opened path handle opened) :
    opened.close handle = opened := by
  refine FileStore.close_of_not_mem fun held => ?_
  rw [file.locks] at held
  obtain ⟨x, hx, -, same⟩ := (group.locks handle).1 held
  exact group.number_ne file hx (congrArg FileHandle.number same)

/-- One more hold.  A secondary joins without a change; a primary takes the lock, if no primary is
there, and may change what is in the file. -/
theorem joined (group : Group path store live) (file : store.Opened path handle opened)
    {role : Role} {store' : FileStore} (sound : store'.Sound) (nodes : store'.nodes = opened.nodes)
    (next : store'.nextHandle = opened.nextHandle)
    (locks : ∀ l, l ∈ store'.locks ↔ role = .primary ∧ l = handle ∨ l ∈ opened.locks)
    (free : role = .primary → ¬opened.Locked handle)
    (room : Layout.regionSize ≤ (store'.content handle.file).size)
    (sized : role = .primary → (store'.content handle.file).size = Layout.regionSize)
    (kept : role = .secondary → store'.contents = opened.contents) :
    Group path store' fun x => x = ⟨path, role, handle⟩ ∨ live x := by
  have before := group.reopened file
  have alone : role = .primary → ∀ x, live x → x.role ≠ .primary := fun new x hx primary =>
    free new ((group.locked_iff file).2 ⟨x, hx, primary⟩)
  constructor
  case sound => exact sound
  case leads =>
    rintro x (rfl | hx)
    · exact file.leads.congr nodes
    · exact (before.leads x hx).congr nodes
  case own =>
    rintro x y (rfl | hx) (rfl | hy) same
    · rfl
    · exact absurd same.symm (group.number_ne file hy)
    · exact absurd same (group.number_ne file hx)
    · exact group.own x y hx hy same
  case older =>
    rw [next]
    rintro x (rfl | hx)
    · rw [file.next, ← file.number]
      exact Nat.lt_succ_self _
    · exact before.older x hx
  case locks =>
    intro l
    rw [locks l, before.locks l]
    constructor
    · rintro (⟨primary, rfl⟩ | ⟨x, hx, primary, same⟩)
      · exact ⟨_, .inl rfl, primary, rfl⟩
      · exact ⟨x, .inr hx, primary, same⟩
    · rintro ⟨x, rfl | hx, primary, same⟩
      · exact .inl ⟨primary, same.symm⟩
      · exact .inr ⟨x, hx, primary, same⟩
  case single =>
    rintro x y (rfl | hx) (rfl | hy) px py
    · rfl
    · exact absurd py (alone px y hy)
    · exact absurd px (alone py x hx)
    · exact group.single x y hx hy px py
  case room =>
    rintro x (rfl | hx)
    · exact room
    · -- All have the file at the path.
      rw [← file.leads.unique (before.leads x hx)]
      exact room
  case sized =>
    rintro x (rfl | hx) primary
    · exact sized primary
    · cases role with
      | primary => exact absurd primary (alone rfl x hx)
      | secondary =>
        rw [FileStore.content, kept rfl]
        exact before.sized x hx primary

variable {timeout : Nat} {refusals : Refusals} {requested : RoleRequest} {store' : FileStore}

/-- Whatever an opening that succeeds ends in, its hold joins the group. -/
theorem joined_of_opening (group : Group path store live) {shared : SharedConfig}
    (opening : Opening store path timeout refusals requested (.ok shared) store') :
    Group path store' fun x => x = shared ∨ live x := by
  cases opening with
  | @created handle opened locks =>
    have file := locks.file
    have sound := file.sound group.sound
    have there := file.leads.lt_size sound
    have sized : ((FileStore.modify { opened with locks := handle :: opened.locks }
        handle.file started).content handle.file).size = Layout.regionSize := by
      rw [FileStore.content_modify, if_pos ⟨rfl, there⟩]
      exact FileContent.size_resize _ _
    exact group.joined file (sound.modify _ _) rfl rfl (by simp [FileStore.modify])
      (fun _ => locks.free) (Nat.le_of_eq sized.symm) (fun _ => sized) (by simp)
  | attached follows sized =>
    have file := follows.file
    exact group.joined file (file.sound group.sound) rfl rfl (by simp) (by simp) sized (by simp)
      fun _ => rfl

theorem new_of_opening (group : Group path store live) {shared : SharedConfig}
    (opening : Opening store path timeout refusals requested (.ok shared) store') :
    ¬live shared := by
  intro hx
  cases opening with
  | created locks => exact group.number_ne locks.file hx rfl
  | attached follows => exact group.number_ne follows.file hx rfl

/-- Giving the file its size does not matter to a group without a primary. -/
theorem resized (group : Group path store live) (file : Nat)
    (alone : ∀ x, live x → x.role ≠ .primary) :
    Group path (store.modify file (·.resize Layout.regionSize)) live where
  sound := group.sound.modify _ _
  leads x hx := (group.leads x hx).congr rfl
  own := group.own
  older := group.older
  locks := group.locks
  single := group.single
  room x hx := by
    rw [FileStore.content_modify]
    split
    · exact Nat.le_of_eq (FileContent.size_resize ..).symm
    · exact group.room x hx
  sized x hx primary := absurd primary (alone x hx)

/-- An opening that fails leaves the group alone. -/
theorem same_of_opening (group : Group path store live) {e : SharingError}
    (opening : Opening store path timeout refusals requested (.error e) store') :
    Group path store' live := by
  have closed {handle : FileHandle} {opened : FileStore} (file : store.Opened path handle opened) :
      Group path (opened.close handle) live := by
    rw [group.close_opened file]
    exact group.reopened file
  cases opening with
  | unreachable => exact group
  | unlockable file | refused file => exact closed file
  | unsizable locks => exact closed locks.file
  | unattached follows => exact closed follows.file
  | unmapped locks =>
    exact (closed locks.file).resized _ fun x hx primary =>
      locks.free ((group.locked_iff locks.file).2 ⟨x, hx, primary⟩)

/-- One hold less, and the lock with it if it was the primary's. -/
theorem closed (group : Group path store live) {x : SharedConfig} (hx : live x) :
    Group path (x.close store) fun y => live y ∧ y ≠ x where
  sound := group.sound
  leads y hy := (group.leads y hy.1).congr rfl
  own y z hy hz := group.own y z hy.1 hz.1
  older y hy := group.older y hy.1
  locks l := by
    show l ∈ store.locks.filter (· ≠ x.handle) ↔ _
    rw [List.mem_filter, group.locks l, decide_eq_true_iff]
    constructor
    · rintro ⟨⟨y, hy, primary, rfl⟩, other⟩
      refine ⟨y, ⟨hy, ?_⟩, primary, rfl⟩
      rintro rfl
      exact other rfl
    · rintro ⟨y, ⟨hy, other⟩, primary, rfl⟩
      refine ⟨⟨y, hy, primary, rfl⟩, fun same => other ?_⟩
      exact group.own y x hy hx (congrArg FileHandle.number same)
  single y z hy hz := group.single y z hy.1 hz.1
  room y hy := group.room y hy.1
  sized y hy := group.sized y hy.1

/-- What is in the file may change, but not its size. -/
theorem changed (group : Group path store live) {x : SharedConfig} {f : FileContent → FileContent}
    (same : ∀ c, (f c).size = c.size) : Group path (store.modify x.handle.file f) live := by
  have size (id : Nat) : ((store.modify x.handle.file f).content id).size
      = (store.content id).size := by
    rw [FileStore.content_modify]
    split
    · exact same _
    · rfl
  exact {
    sound := group.sound.modify _ _
    leads := fun y hy => (group.leads y hy).congr rfl
    own := group.own
    older := group.older
    locks := group.locks
    single := group.single
    room := fun y hy => (size _).symm ▸ group.room y hy
    sized := fun y hy primary => (size _).trans (group.sized y hy primary) }

end Group

end SharedConfig

end Passthrough
