import Passthrough.Proofs.Sharing.Marker
import Passthrough.Proofs.Sharing.Opening
import Passthrough.Sharing.Run

/-!
# Passthrough — one writer at a time

`Session.Move` lists the ways in which a session can take an action, and `Session.Orderly` is what all
of them keep: the holds of the session are a group on the file (`SharedConfig.Group`), each under one
name.

* `Session.move_of_step` — every step is a move.
* `Session.orderly_run` — a session that starts without holds is in order after any run.
* `Session.Move.complete`, `Session.complete_run` — a marker that is set stays set.
* `Session.single_writer` — who becomes the primary, and what only the primary does.
-/

namespace Passthrough

open SharedConfig (Group Opening Marked)

namespace Session

/-- The hold is live. -/
def Live (s : Session) (x : SharedConfig) : Prop := ∃ name, (name, x) ∈ s.holds

/-- The session with one hold more under a name, in place of the one that was there. -/
def replace (s : Session) (name : String) (shared : SharedConfig) : Session :=
  { (s.close name).2 with holds := (name, shared) :: (s.close name).2.holds }

/-- The ways in which a session can take an action. -/
inductive Move (path : String) (s : Session) :
    SessionAction → SessionOutcome → Session → Prop where
  | failed {name : String} {requested : RoleRequest} {timeout : Nat} {refusals : Refusals}
      {e : SharingError} {store : FileStore} (log : List Message)
      (opening : Opening s.store path timeout refusals requested (.error e) store) :
      Move path s (.openAs name requested timeout refusals) (.opened (.error e))
        { s with store, log }
  | opened {name : String} {requested : RoleRequest} {timeout : Nat} {refusals : Refusals}
      {shared : SharedConfig} {store : FileStore} (log : List Message)
      (opening : Opening s.store path timeout refusals requested (.ok shared) store) :
      Move path s (.openAs name requested timeout refusals) (.opened (.ok shared.role))
        (({ s with store, log } : Session).replace name shared)
  /-- A table that could not be written to the end is in the file as far as it was. -/
  | published {name : String} {c : MemConfig} {shared : SharedConfig}
      (result : Except SharingError Unit) (held : s.hold? name = some shared)
      (primary : shared.role = .primary) :
      Move path s (.publish name c) (.changed (some result))
        { s with store := s.store.modify shared.handle.file (·.storeMapped
          (Layout.overwrite (SharedConfig.region s.store shared.handle) c).2) }
  | marked {name : String} {shared : SharedConfig} (held : s.hold? name = some shared)
      (primary : shared.role = .primary) :
      Move path s (.markComplete name) (.changed (some (.ok ())))
        { s with store := s.store.modify shared.handle.file (·.storeMapped
          (Packed.put (SharedConfig.region s.store shared.handle) 0
            (Wire.bytes32 SharedConfig.marker))) }
  | closed (name : String) : Move path s (.close name) (.closed (s.close name).1) (s.close name).2
  /-- Nothing happens, and what is answered is not that something was opened. -/
  | idle (action : SessionAction) (outcome : SessionOutcome)
      (quiet : ∀ result, outcome ≠ .opened result) : Move path s action outcome s

section Change

variable {s : Session} {name : String} {shared : SharedConfig}
  {f : SharedConfig → FileStore → Except SharingError Unit × FileStore}

theorem change_of_none (free : s.hold? name = none) : s.change name f = (none, s) := by
  simp only [change, free]

theorem change_of_held (held : s.hold? name = some shared) :
    s.change name f = (some (f shared s.store).1, { s with store := (f shared s.store).2 }) := by
  simp only [change, held]

end Change

theorem move_of_step (path : String) (s : Session) (action : SessionAction) :
    Move path s action (s.step path action).1 (s.step path action).2 := by
  cases action with
  | openAs name requested timeout refusals =>
    have opening := SharedConfig.opening_of_openAs s.store path requested timeout refusals
    unfold step openAs
    dsimp only
    generalize SharedConfig.openAs s.store path requested timeout refusals = answer at opening
    obtain ⟨result, store, log⟩ := answer
    cases result with
    | error e => exact .failed _ opening
    | ok shared => exact .opened _ opening
  | publish name c =>
    unfold step
    dsimp only
    cases held : s.hold? name with
    | none =>
      rw [change_of_none held]
      exact .idle _ _ (by simp)
    | some shared =>
      rw [change_of_held held]
      cases role : shared.role with
      | primary =>
        rw [SharedConfig.publish_of_primary s.store c role]
        exact .published _ held role
      | secondary =>
        rw [SharedConfig.publish_of_secondary s.store c role]
        exact .idle _ _ (by simp)
  | markComplete name =>
    unfold step
    dsimp only
    cases held : s.hold? name with
    | none =>
      rw [change_of_none held]
      exact .idle _ _ (by simp)
    | some shared =>
      rw [change_of_held held]
      cases role : shared.role with
      | primary =>
        rw [SharedConfig.markComplete_of_primary s.store role]
        exact .marked held role
      | secondary =>
        rw [SharedConfig.markComplete_of_secondary s.store role]
        exact .idle _ _ (by simp)
  | isComplete name | wait name timeout | load name => exact .idle _ _ (by simp [step])
  | close name => exact .closed name

/-! ## Sessions in order -/

/-- Every hold is listed once, under a name of its own. -/
structure Listed (holds : List (String × SharedConfig)) : Prop where
  named : ∀ a ∈ holds, ∀ b ∈ holds, a.1 = b.1 → a = b
  once : ∀ a ∈ holds, ∀ b ∈ holds, a.2 = b.2 → a = b

/-- The holds are a group, and listed in order. -/
structure Orderly (path : String) (s : Session) : Prop where
  group : Group path s.store s.Live
  listed : Listed s.holds

variable {path : String} {s s' : Session} {action : SessionAction} {outcome : SessionOutcome}

theorem mem_of_hold? {name : String} {shared : SharedConfig} (held : s.hold? name = some shared) :
    (name, shared) ∈ s.holds := by
  obtain ⟨⟨name', shared'⟩, found, same⟩ := Option.map_eq_some_iff.1 held
  have passed := List.find?_some found
  have named : name' = name := of_decide_eq_true passed
  rw [← named, ← same]
  exact List.mem_of_find?_eq_some found

theorem ne_of_hold?_eq_none {name : String} (held : s.hold? name = none) :
    ∀ a ∈ s.holds, a.1 ≠ name := by
  intro a there same
  have none := List.find?_eq_none.1 (Option.map_eq_none_iff.1 held) a there
  exact none (decide_eq_true same)

theorem exists_mem_cons_iff {holds : List (String × SharedConfig)} {name : String}
    {shared x : SharedConfig} :
    (∃ n, (n, x) ∈ (name, shared) :: holds) ↔ x = shared ∨ ∃ n, (n, x) ∈ holds := by
  simp only [List.mem_cons, Prod.mk.injEq]
  constructor
  · rintro ⟨n, ⟨-, same⟩ | there⟩
    · exact .inl same
    · exact .inr ⟨n, there⟩
  · rintro (same | ⟨n, there⟩)
    · exact ⟨name, .inl ⟨rfl, same⟩⟩
    · exact ⟨n, .inr there⟩

namespace Listed

variable {holds : List (String × SharedConfig)}

theorem filter (listed : Listed holds) (p : String × SharedConfig → Bool) :
    Listed (holds.filter p) where
  named a ha b hb := listed.named a (List.mem_filter.1 ha).1 b (List.mem_filter.1 hb).1
  once a ha b hb := listed.once a (List.mem_filter.1 ha).1 b (List.mem_filter.1 hb).1

theorem cons (listed : Listed holds) {name : String} {shared : SharedConfig}
    (unnamed : ∀ a ∈ holds, a.1 ≠ name) (new : ∀ a ∈ holds, a.2 ≠ shared) :
    Listed ((name, shared) :: holds) where
  named a ha b hb same := by
    rcases List.mem_cons.1 ha with rfl | ha <;> rcases List.mem_cons.1 hb with rfl | hb
    · rfl
    · exact absurd same.symm (unnamed b hb)
    · exact absurd same (unnamed a ha)
    · exact listed.named a ha b hb same
  once a ha b hb same := by
    rcases List.mem_cons.1 ha with rfl | ha <;> rcases List.mem_cons.1 hb with rfl | hb
    · rfl
    · exact absurd same.symm (new b hb)
    · exact absurd same (new a ha)
    · exact listed.once a ha b hb same

/-- Without one name, all holds are left but the one under it. -/
theorem mem_filter_iff (listed : Listed holds) {name : String} {old : SharedConfig}
    (there : (name, old) ∈ holds) (x : SharedConfig) :
    (∃ n, (n, x) ∈ holds.filter fun h => h.1 ≠ name) ↔ (∃ n, (n, x) ∈ holds) ∧ x ≠ old := by
  simp only [List.mem_filter, decide_eq_true_iff]
  constructor
  · rintro ⟨n, hx, other⟩
    refine ⟨⟨n, hx⟩, ?_⟩
    rintro rfl
    exact other (congrArg Prod.fst (listed.once _ hx _ there rfl))
  · rintro ⟨⟨n, hx⟩, other⟩
    refine ⟨n, hx, fun same => other ?_⟩
    exact congrArg Prod.snd (listed.named _ hx _ there same)

end Listed

theorem Orderly.start {store : FileStore} (sound : store.Sound) (unlocked : store.locks = []) :
    Orderly path (start store) where
  group := (Group.start sound unlocked).congr fun x => by simp [Live, Session.start]
  listed := ⟨by simp [Session.start], by simp [Session.start]⟩

theorem Orderly.close (orderly : Orderly path s) (name : String) :
    Orderly path (s.close name).2 := by
  unfold Session.close
  cases held : s.hold? name with
  | none => exact orderly
  | some old =>
    have there := mem_of_hold? held
    have group := orderly.group.closed ⟨name, there⟩
    exact ⟨group.congr fun x => (orderly.listed.mem_filter_iff there x).symm, orderly.listed.filter _⟩

/-- A hold that joins takes the place of the one under its name. -/
theorem orderly_replace {name : String} {shared : SharedConfig}
    (group : Group path s.store fun x => x = shared ∨ s.Live x) (listed : Listed s.holds)
    (new : ¬s.Live shared) : Orderly path (s.replace name shared) := by
  have new : ∀ a ∈ s.holds, a.2 ≠ shared := by
    rintro ⟨n, x⟩ there rfl
    exact new ⟨n, there⟩
  unfold replace Session.close
  cases held : s.hold? name with
  | none =>
    refine ⟨group.congr fun x => ?_, listed.cons (ne_of_hold?_eq_none held) new⟩
    exact exists_mem_cons_iff.symm
  | some old =>
    -- The old hold is closed when the new one has joined, so it is not the new one.
    have there := mem_of_hold? held
    have other : shared ≠ old := (new _ there).symm
    have closed := group.closed (x := old) (.inr ⟨name, there⟩)
    refine ⟨closed.congr fun x => ?_, (listed.filter _).cons (by simp) ?_⟩
    · have left := listed.mem_filter_iff there x
      refine Iff.trans ?_ exists_mem_cons_iff.symm
      rw [left]
      constructor
      · rintro ⟨rfl | live, old⟩
        · exact .inl rfl
        · exact .inr ⟨live, old⟩
      · rintro (rfl | ⟨live, old⟩)
        · exact ⟨.inl rfl, other⟩
        · exact ⟨.inr live, old⟩
    · intro a ha
      exact new a (List.mem_filter.1 ha).1

theorem Move.orderly (move : Move path s action outcome s') (orderly : Orderly path s) :
    Orderly path s' := by
  cases move with
  | failed log opening => exact ⟨orderly.group.same_of_opening opening, orderly.listed⟩
  | opened log opening =>
    exact orderly_replace (orderly.group.joined_of_opening opening) orderly.listed
      (orderly.group.new_of_opening opening)
  | published | marked =>
    exact ⟨orderly.group.changed fun _ => rfl, orderly.listed⟩
  | closed name => exact orderly.close name
  | idle => exact orderly

theorem orderly_run (orderly : Orderly path s) (actions : List SessionAction) :
    Orderly path (s.run path actions) := by
  induction actions generalizing s with
  | nil => exact orderly
  | cons action actions ih => exact ih ((move_of_step path s action).orderly orderly)

/-! ## What a session does to files -/

theorem store_close (s : Session) (name : String) :
    (s.close name).2.store.nodes = s.store.nodes
      ∧ (s.close name).2.store.contents = s.store.contents := by
  unfold Session.close
  split <;> exact ⟨rfl, rfl⟩

theorem content_close (s : Session) (name : String) (id : Nat) :
    (s.close name).2.store.content id = s.store.content id := by
  unfold FileStore.content
  rw [(s.store_close name).2]

/-- A primary is live. -/
def Elected (s : Session) : Prop := ∃ x, s.Live x ∧ x.role = .primary

/-- The action is an opening that was granted the lock and refused the mapping, and it does to a file with
the first content what leads to the second: it gives it the size of a region, with zeros behind its end. -/
structure Unmapped (path : String) (s : Session) (action : SessionAction) (outcome : SessionOutcome)
    (content content' : FileContent) : Prop where
  opening : ∃ name requested timeout refusals reason,
    action = .openAs name requested timeout refusals ∧ requested ≠ .secondary
      ∧ refusals.mapping = some reason ∧ outcome = .opened (.error (.map path reason))
  free : ¬s.Elected
  size : content'.size = Layout.regionSize
  kept : ∀ k, content'.byteAt k = if k < Layout.regionSize then content.byteAt k else 0

/-- **Only primaries write.**  A file that was there is changed by an opening that has the lock, so that it
ends in a primary unless it is refused the mapping, and by what a primary does, and by nothing else. -/
theorem Move.writer (move : Move path s action outcome s') (orderly : Orderly path s) {id : Nat}
    (there : id < s.store.contents.size) (changed : s'.store.content id ≠ s.store.content id) :
    outcome = .opened (.ok .primary)
      ∨ (∃ name shared, s.hold? name = some shared ∧ shared.role = .primary
        ∧ (action = .markComplete name ∨ ∃ c, action = .publish name c))
      ∨ Unmapped path s action outcome (s.store.content id) (s'.store.content id) := by
  cases move with
  | failed log opening =>
    rcases opening.content_cases there with same | ⟨x, created, -⟩
      | ⟨handle, opened, reason, locks, refused, denied, resized⟩
    · exact absurd same changed
    · cases created
    · cases denied
      -- The file is resized before it is mapped, so that is all that is left of the opening.
      refine .inr (.inr ⟨⟨_, _, _, _, reason, rfl, locks.wanted, refused, rfl⟩, ?_, ?_, ?_⟩)
      · exact fun elected => locks.free ((orderly.group.locked_iff locks.file).2 elected)
      · exact (congrArg FileContent.size resized).trans (FileContent.size_resize ..)
      · intro k
        rw [← FileContent.byteAt_resize]
        exact congrArg (FileContent.byteAt · k) resized
  | @opened name requested timeout refusals shared store log opening =>
    rcases opening.content_cases there with same | ⟨x, created, primary⟩
      | ⟨_, _, _, _, _, denied, _⟩
    · refine absurd ?_ changed
      rw [← same]
      exact content_close _ name id
    · cases created
      exact .inl (by rw [primary])
    · cases denied
  | published result held primary => exact .inr (.inl ⟨_, _, held, primary, .inr ⟨_, rfl⟩⟩)
  | marked held primary => exact .inr (.inl ⟨_, _, held, primary, .inl rfl⟩)
  | closed name => exact absurd (content_close s name id) changed
  | idle => exact absurd rfl changed

/-! ## The marker -/

/-- The file at the path has its marker set. -/
def Complete (path : String) (s : Session) : Prop :=
  ∃ id, s.store.Leads path id ∧ Marked (s.store.content id)

theorem Orderly.leads (orderly : Orderly path s) {name : String} {shared : SharedConfig}
    (held : s.hold? name = some shared) : s.store.Leads path shared.handle.file :=
  orderly.group.leads shared ⟨name, mem_of_hold? held⟩

theorem Orderly.content_modify (orderly : Orderly path s) {name : String} {shared : SharedConfig}
    (held : s.hold? name = some shared) (f : FileContent → FileContent) :
    (s.store.modify shared.handle.file f).content shared.handle.file
      = f (s.store.content shared.handle.file) := by
  have there := (orderly.leads held).lt_size orderly.group.sound
  rw [FileStore.content_modify, if_pos ⟨rfl, there⟩]

theorem Orderly.room (orderly : Orderly path s) {name : String} {shared : SharedConfig}
    (there : (name, shared) ∈ s.holds) :
    Layout.regionSize ≤ (s.store.content shared.handle.file).size :=
  orderly.group.room shared ⟨name, there⟩

theorem Orderly.sized (orderly : Orderly path s) {name : String} {shared : SharedConfig}
    (held : s.hold? name = some shared) (primary : shared.role = .primary) :
    (s.store.content shared.handle.file).size = Layout.regionSize :=
  orderly.group.sized shared ⟨name, mem_of_hold? held⟩ primary

/-- A marker that is set stays set until somebody becomes the primary. -/
theorem Move.complete (move : Move path s action outcome s') (orderly : Orderly path s)
    (complete : Complete path s) (other : outcome ≠ .opened (.ok .primary)) : Complete path s' := by
  obtain ⟨id, leads, marked⟩ := complete
  have there := leads.lt_size orderly.group.sound
  cases move with
  | failed log opening =>
    refine ⟨id, opening.leads leads, ?_⟩
    rcases opening.content_cases there with same | ⟨x, created, -⟩ | ⟨_, _, _, _, _, _, resized⟩
    · rwa [same]
    · cases created
    · rw [resized]
      exact (SharedConfig.marked_resize_iff _).2 marked
  | @opened name requested timeout refusals shared store log opening =>
    refine ⟨id, (opening.leads leads).congr (store_close _ name).1, ?_⟩
    show Marked ((Session.close _ name).2.store.content id)
    rw [content_close]
    rcases opening.content_cases there with same | ⟨x, created, primary⟩
      | ⟨_, _, _, _, _, denied, _⟩
    · rwa [← same] at marked
    · cases created
      exact absurd (by rw [primary]) other
    · cases denied
  | published result held primary =>
    -- The path leads to one file, so the primary's file is the one with the marker.
    obtain rfl := leads.unique (orderly.leads held)
    refine ⟨_, leads.congr rfl, ?_⟩
    rw [orderly.content_modify held]
    exact (SharedConfig.marked_publish_iff (orderly.sized held primary) _).2 marked
  | marked held primary =>
    obtain rfl := leads.unique (orderly.leads held)
    refine ⟨_, leads.congr rfl, ?_⟩
    rw [orderly.content_modify held]
    exact SharedConfig.marked_of_markComplete (orderly.sized held primary)
  | closed name =>
    refine ⟨id, leads.congr (s.store_close name).1, ?_⟩
    rwa [content_close]
  | idle => exact ⟨id, leads, marked⟩

theorem complete_run (orderly : Orderly path s) (complete : Complete path s)
    {actions : List SessionAction}
    (others : SessionOutcome.opened (.ok .primary) ∉ s.outcomes path actions) :
    Complete path (s.run path actions) := by
  induction actions generalizing s with
  | nil => exact complete
  | cons action actions ih =>
    have move := move_of_step path s action
    rw [outcomes, List.mem_cons, not_or] at others
    exact ih (move.orderly orderly) (move.complete orderly complete (Ne.symm others.1)) others.2

theorem Orderly.isComplete (orderly : Orderly path s) (complete : Complete path s) :
    ∀ a ∈ s.holds, a.2.isComplete s.store = true := by
  rintro ⟨name, shared⟩ there
  obtain ⟨id, leads, marked⟩ := complete
  have same := leads.unique (orderly.group.leads shared ⟨name, there⟩)
  rw [SharedConfig.isComplete_iff (orderly.room there), ← same]
  exact marked

theorem Orderly.complete_of_markComplete (orderly : Orderly path s) {name : String}
    {shared : SharedConfig} (held : s.hold? name = some shared) (primary : shared.role = .primary) :
    Complete path (s.step path (.markComplete name)).2 := by
  unfold step
  dsimp only
  rw [change_of_held held, SharedConfig.markComplete_of_primary s.store primary]
  refine ⟨shared.handle.file, (orderly.leads held).congr rfl, ?_⟩
  show Marked ((s.store.modify shared.handle.file _).content shared.handle.file)
  rw [orderly.content_modify held]
  exact SharedConfig.marked_of_markComplete (orderly.sized held primary)

/-! ## The election -/

section Election

variable {name : String} {requested : RoleRequest} {timeout : Nat} {refusals : Refusals} {role : Role}

/-- An opening that succeeds ends in a hold with the role that is answered. -/
theorem opening_of_step
    (h : s.step path (.openAs name requested timeout refusals) = (.opened (.ok role), s')) :
    ∃ shared store, shared.role = role
      ∧ Opening s.store path timeout refusals requested (.ok shared) store := by
  have move := move_of_step path s (.openAs name requested timeout refusals)
  rw [h] at move
  cases move with
  | @opened _ _ _ _ shared store log opening => exact ⟨shared, store, rfl, opening⟩
  | idle _ _ quiet => exact absurd rfl (quiet _)

theorem Orderly.role_of_auto (orderly : Orderly path s)
    (h : s.step path (.openAs name .auto timeout refusals) = (.opened (.ok role), s')) :
    role = .primary ↔ ¬s.Elected := by
  obtain ⟨shared, store, rfl, opening⟩ := opening_of_step h
  cases opening with
  | created locks =>
    exact iff_of_true rfl fun elected =>
      locks.free ((orderly.group.locked_iff locks.file).2 elected)
  | attached follows =>
    have elected := (orderly.group.locked_iff follows.file).1 (follows.taken rfl)
    exact iff_of_false (by simp) (not_not_intro elected)

theorem role_of_secondary
    (h : s.step path (.openAs name .secondary timeout refusals) = (.opened (.ok role), s')) :
    role = .secondary := by
  obtain ⟨shared, store, rfl, opening⟩ := opening_of_step h
  cases opening with
  | created locks => exact absurd rfl locks.wanted
  | attached => rfl

/-- Who has to be the primary and finds one fails, and all that is left of the attempt is that a handle may
have been used up. -/
theorem Orderly.refused (orderly : Orderly path s) (elected : s.Elected) (name : String)
    (timeout : Nat) (refusals : Refusals) :
    ∃ e next log, s.step path (.openAs name .primary timeout refusals) = (.opened (.error e),
        { s with store := { s.store with nextHandle := next }, log })
      ∧ (refusals.opening = none → refusals.locking = none → e = .primaryRunning path) := by
  obtain ⟨x, live, primary⟩ := elected
  have leads := orderly.group.leads x live
  have opening := SharedConfig.opening_of_openAs s.store path .primary timeout refusals
  unfold step openAs
  dsimp only
  generalize SharedConfig.openAs s.store path .primary timeout refusals = answer at opening
  obtain ⟨result, store, log⟩ := answer
  dsimp only at opening ⊢
  cases opening with
  | unreachable failed =>
    refine ⟨_, s.store.nextHandle, _, rfl, fun granted _ => ?_⟩
    obtain ⟨result, opened⟩ := FileStore.exists_openFile_of_leads leads
    rw [opened, granted] at failed
    rcases failed with refused | failed
    · cases refused
    · cases failed
  | unlockable file refused =>
    rw [orderly.group.close_opened file, (file.known _ leads).2]
    refine ⟨_, _, _, rfl, fun _ granted => ?_⟩
    rw [granted] at refused
    cases refused
  | refused file =>
    rw [orderly.group.close_opened file, (file.known _ leads).2]
    exact ⟨_, _, _, rfl, fun _ _ => rfl⟩
  | unsizable locks | unmapped locks | created locks =>
    -- These have the lock, which the live primary keeps.
    exact absurd ((orderly.group.locked_iff locks.file).2 ⟨x, live, primary⟩) locks.free
  | unattached follows | attached follows => exact absurd rfl follows.other

theorem Orderly.refused_iff (orderly : Orderly path s) (name : String) (timeout : Nat)
    (refusals : Refusals) :
    (s.step path (.openAs name .primary timeout refusals)).1
        = .opened (.error (.primaryRunning path))
      ↔ s.Elected ∧ refusals.opening = none ∧ refusals.locking = none := by
  constructor
  · intro h
    have move := move_of_step path s (.openAs name .primary timeout refusals)
    rw [h] at move
    generalize (s.step path (.openAs name .primary timeout refusals)).2 = s' at move
    cases move with
    | failed log opening =>
      cases opening with
      | refused file granted wanted taken =>
        exact ⟨(orderly.group.locked_iff file).1 taken, granted⟩
      | unattached follows => exact absurd rfl follows.other
    | idle _ _ quiet => exact absurd rfl (quiet _)
  · rintro ⟨elected, opening, locking⟩
    obtain ⟨e, next, log, h, running⟩ := orderly.refused elected name timeout refusals
    rw [h, running opening locking]

end Election

/-- A secondary may neither publish nor mark. -/
theorem not_primary {name : String} {shared : SharedConfig} (held : s.hold? name = some shared)
    (secondary : shared.role = .secondary) :
    (∀ c, s.step path (.publish name c) = (.changed (some (.error .notPrimary)), s))
      ∧ s.step path (.markComplete name) = (.changed (some (.error .notPrimary)), s) := by
  constructor
  · intro c
    unfold step
    dsimp only
    rw [change_of_held held, SharedConfig.publish_of_secondary s.store c secondary]
  · unfold step
    dsimp only
    rw [change_of_held held, SharedConfig.markComplete_of_secondary s.store secondary]

/-- Two processes open a file, one after the other, and nothing is refused. -/
def bothOpen (first second : RoleRequest) : List SessionAction :=
  [.openAs "a" first 0 .nothing, .openAs "b" second 0 .nothing]

end Session

end Passthrough
