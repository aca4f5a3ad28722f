import Passthrough.Proofs.Sharing.SingleWriter

/-!
# Passthrough — what a session goes back to

The steps of a session, read backwards: where a marker that is seen comes from, and where a hold that is
there comes from.

* `Session.Move.complete_before`, `Session.complete_run_iff` — a marker that is set was set before, or by
  a primary since.
* `Session.Move.mem_before`, `Session.mem_of_mem_run` — a hold that is there was there before, or was
  opened since; one that is gone never comes back.
-/

namespace Passthrough

open SharedConfig (Group Opening Marked)

/-! ## Files without a marker -/

namespace FileContent

/-- A change of the region through a mapping is what mappings show then. -/
theorem mapped_storeMapped {c : FileContent} {region : ByteArray} {n : Nat}
    (size : region.size = c.front.size) (room : n ≤ c.front.size) :
    (c.storeMapped region).mapped n = region := by
  have front : Packed.resize region c.front.size = region := if_pos size.symm
  unfold mapped storeMapped
  dsimp only
  rw [front, Nat.max_eq_right (by omega)]
  exact if_pos rfl

theorem size_mapped {c : FileContent} {n : Nat} (room : n ≤ c.front.size) :
    (c.mapped n).size = c.front.size := by
  rw [mapped, Packed.size_resize, Nat.max_eq_right room]

end FileContent

namespace SharedConfig

theorem not_marked_empty : ¬Marked .empty := by
  have blank : FileContent.empty.firstWord = Packed.word32At .empty 0 :=
    FileContent.firstWord_congr fun k hk => FileContent.byteAt_of_le (Nat.zero_le k)
  intro marked
  rw [Marked, blank] at marked
  exact absurd marked (by decide)

theorem size_started (c : FileContent) : (started c).size = Layout.regionSize :=
  c.size_resize Layout.regionSize

/-- What mappings show of a file in which a primary starts. -/
theorem mapped_started (c : FileContent) : (started c).mapped Layout.regionSize
    = Layout.cleared (Packed.put ((c.resize Layout.regionSize).mapped Layout.regionSize) 0
        (Wire.bytes32 0)) := by
  have room := FileContent.regionSize_le_front (c.size_resize Layout.regionSize)
  refine FileContent.mapped_storeMapped ?_ room
  unfold Layout.cleared
  dsimp only
  rw [Packed.size_put, Packed.size_put, Packed.size_put]
  exact FileContent.size_mapped room

/-- A primary starts without a marker, whatever was in the file. -/
theorem not_marked_started (c : FileContent) : ¬Marked (started c) := by
  have room := (c.resize Layout.regionSize).le_size_mapped Layout.regionSize
  have table : 4 ≤ Layout.regionSize := by decide
  have word : Packed.word32At (Packed.put ((c.resize Layout.regionSize).mapped Layout.regionSize) 0
      (Wire.bytes32 0)) 0 = 0 := by
    refine Packed.word32At_of_holds (Packed.holds_put ?_)
    rw [Wire.length_bytes32]
    omega
  have room' : Layout.regionSize ≤ (Packed.put ((c.resize Layout.regionSize).mapped
      Layout.regionSize) 0 (Wire.bytes32 0)).size := by
    rwa [Packed.size_put]
  have rest := (Layout.shows_cleared room').1
  have same := Packed.word32At_congr fun k (hk : k < 4) => rest.byteAt_eq (0 + k) (by omega)
  rw [Marked, FileContent.firstWord_eq (Nat.le_of_eq (size_started c).symm), mapped_started, same,
    word]
  decide

section Opening

variable {s s' : FileStore} {path : String} {timeout : Nat} {refusals : Refusals}
  {requested : RoleRequest}

/-- An opening that ends in a primary leads to a file in which the primary starts. -/
theorem Opening.started_of_primary {shared : SharedConfig}
    (opening : Opening s path timeout refusals requested (.ok shared) s') (sound : s.Sound)
    (primary : shared.role = .primary) :
    s'.Leads path shared.handle.file ∧ ∃ c, s'.content shared.handle.file = started c := by
  cases opening with
  | @created handle opened locks =>
    have there := locks.file.leads.lt_size (locks.file.sound sound)
    have content := FileStore.content_modify { opened with locks := handle :: opened.locks }
      handle.file started handle.file
    rw [if_pos ⟨rfl, there⟩] at content
    exact ⟨locks.file.leads.congr rfl, _, content⟩
  | attached => cases primary

/-- After an opening that does not end in a primary, a marker that is seen was there before. -/
theorem Opening.marked_before {result : Except SharingError SharedConfig}
    (opening : Opening s path timeout refusals requested result s')
    (other : ∀ shared, result = .ok shared → shared.role ≠ .primary) {id : Nat}
    (leads : s'.Leads path id) (marked : Marked (s'.content id)) :
    s.Leads path id ∧ Marked (s.content id) := by
  have opened {handle : FileHandle} {opened : FileStore} (file : s.Opened path handle opened)
      (leads : opened.Leads path id) (marked : Marked (opened.content id)) :
      s.Leads path id ∧ Marked (s.content id) := by
    obtain rfl := leads.unique file.leads
    rcases file.made with known | made
    · rw [(file.known _ known).2] at marked
      exact ⟨known, marked⟩
    · -- A file that was made for the opening has no byte, and so no marker.
      rw [made] at marked
      exact absurd marked not_marked_empty
  cases opening with
  | unreachable => exact ⟨leads, marked⟩
  | created => exact absurd rfl (other _ rfl)
  | unlockable file | refused file => exact opened file (leads.congr rfl) marked
  | unsizable locks => exact opened locks.file (leads.congr rfl) marked
  | unattached follows => exact opened follows.file (leads.congr rfl) marked
  | attached follows => exact opened follows.file leads marked
  | unmapped locks =>
    refine opened locks.file (leads.congr rfl) ?_
    rw [FileStore.content_modify] at marked
    split at marked
    · exact (marked_resize_iff _).1 marked
    · exact marked

end Opening

end SharedConfig

namespace Session

variable {path : String} {s s' : Session} {action : SessionAction} {outcome : SessionOutcome}

theorem run_append (s : Session) (path : String) (before after : List SessionAction) :
    s.run path (before ++ after) = (s.run path before).run path after := by
  induction before generalizing s with
  | nil => rfl
  | cons action before ih => exact ih (s.step path action).2

/-! ## Where a marker comes from -/

/-- A marker that is seen after a step was there before and nobody became the primary, or the step is that
of a primary that marks the file. -/
theorem Move.complete_before (move : Move path s action outcome s') (orderly : Orderly path s)
    (complete : Complete path s') :
    (Complete path s ∧ outcome ≠ .opened (.ok .primary))
      ∨ ∃ name x, action = .markComplete name ∧ s.hold? name = some x ∧ x.role = .primary := by
  obtain ⟨id, leads, marked⟩ := complete
  cases move with
  | failed log opening =>
    have before := opening.marked_before (by simp) leads marked
    exact .inl ⟨⟨id, before⟩, by simp⟩
  | @opened name requested timeout refusals shared store log opening =>
    have same := store_close ({ s with store, log } : Session) name
    have leads : store.Leads path id := leads.congr same.1.symm
    have marked : Marked ((Session.close _ name).2.store.content id) := marked
    rw [content_close] at marked
    cases role : shared.role with
    | primary =>
      -- The new primary has cleared the marker.
      obtain ⟨there, c, content⟩ := opening.started_of_primary orderly.group.sound role
      rw [leads.unique there, content] at marked
      exact absurd marked (SharedConfig.not_marked_started c)
    | secondary =>
      have before := opening.marked_before (by
        rintro x ⟨⟩
        simp [role]) leads marked
      exact .inl ⟨⟨id, before⟩, by simp⟩
  | published result held primary =>
    have leads : s.store.Leads path id := leads.congr rfl
    obtain rfl := leads.unique (orderly.leads held)
    rw [orderly.content_modify held] at marked
    have before := (SharedConfig.marked_publish_iff (orderly.sized held primary) _).1 marked
    exact .inl ⟨⟨_, leads, before⟩, by simp⟩
  | marked held primary => exact .inr ⟨_, _, rfl, held, primary⟩
  | closed name =>
    rw [content_close] at marked
    exact .inl ⟨⟨id, leads.congr (s.store_close name).1.symm, marked⟩, by simp⟩
  | idle _ _ quiet => exact .inl ⟨⟨id, leads, marked⟩, quiet _⟩

/-- A primary has marked the file, and nobody became the primary after that. -/
def MarkedBy (path : String) (s : Session) (actions : List SessionAction) (x : SharedConfig) : Prop :=
  ∃ before name after, actions = before ++ .markComplete name :: after
    ∧ (s.run path before).hold? name = some x ∧ x.role = .primary
    ∧ .opened (.ok .primary)
      ∉ ((s.run path before).step path (.markComplete name)).2.outcomes path after

/-- **Where a marker comes from.**  It was there at the start and nobody became the primary since, or a
primary has set it and nobody became the primary after that. -/
theorem complete_run_iff (orderly : Orderly path s) (actions : List SessionAction) :
    Complete path (s.run path actions) ↔
      (Complete path s ∧ .opened (.ok .primary) ∉ s.outcomes path actions)
        ∨ ∃ x, MarkedBy path s actions x := by
  constructor
  · intro complete
    induction actions generalizing s with
    | nil => exact .inl ⟨complete, List.not_mem_nil⟩
    | cons action actions ih =>
      have move := move_of_step path s action
      rcases ih (move.orderly orderly) complete with ⟨before, others⟩ | ⟨x, marked⟩
      · rcases move.complete_before orderly before with ⟨old, other⟩ | ⟨name, x, rfl, held, primary⟩
        · refine .inl ⟨old, ?_⟩
          rw [outcomes, List.mem_cons, not_or]
          exact ⟨other.symm, others⟩
        · exact .inr ⟨x, [], name, actions, rfl, held, primary, others⟩
      · obtain ⟨before, name, after, rfl, held, primary, others⟩ := marked
        exact .inr ⟨x, action :: before, name, after, rfl, held, primary, others⟩
  · rintro (⟨complete, others⟩ | ⟨x, before, name, after, rfl, held, primary, others⟩)
    · exact complete_run orderly complete others
    · have orderly' := orderly_run orderly before
      have complete := orderly'.complete_of_markComplete held primary
      have later := (move_of_step path _ (.markComplete name)).orderly orderly'
      rw [run_append]
      exact complete_run later complete others

/-! ## Where a hold comes from -/

theorem mem_of_mem_close {name : String} {a : String × SharedConfig}
    (there : a ∈ (s.close name).2.holds) : a ∈ s.holds := by
  unfold Session.close at there
  split at there
  · exact there
  · exact (List.mem_filter.1 there).1

/-- A hold that is there after a step was there before, or the step has opened it, under a new number. -/
theorem Move.mem_before (move : Move path s action outcome s') {a : String × SharedConfig}
    (there : a ∈ s'.holds) : a ∈ s.holds
      ∨ outcome = .opened (.ok a.2.role) ∧ a.2.handle.number = s.store.nextHandle := by
  cases move with
  | failed | published | marked | idle => exact .inl there
  | closed name => exact .inl (mem_of_mem_close there)
  | @opened name requested timeout refusals shared store log opening =>
    rcases List.mem_cons.1 there with rfl | there
    · refine .inr ⟨rfl, ?_⟩
      cases opening with
      | created locks => exact locks.file.number
      | attached follows => exact follows.file.number
    · have before : a ∈ ({ s with store, log } : Session).holds := mem_of_mem_close there
      exact .inl before

/-- What an opening that succeeds does to the session. -/
theorem replace_of_step {name : String} {requested : RoleRequest} {timeout : Nat}
    {refusals : Refusals} {role : Role}
    (h : s.step path (.openAs name requested timeout refusals) = (.opened (.ok role), s')) :
    ∃ x store log, x.role = role ∧ Opening s.store path timeout refusals requested (.ok x) store
      ∧ s' = ({ s with store, log } : Session).replace name x := by
  have move := move_of_step path s (.openAs name requested timeout refusals)
  rw [h] at move
  cases move with
  | @opened _ _ _ _ x store log opening => exact ⟨x, store, log, rfl, opening, rfl⟩
  | idle _ _ quiet => exact absurd rfl (quiet _)

theorem nextHandle_close (s : Session) (name : String) :
    (s.close name).2.store.nextHandle = s.store.nextHandle := by
  unfold Session.close
  split <;> rfl

/-- Numbers of handles are used once. -/
theorem Move.nextHandle_le (move : Move path s action outcome s') :
    s.store.nextHandle ≤ s'.store.nextHandle := by
  have opening {requested : RoleRequest} {timeout : Nat} {refusals : Refusals}
      {result : Except SharingError SharedConfig} {store : FileStore}
      (opening : Opening s.store path timeout refusals requested result store) :
      s.store.nextHandle ≤ store.nextHandle := by
    rcases opening.opened with rfl | ⟨handle, opened, file, -, next⟩
    · exact Nat.le_refl _
    · rw [next, file.next]
      exact Nat.le_succ _
  cases move with
  | failed log opened => exact opening opened
  | @opened name requested timeout refusals shared store log opened =>
    show _ ≤ (Session.close _ name).2.store.nextHandle
    rw [nextHandle_close]
    exact opening opened
  | published | marked | idle => exact Nat.le_refl _
  | closed name => exact Nat.le_of_eq (s.nextHandle_close name).symm

/-- A hold that is there after a run was there before it, or was opened in it. -/
theorem opened_of_mem_run {actions : List SessionAction} {a : String × SharedConfig}
    (there : a ∈ (s.run path actions).holds) :
    a ∈ s.holds ∨ .opened (.ok a.2.role) ∈ s.outcomes path actions := by
  induction actions generalizing s with
  | nil => exact .inl there
  | cons action actions ih =>
    rw [outcomes, List.mem_cons]
    rcases ih there with before | opened
    · rcases (move_of_step path s action).mem_before before with before | ⟨opened, -⟩
      · exact .inl before
      · exact .inr (.inl opened.symm)
    · exact .inr (.inr opened)

/-- A hold that was closed does not come back. -/
theorem mem_of_mem_run {actions : List SessionAction} {a : String × SharedConfig}
    (older : a.2.handle.number < s.store.nextHandle) (there : a ∈ (s.run path actions).holds) :
    a ∈ s.holds := by
  induction actions generalizing s with
  | nil => exact there
  | cons action actions ih =>
    have move := move_of_step path s action
    have before := ih (Nat.lt_of_lt_of_le older move.nextHandle_le) there
    rcases move.mem_before before with before | ⟨-, new⟩
    · exact before
    · omega

end Session

end Passthrough
