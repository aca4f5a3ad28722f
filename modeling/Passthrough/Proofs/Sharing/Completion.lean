import Passthrough.Proofs.Segments.Attainable
import Passthrough.Proofs.Sharing.Publication

/-!
# Passthrough — what a primary lets others see

While a primary is there nobody else writes.  Two facts about the file follow every step of a session then:
whether the marker is set, and of which configuration the table is.

```text
 opening      ──▶ no marker, a table without lists
 publish c    ──▶ the marker as it was, the table of c
 markComplete ──▶ the marker, the table as it was
 all else     ──▶ both as they were
```

* `Session.Orderly.complete_step_iff`, `Session.Orderly.offers_step` — one step.
* `Session.Orderly.complete_reign_iff`, `Session.Orderly.offers_reign` — all steps that the primary lives
  to see.
* `Session.completion_shows_last_published` — what everybody sees and reads.
-/

namespace Passthrough

open SharedConfig (Marked)

namespace SessionAction

/-- The configuration that is published under the name. -/
def published? (name : String) : SessionAction → Option MemConfig
  | .publish n c => if n = name then some c else none
  | _ => none

/-- The configuration that actions publish last under the name; none have published the one without
lists. -/
def lastPublished (name : String) (actions : List SessionAction) : MemConfig :=
  (actions.filterMap (published? name)).getLast?.getD .empty

theorem published?_eq_some_iff {name : String} {action : SessionAction} {c : MemConfig} :
    action.published? name = some c ↔ action = .publish name c := by
  constructor
  · intro published
    cases action with
    | publish n c' =>
      obtain ⟨rfl, rfl⟩ := Option.ite_none_right_eq_some.1 published |>.imp_right Option.some.inj
      rfl
    | openAs | markComplete | isComplete | wait | load | close => cases published
  · rintro rfl
    exact if_pos rfl

end SessionAction

namespace Session

variable {path : String} {s s' : Session} {action : SessionAction} {outcome : SessionOutcome}

/-- The file at the path has the table of the configuration. -/
def Offers (path : String) (s : Session) (c : MemConfig) : Prop :=
  ∃ id, s.store.Leads path id ∧ Layout.Tells ((s.store.content id).mapped Layout.regionSize) c

theorem Orderly.load (orderly : Orderly path s) {c : MemConfig} (offers : Offers path s c) :
    ∀ a ∈ s.holds, a.2.load s.store = .ok c := by
  rintro ⟨name, y⟩ there
  obtain ⟨id, leads, tells⟩ := offers
  have same := leads.unique (orderly.group.leads y ⟨name, there⟩)
  unfold SharedConfig.load SharedConfig.region
  rw [← same, tells.read]
  rfl

theorem Orderly.hold?_of_mem (orderly : Orderly path s) {name : String} {x : SharedConfig}
    (there : (name, x) ∈ s.holds) : s.hold? name = some x := by
  cases held : s.hold? name with
  | none => exact absurd rfl (ne_of_hold?_eq_none held _ there)
  | some y =>
    have same := orderly.listed.named _ (mem_of_hold? held) _ there rfl
    exact congrArg (some ·.2) same

/-- A path that leads to a file goes on leading there. -/
theorem Move.leads (move : Move path s action outcome s') {id : Nat}
    (leads : s.store.Leads path id) : s'.store.Leads path id := by
  cases move with
  | failed log opening => exact opening.leads leads
  | @opened name requested timeout refusals shared store log opening =>
    exact (opening.leads leads).congr (store_close _ name).1
  | published | marked => exact leads.congr rfl
  | closed name => exact leads.congr (s.store_close name).1
  | idle => exact leads

/-! ## What a primary does -/

theorem step_publish {name : String} {x : SharedConfig} {c : MemConfig} {store : FileStore}
    (held : s.hold? name = some x) (done : x.publish s.store c = (.ok (), store)) :
    (s.step path (.publish name c)).2 = { s with store } := by
  unfold step
  dsimp only
  rw [change_of_held held, done]

theorem step_markComplete {name : String} {x : SharedConfig} {store : FileStore}
    (held : s.hold? name = some x) (done : x.markComplete s.store = (.ok (), store)) :
    (s.step path (.markComplete name)).2 = { s with store } := by
  unfold step
  dsimp only
  rw [change_of_held held, done]

/-- A change opens and closes nothing. -/
theorem holds_change (s : Session) (name : String)
    (f : SharedConfig → FileStore → Except SharingError Unit × FileStore) :
    (s.change name f).2.holds = s.holds := by
  cases held : s.hold? name with
  | none => rw [change_of_none held]
  | some shared => rw [change_of_held held]

theorem hold?_change (s : Session) (name : String)
    (f : SharedConfig → FileStore → Except SharingError Unit × FileStore) (n : String) :
    (s.change name f).2.hold? n = s.hold? n := by
  unfold hold?
  rw [holds_change]

theorem hold?_step_publish (s : Session) (path name : String) (c : MemConfig) (n : String) :
    (s.step path (.publish name c)).2.hold? n = s.hold? n :=
  s.hold?_change name (fun shared store => shared.publish store c) n

theorem hold?_step_markComplete (s : Session) (path name n : String) :
    (s.step path (.markComplete name)).2.hold? n = s.hold? n :=
  s.hold?_change name SharedConfig.markComplete n

theorem Orderly.kept (orderly : Orderly path s) {name : String} {x : SharedConfig}
    (held : s.hold? name = some x) (primary : x.role = .primary) : x.Kept s.store where
  there := (orderly.leads held).lt_size orderly.group.sound
  sized := orderly.sized held primary

/-! ## While a primary is there -/

section Reign

variable {name : String} {x : SharedConfig}

theorem Orderly.only_primary (orderly : Orderly path s) (there : (name, x) ∈ s.holds)
    (primary : x.role = .primary) {n : String} {y : SharedConfig} (held : s.hold? n = some y)
    (primary' : y.role = .primary) : n = name ∧ y = x := by
  have there' := mem_of_hold? held
  have same := orderly.group.single y x ⟨n, there'⟩ ⟨name, there⟩ primary' primary
  have entry := orderly.listed.once _ there' _ there same
  exact ⟨congrArg Prod.fst entry, same⟩

/-- Nobody becomes the primary. -/
theorem Orderly.not_opened_primary (orderly : Orderly path s) (there : (name, x) ∈ s.holds)
    (primary : x.role = .primary) (move : Move path s action outcome s') :
    outcome ≠ .opened (.ok .primary) := by
  intro opened
  cases move with
  | @opened n requested timeout refusals shared store log opening =>
    cases opening with
    | created locks =>
      exact locks.free ((orderly.group.locked_iff locks.file).2 ⟨x, ⟨name, there⟩, primary⟩)
    | attached => simp at opened
  | idle _ _ quiet => exact quiet _ opened
  | failed | published | marked | closed => cases opened

theorem Orderly.complete_step_iff (orderly : Orderly path s) (there : (name, x) ∈ s.holds)
    (primary : x.role = .primary) (action : SessionAction) :
    Complete path (s.step path action).2 ↔ Complete path s ∨ action = .markComplete name := by
  have move := move_of_step path s action
  constructor
  · intro complete
    rcases move.complete_before orderly complete with ⟨old, -⟩ | ⟨n, y, mark, held, primary'⟩
    · exact .inl old
    · obtain ⟨rfl, -⟩ := orderly.only_primary there primary held primary'
      exact .inr mark
  · rintro (old | rfl)
    · exact move.complete orderly old (orderly.not_opened_primary there primary move)
    · exact orderly.complete_of_markComplete (orderly.hold?_of_mem there) primary

theorem Orderly.offers_publish (orderly : Orderly path s) (there : (name, x) ∈ s.holds)
    (primary : x.role = .primary) {c : MemConfig} (fits : c.Fits) :
    Offers path (s.step path (.publish name c)).2 c := by
  have held := orderly.hold?_of_mem there
  have leads := (move_of_step path s (.publish name c)).leads (orderly.leads held)
  obtain ⟨store, done, -, -, tells⟩ :=
    SharedConfig.exists_publish (orderly.kept held primary) primary fits
  rw [step_publish held done] at leads ⊢
  exact ⟨x.handle.file, leads, tells⟩

theorem Orderly.offers_markComplete (orderly : Orderly path s) (there : (name, x) ∈ s.holds)
    (primary : x.role = .primary) {c : MemConfig} (offers : Offers path s c) :
    Offers path (s.step path (.markComplete name)).2 c := by
  have held := orderly.hold?_of_mem there
  have leads := (move_of_step path s (.markComplete name)).leads (orderly.leads held)
  obtain ⟨id, before, tells⟩ := offers
  obtain rfl := before.unique (orderly.leads held)
  obtain ⟨store, done, -, -, tells⟩ :=
    SharedConfig.exists_markComplete (orderly.kept held primary) primary tells
  rw [step_markComplete held done] at leads ⊢
  exact ⟨x.handle.file, leads, tells⟩

theorem Orderly.offers_step (orderly : Orderly path s) (there : (name, x) ∈ s.holds)
    (primary : x.role = .primary) (action : SessionAction)
    (fits : ∀ c, action = .publish name c → c.Fits) {c : MemConfig} (offers : Offers path s c) :
    Offers path (s.step path action).2 ((action.published? name).getD c) := by
  have move := move_of_step path s action
  cases published : action.published? name with
  | some c' =>
    obtain rfl := SessionAction.published?_eq_some_iff.1 published
    exact orderly.offers_publish there primary (fits c' rfl)
  | none =>
    rw [Option.getD_none]
    have keep := offers
    obtain ⟨id, leads, tells⟩ := offers
    by_cases same : (s.step path action).2.store.content id = s.store.content id
    · exact ⟨id, move.leads leads, by rwa [same]⟩
    · -- Only the primary changes the file, and what it does is to set the marker.
      rcases move.writer orderly (leads.lt_size orderly.group.sound) same with
        opened | ⟨n, y, held, writer⟩ | unmapped
      · exact absurd opened (orderly.not_opened_primary there primary move)
      · obtain ⟨primary', wrote⟩ := writer
        obtain ⟨rfl, rfl⟩ := orderly.only_primary there primary held primary'
        rcases wrote with rfl | ⟨c', rfl⟩
        · exact orderly.offers_markComplete there primary keep
        · simp [SessionAction.published?] at published
      · exact absurd ⟨x, ⟨name, there⟩, primary⟩ unmapped.free

/-- A primary that is there in the end was there after the first step. -/
theorem Orderly.mem_step (orderly : Orderly path s) (there : (name, x) ∈ s.holds)
    {actions : List SessionAction}
    (last : (name, x) ∈ ((s.step path action).2.run path actions).holds) :
    (name, x) ∈ (s.step path action).2.holds := by
  have older := orderly.group.older x ⟨name, there⟩
  exact mem_of_mem_run (Nat.lt_of_lt_of_le older (move_of_step path s action).nextHandle_le) last

theorem Orderly.complete_reign_iff (orderly : Orderly path s) (there : (name, x) ∈ s.holds)
    (primary : x.role = .primary) {actions : List SessionAction}
    (last : (name, x) ∈ (s.run path actions).holds) :
    Complete path (s.run path actions) ↔ Complete path s ∨ .markComplete name ∈ actions := by
  induction actions generalizing s with
  | nil => simp [run]
  | cons action actions ih =>
    have orderly' := (move_of_step path s action).orderly orderly
    have first := orderly.complete_step_iff there primary action
    have rest := ih orderly' (orderly.mem_step there last) last
    rw [run, rest, first, List.mem_cons, or_assoc, eq_comm (a := action)]

theorem Orderly.offers_reign (orderly : Orderly path s) (there : (name, x) ∈ s.holds)
    (primary : x.role = .primary) {actions : List SessionAction}
    (fits : ∀ c, .publish name c ∈ actions → c.Fits)
    (last : (name, x) ∈ (s.run path actions).holds) {c : MemConfig} (offers : Offers path s c) :
    Offers path (s.run path actions)
      ((actions.filterMap (SessionAction.published? name)).getLast?.getD c) := by
  induction actions generalizing s c with
  | nil => exact offers
  | cons action actions ih =>
    have orderly' := (move_of_step path s action).orderly orderly
    have first := orderly.offers_step there primary action
      (fun c h => fits c (h ▸ List.mem_cons_self)) offers
    have rest := ih orderly' (orderly.mem_step there last)
      (fun c h => fits c (List.mem_cons_of_mem _ h)) last first
    rw [List.filterMap_cons]
    cases published : action.published? name with
    | none => rwa [published] at rest
    | some c' =>
      rw [published] at rest
      rw [List.getLast?_cons]
      exact rest

end Reign

/-- An opening that ends in a primary leaves its hold under the name, no marker, and a table without
lists. -/
theorem Orderly.started (orderly : Orderly path s) {name : String} {requested : RoleRequest}
    {timeout : Nat} {refusals : Refusals}
    (opened : s.step path (.openAs name requested timeout refusals)
      = (.opened (.ok .primary), s')) :
    ∃ x, (name, x) ∈ s'.holds ∧ x.role = .primary ∧ ¬Complete path s' ∧ Offers path s' .empty := by
  obtain ⟨x, store, log, primary, opening, rfl⟩ := replace_of_step opened
  obtain ⟨leads, c, content⟩ := opening.started_of_primary orderly.group.sound primary
  -- What was under the name before is closed, which changes no content.
  have leads' : (({ s with store, log } : Session).replace name x).store.Leads path
      x.handle.file := leads.congr (store_close ({ s with store, log } : Session) name).1
  have content' : (({ s with store, log } : Session).replace name x).store.content x.handle.file
      = SharedConfig.started c := (content_close _ name _).trans content
  refine ⟨x, List.mem_cons_self, primary, ?_, x.handle.file, leads', ?_⟩
  · rintro ⟨id, there, marked⟩
    rw [there.unique leads', content'] at marked
    exact SharedConfig.not_marked_started c marked
  · rw [content', SharedConfig.mapped_started]
    refine Layout.tells_cleared ?_
    rw [Packed.size_put]
    exact FileContent.le_size_mapped _ _

/-- **What a primary lets others see.**  Somebody becomes the primary in a session that has come to any
state, with a file of any length and content, and publishes and marks while everybody does what they
like.  As long as that primary is there, whoever has the file open sees the marker exactly if the primary
has set it since, and reads the configuration that it published last. -/
theorem completion_shows_last_published {store : FileStore} (sound : store.Sound)
    (unlocked : store.locks = []) {path : String} {actions : List SessionAction} {s s₁ : Session}
    (reached : (start store).run path actions = s) {name : String} {requested : RoleRequest}
    {timeout : Nat} {refusals : Refusals}
    (opened : s.step path (.openAs name requested timeout refusals)
      = (.opened (.ok .primary), s₁)) :
    ∃ x, s₁.hold? name = some x ∧ x.role = .primary
      ∧ ∀ later s₂, s₁.run path later = s₂ → (∀ c, .publish name c ∈ later → c.Attainable) →
          s₂.hold? name = some x →
          ∀ a ∈ s₂.holds,
            (a.2.isComplete s₂.store = true ↔ .markComplete name ∈ later)
              ∧ a.2.load s₂.store = .ok (SessionAction.lastPublished name later) := by
  have orderly : Orderly path s := by
    rw [← reached]
    exact orderly_run (.start sound unlocked) actions
  have orderly₁ : Orderly path s₁ := by
    have next := (move_of_step path s (.openAs name requested timeout refusals)).orderly orderly
    rwa [opened] at next
  obtain ⟨x, there, primary, incomplete, offers⟩ := orderly.started opened
  refine ⟨x, orderly₁.hold?_of_mem there, primary, ?_⟩
  rintro later s₂ rfl attainable held a ha
  have orderly₂ := orderly_run orderly₁ later
  have last := mem_of_hold? held
  constructor
  · have complete := orderly₁.complete_reign_iff there primary last
    rw [or_iff_right incomplete] at complete
    rw [← complete]
    constructor
    · intro seen
      have marked := (SharedConfig.isComplete_iff (orderly₂.room ha)).1 seen
      exact ⟨_, orderly₂.group.leads a.2 ⟨a.1, ha⟩, marked⟩
    · intro marked
      exact orderly₂.isComplete marked a ha
  · have fits : ∀ c, .publish name c ∈ later → c.Fits := fun c h => (attainable c h).fits
    exact orderly₂.load (orderly₁.offers_reign there primary fits last offers) a ha

/-- A primary has marked a file and is gone. -/
def abandoned : Session :=
  (start .empty).run "/rte.config" [.openAs "a" .primary 0 .nothing, .markComplete "a", .close "a"]

/-- The next primary lets a secondary attach, publishes a configuration with one list and marks the file:
both see and read it. -/
theorem completion_shows_last_published_abandoned : ∃ c s₁ s₂ x, c.len = 1 ∧ c.Attainable
    ∧ abandoned.step "/rte.config" (.openAs "b" .auto 0 .nothing) = (.opened (.ok .primary), s₁)
    ∧ s₁.run "/rte.config" [.openAs "c" .secondary 0 .nothing, .publish "b" c, .markComplete "b"] = s₂
    ∧ s₂.hold? "b" = some x
    ∧ ∀ a ∈ s₂.holds, a.2.isComplete s₂.store = true ∧ a.2.load s₂.store = .ok c := by
  obtain ⟨index, c, log, stored, one⟩ := MemConfig.exists_stored_twoPages
  have attainable : c.Attainable := .stored .empty stored
  have opened : ∃ s₁, abandoned.step "/rte.config" (.openAs "b" .auto 0 .nothing)
      = (.opened (.ok .primary), s₁) := ⟨_, rfl⟩
  have stays : ((abandoned.step "/rte.config" (.openAs "b" .auto 0 .nothing)).2.step "/rte.config"
        (.openAs "c" .secondary 0 .nothing)).2.hold? "b"
      = (abandoned.step "/rte.config" (.openAs "b" .auto 0 .nothing)).2.hold? "b" := by
    decide +kernel
  obtain ⟨s₁, opened⟩ := opened
  rw [opened] at stays
  obtain ⟨x, held, -, shown⟩ := completion_shows_last_published FileStore.sound_empty rfl rfl opened
  rw [held] at stays
  have lives : (s₁.run "/rte.config" [.openAs "c" .secondary 0 .nothing, .publish "b" c,
      .markComplete "b"]).hold? "b" = some x := by
    rw [run, run, run, run, hold?_step_markComplete, hold?_step_publish]
    exact stays
  refine ⟨c, s₁, _, x, one, attainable, opened, rfl, lives, fun a ha => ?_⟩
  have all := shown [.openAs "c" .secondary 0 .nothing, .publish "b" c, .markComplete "b"] _ rfl
    (fun c' h => ?_) lives a ha
  · exact ⟨all.1.2 (by simp), all.2⟩
  · have same : c' = c := by simpa using h
    rwa [same]

end Session

end Passthrough
