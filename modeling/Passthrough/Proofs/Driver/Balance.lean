import Passthrough.Proofs.Driver.Course

/-!
# Passthrough — the instance's books and the kernel's

The instance undoes its mappings from what its context records, so a record that is missing leaks a
mapping and one that is stale gives it back twice.  Neither happens: after every operation the memory
manager lists exactly what the context stands for.

* `Context.Orderly` — the fields of a context go together; every turn keeps them so (`Turn.orderly`).
* `Turn.replay_ledger` — the calls of a turn lead from the ledger of the one context to that of the other.
* `Reachable.books_balance` — the fields go together and the ledgers agree, in every reachable instance.
-/

namespace Passthrough

open PlatformCall

/-- The fields of a context go together. -/
structure Context.Orderly (c : Context) : Prop where
  lent : c.state = .userMapped ↔ c.user.isSome
  gone : c.state = .released ↔ c.pool = none
  idle : c.state = .attached ∨ c.state = .released → c.registers = emptySlots
  /-- A loan has an address for just those slots whose registers are mapped. -/
  slots : ∀ user, c.user = some user →
    ∀ slot : Fin 6, (user.registers.entry slot).isSome = (c.registers.entry slot).isSome

namespace Context

variable {c : Context}

theorem Orderly.state_of_user (h : c.Orderly) {user : UserMapping} (lent : c.user = some user) :
    c.state = .userMapped := by
  apply h.lent.2
  rw [lent]
  rfl

theorem Orderly.user_eq_none (h : c.Orderly) (state : c.state ≠ .userMapped) : c.user = none := by
  cases huser : c.user with
  | none => rfl
  | some user => exact absurd (h.state_of_user huser) state

theorem Orderly.user_eq_none_of_prepared (h : c.Orderly) (state : c.state = .hardwarePrepared) :
    c.user = none := by
  apply h.user_eq_none
  rw [state]
  decide

theorem Orderly.lent_eq_nil (h : c.Orderly) (state : c.state ≠ .userMapped) : c.lent = [] := by
  unfold Context.lent
  rw [h.user_eq_none state]

theorem Orderly.lent_eq_nil_of_prepared (h : c.Orderly) (state : c.state = .hardwarePrepared) :
    c.lent = [] := by
  unfold Context.lent
  rw [h.user_eq_none_of_prepared state]

/-- A context without a loan is orderly if it holds the pool and is in a state that goes with its
registers. -/
theorem orderly_of_idle {state : DeviceState} {registers : PerSlot (Option KernelRegion)}
    {pool : Option KernelRegion} (unlent : state ≠ .userMapped)
    (gone : state = .released ↔ pool = none)
    (idle : state = .attached ∨ state = .released → registers = emptySlots) :
    (⟨state, registers, pool, none⟩ : Context).Orderly where
  lent := by simp [unlent]
  gone := gone
  idle := idle
  slots := by simp

end Context

namespace Device

variable {d d' : Device} {operation : Operation} {outcome : Outcome} {calls : List PlatformCall}

/-! ## What a turn does to the context -/

theorem Turn.orderly (turn : d.Turn operation outcome calls d') (h : d.context.Orderly) :
    d'.context.Orderly := by
  have held : d.state ≠ .released → d.context.pool ≠ none :=
    fun state hpool => state (h.gone.2 hpool)
  cases turn with
  | prepareReleased | removedBefore | closedOther | refused | accessed | poolRefused | slotRefused
  | changed => exact h
  | prepareFailed resources e read made refused state =>
    exact Context.orderly_of_idle (by decide) (by simpa using held state) fun _ => rfl
  | prepared resources read mapped state =>
    exact Context.orderly_of_idle (by decide) (by simpa using held state) (by simp)
  | released =>
    by_cases state : d.state = .released
    · rw [if_pos state]
      exact Context.orderly_of_idle (by decide) (by simpa using h.gone.1 state) fun _ => rfl
    · rw [if_neg state]
      exact Context.orderly_of_idle (by decide) (by simpa using held state) fun _ => rfl
  | removed state =>
    exact Context.orderly_of_idle (by decide) (by simp) fun _ => rfl
  | closed user lent =>
    -- Something was lent, so the pool was there and still is.
    have live : d.state ≠ .released := by
      show d.context.state ≠ .released
      rw [h.state_of_user lent]
      decide
    exact Context.orderly_of_idle (by decide) (by simpa using held live) (by simp)
  | lent caller request pool base lent d' state pool_held room same result =>
    rw [result]
    refine ⟨by simp, ?_, by simp, ?_⟩
    · simp [pool_held]
    · intro user huser slot
      cases huser
      exact same slot

/-! ## What the calls of a turn do to the ledger -/

theorem filter_not_mem_self {α : Type} [DecidableEq α] (l : List α) : l.filter (· ∉ l) = [] := by
  simp

/-- Undoing everything that a context records leaves the pool. -/
theorem replay_tearDown (c : Context) :
    c.ledger.replay c.tearDown = ⟨c.pool.toList, [], []⟩ := by
  rw [Context.tearDown, Ledger.replay_append, Ledger.replay_takeBack, Ledger.replay_unmapRegion]
  exact Ledger.ext rfl (filter_not_mem_self _) (filter_not_mem_self _)

/-- Refused mappings of registers leave the ledger alone. -/
theorem replay_refused {refused : List PlatformCall}
    (h : ∀ call ∈ refused, Platform.RefusedRegisters call) (l : Ledger) : l.replay refused = l := by
  induction refused with
  | nil => rfl
  | cons call rest ih =>
    obtain ⟨start, length, rfl⟩ := h call List.mem_cons_self
    exact ih fun call' hcall => h call' (List.mem_cons_of_mem _ hcall)

/-- **The calls keep the books.**  The calls of a turn turn the ledger of the context before into that
of the context after. -/
theorem Turn.replay_ledger (turn : d.Turn operation outcome calls d') (h : d.context.Orderly) :
    d.context.ledger.replay calls = d'.context.ledger := by
  cases turn with
  | prepareReleased | removedBefore | closedOther | refused | changed | poolRefused => rfl
  | accessed caller request count output call kind access =>
    cases call <;> first | rfl | cases access
  | prepareFailed resources e read made refused state refusal =>
    -- The mappings made in vain come after everything was undone, and all of them are taken back.
    rw [Ledger.replay_append, replay_tearDown, Ledger.replay_cons, Ledger.replay_append,
      Ledger.replay_append, replay_refused refusal, Ledger.replay_mapRegion,
      Ledger.replay_unmapRegion]
    exact Ledger.ext rfl (filter_not_mem_self _) rfl
  | prepared resources read mapped state =>
    rw [Ledger.replay_append, replay_tearDown, Ledger.replay_cons, Ledger.replay_mapRegion]
    rfl
  | released => exact replay_tearDown d.context
  | removed state =>
    rw [Ledger.replay_append, replay_tearDown]
    cases hpool : d.context.pool with
    | none => rfl
    | some pool =>
      show (⟨[pool].filter (· ≠ pool), [], []⟩ : Ledger) = ⟨[], [], []⟩
      simp
  | closed user lent =>
    rw [Ledger.replay_takeBack]
    exact Ledger.ext rfl rfl (filter_not_mem_self _)
  | slotRefused caller request pool region base lent state held recorded =>
    -- What the process got is just what is taken back.
    have unlent : d.context.lent = [] := h.lent_eq_nil_of_prepared state
    rw [Ledger.replay_cons, Ledger.replay_cons, Ledger.replay_append, Ledger.replay_lendSlot,
      Ledger.replay_cons, Ledger.replay_takeBack, held]
    refine Ledger.ext rfl rfl ?_
    show List.filter _ (d.context.lent ++ _ ++ _) = d.context.lent
    rw [unlent]
    exact filter_not_mem_self _
  | lent caller request pool base lent d' state held room same result =>
    -- Nothing was lent before, so the mappings made are the whole loan.
    have unlent : d.context.lent = [] := h.lent_eq_nil_of_prepared state
    rw [Ledger.replay_cons, Ledger.replay_cons, Ledger.replay_lendSlot, result]
    refine Ledger.ext rfl rfl ?_
    show d.context.lent ++ [_] ++ _
      = (⟨caller, base, lent⟩ : UserMapping).mappings d.context.pool d.context.registers
    rw [unlent, held]
    rfl

end Device

/-! ## Every reachable instance -/

/-- The fields of the context go together, and the memory manager lists what the context stands for. -/
structure Instance.Balanced (i : Instance) : Prop where
  orderly : i.device.context.Orderly
  ledger : i.platform.memory.ledger = i.device.context.ledger

namespace Instance

theorem Balanced.processMappings_eq {i : Instance} (h : i.Balanced) :
    i.platform.memory.processMappings = i.device.context.lent :=
  congrArg Ledger.processes h.ledger

theorem balanced_of_attach {p p' : Platform} {device : Device}
    (fresh : p.memory.ledger = ⟨[], [], []⟩) (h : attach p = .ok (.ok device, p')) :
    (⟨device, p'⟩ : Instance).Balanced := by
  obtain ⟨pool, hcontext, effect, -, -⟩ := effect_attach h
  refine ⟨?_, ?_⟩
  · show device.context.Orderly
    rw [hcontext]
    exact Context.orderly_of_idle (by decide) (by simp) fun _ => rfl
  · show p'.memory.ledger = device.context.ledger
    rw [effect.ledger, fresh, hcontext]
    rfl

/-- **One step keeps the balance**, whatever it is and however it ends. -/
theorem Balanced.step {i i' : Instance} {operation : Operation} {outcome : Outcome} (h : i.Balanced)
    (stepped : i.step operation = .ok (outcome, i')) : i'.Balanced := by
  obtain ⟨calls, turn, effect⟩ := turn_of_step stepped
  refine ⟨turn.orderly h.orderly, ?_⟩
  rw [effect.ledger, Platform.ledger_adjust, h.ledger]
  exact turn.replay_ledger h.orderly

end Instance

theorem Attached.balanced {start : Instance} (h : Attached start) : start.Balanced := by
  obtain ⟨bus, memory, fresh, attached⟩ := h
  exact Instance.balanced_of_attach fresh attached

theorem Course.balanced {start i : Instance} {events : List Event} (course : Course start events i)
    (h : start.Balanced) : i.Balanced := by
  induction course with
  | rest => exact h
  | step _ stepped _ ih => exact ih.step stepped

theorem Reachable.balanced {i : Instance} (h : Reachable i) : i.Balanced := by
  obtain ⟨start, events, attached, course⟩ := reachable_iff_course.1 h
  exact course.balanced attached.balanced

/-- **The books balance.**  In every instance that a run leads to, the state says what the context
holds: a loan exactly when mapped, no pool exactly when released, no registers when attached or
released, and a loan with an address for exactly the slots whose registers are mapped.  And the memory
manager lists exactly what the context records, entry by entry and in order: the pool, the registers of
the slots, and in the process of the owner the pool and the registers of the slots. -/
theorem Reachable.books_balance {i : Instance} (h : Reachable i) :
    let c := i.device.context
    let m := i.platform.memory
    (c.state = .userMapped ↔ c.user.isSome)
      ∧ (c.state = .released ↔ c.pool = none)
      ∧ (c.state = .attached ∨ c.state = .released → ∀ slot : Fin 6, c.registers.entry slot = none)
      ∧ (∀ user, c.user = some user →
          ∀ slot : Fin 6, (user.registers.entry slot).isSome = (c.registers.entry slot).isSome)
      ∧ m.allocations = c.pool.toList
      ∧ m.registerMappings = (regions c.registers).map KernelRegion.registerMapping
      ∧ m.processMappings
          = match c.user with
            | none => []
            | some user => user.mappings c.pool c.registers := by
  have orderly := h.balanced.orderly
  have ledger := h.balanced.ledger
  refine ⟨orderly.lent, orderly.gone, ?_, orderly.slots, congrArg Ledger.allocations ledger,
    congrArg Ledger.registers ledger, h.balanced.processMappings_eq⟩
  intro idle slot
  rw [orderly.idle idle]
  exact freeFrom_emptySlots slot slot (Fin.le_refl slot)

/-- The books of a network card that is prepared and then mapped by process 7. -/
theorem books_balance_networkCard : ∃ i user, Reachable i ∧ i.device.context.user = some user
    ∧ i.platform.memory.allocations = i.device.context.pool.toList
    ∧ i.platform.memory.processMappings
        = user.mappings i.device.context.pool i.device.context.registers := by
  have launched : ((Instance.launch? (Platform.start card .fresh)
      [.prepare card.resources, .deviceControl ⟨⟨7⟩, ⟨1⟩⟩ mapCard]).any
        fun i => i.device.context.user.isSome) = true := by
    decide +kernel
  obtain ⟨start, events, i, attached, course, mapped⟩ := course_of_launch rfl launched
  have reachable := reachable_iff_course.2 ⟨start, events, attached, course⟩
  obtain ⟨user, huser⟩ := Option.isSome_iff_exists.1 mapped
  obtain ⟨-, -, -, -, allocations, -, processes⟩ := Reachable.books_balance reachable
  rw [huser] at processes
  exact ⟨i, user, reachable, huser, allocations, processes⟩

end Passthrough
