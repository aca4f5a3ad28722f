import Passthrough.Proofs.Driver.Lending

/-!
# Passthrough — no pool data crosses processes

The scratch pool outlives the processes it is lent to, and the next one must not find what the last one
left in it.  So the pool is cleared before each mapping, at a moment when nobody has it mapped.

* `PlatformCall.ReachesPool` — a call that maps any byte of the pool into a process.
* `Kept` — what carries the argument along a course: the pool stays the one allocated at the start, and
  no registers are mapped over it.
* `Course.pool_cleared_between_owners` — every such call follows a clearing, and nothing is mapped at a
  clearing.
-/

namespace Passthrough

open PlatformCall

/-- The first kernel address behind a region, as a number. -/
def KernelRegion.stop (r : KernelRegion) : Nat := r.virt.val.toNat + r.size.toNat

/-- Whether the call is to map into a process some memory that the pool has a part in. -/
def PlatformCall.ReachesPool (pool : KernelRegion) : PlatformCall → Prop
  | .mapIntoProcess _ base length _ _ =>
    base.val.toNat < pool.stop ∧ pool.virt.val.toNat < base.val.toNat + length.toNat
  | _ => False

/-- The process mappings that are live after some calls, from the first one on. -/
def mappedAfter (calls : List PlatformCall) : List ProcessMapping :=
  (Ledger.replay ⟨[], [], []⟩ calls).processes

/-! ## What stays as it is -/

namespace Device

variable {d d' : Device} {operation : Operation} {outcome : Outcome} {calls : List PlatformCall}

theorem Turn.pool_before (turn : d.Turn operation outcome calls d') {pool : KernelRegion}
    (held : d'.context.pool = some pool) : d.context.pool = some pool := by
  cases turn with
  | removed => cases held
  | lent _ _ _ _ _ d' _ _ _ _ result =>
    rw [result] at held
    exact held
  | _ => exact held

/-- The registers that are mapped after a turn were mapped before, or the turn mapped them. -/
theorem Turn.region_before (turn : d.Turn operation outcome calls d') {region : KernelRegion}
    (recorded : region ∈ regions d'.context.registers) :
    region ∈ regions d.context.registers ∨ mapRegion region ∈ calls := by
  cases turn with
  | prepareFailed | released | removed =>
    have nothing : region ∈ regions emptySlots := recorded
    cases nothing
  | prepared _ read mapped =>
    refine .inr (List.mem_append_right _ (List.mem_cons_of_mem _ ?_))
    exact List.mem_map_of_mem recorded
  | lent _ _ _ _ _ d' _ _ _ _ result =>
    rw [result] at recorded
    exact .inl recorded
  | _ => exact .inl recorded

end Device

/-- What is known of an instance that was attached with `pool`. -/
structure Kept (pool : KernelRegion) (i : Instance) : Prop where
  balanced : i.Balanced
  same : ∀ held, i.device.context.pool = some held → held = pool
  /-- Registers are mapped behind the pool. -/
  behind : ∀ region ∈ regions i.device.context.registers, pool.stop ≤ region.virt.val.toNat
  next : pool.stop ≤ i.platform.memory.nextKernel.toNat
  replayed : Ledger.replay ⟨[], [], []⟩ i.platform.calls = i.platform.memory.ledger

theorem Attached.kept {start : Instance} (h : Attached start) :
    ∃ pool, pool.size = poolSize ∧ start.platform.calls = [.allocate poolSize .cached (some pool)]
      ∧ Kept pool start := by
  have balanced := h.balanced
  obtain ⟨bus, memory, fresh, attached⟩ := h
  obtain ⟨pool, hcontext, effect, size, next⟩ := Instance.effect_attach attached
  have recorded := effect.recorded
  have ledger := effect.ledger
  refine ⟨pool, size, recorded, balanced, ?_, ?_, Nat.le_of_eq next, ?_⟩
  · intro held hheld
    rw [hcontext] at hheld
    cases hheld
    rfl
  · intro region recorded
    rw [hcontext] at recorded
    cases recorded
  · rw [recorded, ledger]
    show _ = memory.ledger.replay _
    rw [fresh]
    rfl

theorem Kept.step {pool : KernelRegion} {i i' : Instance} {operation : Operation}
    {outcome : Outcome} {calls : List PlatformCall} (h : Kept pool i)
    (stepped : i.step operation = .ok (outcome, i'))
    (recorded : i'.platform.calls = i.platform.calls ++ calls) : Kept pool i' := by
  obtain ⟨turn, effect⟩ := Instance.turn_of_recorded stepped recorded
  refine ⟨h.balanced.step stepped, fun held hheld => h.same held (turn.pool_before hheld), ?_, ?_, ?_⟩
  · intro region hregion
    rcases turn.region_before hregion with old | made
    · exact h.behind region old
    · -- A new mapping lies where no address was handed out yet.
      have fresh := effect.fresh _ _ _ _ made
      rw [Platform.nextKernel_adjust, UInt64.le_iff_toNat_le] at fresh
      exact Nat.le_trans h.next fresh
  · have kernel := effect.kernel
    rw [Platform.nextKernel_adjust, UInt64.le_iff_toNat_le] at kernel
    exact Nat.le_trans h.next kernel
  · rw [recorded, Ledger.replay_append, h.replayed, effect.ledger, Platform.ledger_adjust]

theorem Course.kept {pool : KernelRegion} {start i : Instance} {events : List Event}
    (course : Course start events i) (h : Kept pool start) : Kept pool i := by
  induction course with
  | rest => exact h
  | step _ stepped recorded ih => exact ih.step stepped recorded

/-! ## Clearings and mappings in one turn -/

/-- A call of a list is the first, the second or one of the rest. -/
theorem place_cons_cons {first second call : PlatformCall}
    {rest before after : List PlatformCall}
    (h : first :: second :: rest = before ++ call :: after) :
    (before = [] ∧ call = first) ∨ (before = [first] ∧ call = second) ∨ call ∈ rest := by
  rcases before with _ | ⟨a, _ | ⟨b, more⟩⟩
  · cases h
    exact .inl ⟨rfl, rfl⟩
  · cases h
    exact .inr (.inl ⟨rfl, rfl⟩)
  · injection h with _ h
    injection h with _ h
    rw [h]
    exact .inr (.inr (List.mem_append_right _ List.mem_cons_self))

section Turn

variable {pool : KernelRegion} {i : Instance} {d' : Device} {operation : Operation}
  {outcome : Outcome} {calls before after : List PlatformCall}

/-- A mapping that reaches the pool is a mapping of the pool and of nothing else, and it is the second
call of its turn, after the clearing. -/
theorem Kept.cleared_before (h : Kept pool i) (turn : i.device.Turn operation outcome calls d')
    {call : PlatformCall} (split : calls = before ++ call :: after)
    (reaches : call.ReachesPool pool) :
    before = [.zero pool.virt pool.size]
      ∧ ∃ caller request answer, operation = .deviceControl caller request
        ∧ call = .mapIntoProcess caller.process pool.virt pool.size .cached answer := by
  have lends : call.isLending = true := by
    cases call <;> first | rfl | exact reaches.elim
  have hcall : call ∈ calls := by
    rw [split]
    exact List.mem_append_right _ List.mem_cons_self
  obtain ⟨caller, request, held, answer, rest, rfl, -, hpool, hcalls, hrest⟩ :=
    turn.lending hcall lends
  cases h.same held hpool
  rw [hcalls] at split
  rcases place_cons_cons split with ⟨-, rfl⟩ | ⟨hbefore, rfl⟩ | hmem
  · exact reaches.elim
  · exact ⟨hbefore, caller, request, answer, rfl, rfl⟩
  · -- The other mappings are of registers, and those lie behind the pool.
    obtain ⟨region, recorded, answer', rfl⟩ := hrest call hmem lends
    have hbehind := h.behind region recorded
    have hreach : region.virt.val.toNat < pool.stop := reaches.1
    omega

/-- A clearing is the first call of its turn, it is a clearing of the whole pool, and it is made while
nothing is mapped. -/
theorem Kept.unmapped_at_clearing (h : Kept pool i)
    (turn : i.device.Turn operation outcome calls d') {base : VirtAddr} {length : UInt64}
    (split : calls = before ++ .zero base length :: after) :
    before = [] ∧ base = pool.virt ∧ length = pool.size ∧ mappedAfter i.platform.calls = [] := by
  have hcall : .zero base length ∈ calls := by
    rw [split]
    exact List.mem_append_right _ List.mem_cons_self
  obtain ⟨caller, request, held, answer, rest, -, state, hpool, hcalls, hrest⟩ :=
    turn.lending hcall rfl
  cases h.same held hpool
  have unmapped : mappedAfter i.platform.calls = [] := by
    unfold mappedAfter
    rw [h.replayed, h.balanced.ledger]
    exact h.balanced.orderly.lent_eq_nil_of_prepared state
  rw [hcalls] at split
  rcases place_cons_cons split with ⟨hbefore, heq⟩ | ⟨-, heq⟩ | hmem
  · cases heq
    exact ⟨hbefore, rfl, rfl, unmapped⟩
  · cases heq
  · obtain ⟨region, -, answer', hlend⟩ := hrest _ hmem rfl
    cases hlend

end Turn

/-! ## Along a course -/

/-- A call in a record that was continued is an old one or a new one. -/
theorem split_append {old new before after : List PlatformCall} {call : PlatformCall}
    (h : old ++ new = before ++ call :: after) :
    (∃ rest, old = before ++ call :: rest)
      ∨ ∃ between, before = old ++ between ∧ new = between ++ call :: after := by
  rcases List.append_eq_append_iff.1 h with ⟨between, hbefore, hnew⟩ | ⟨between, hold, hafter⟩
  · exact .inr ⟨between, hbefore, hnew⟩
  · cases between with
    | nil =>
      rw [List.append_nil] at hold
      exact .inr ⟨[], by rw [hold, List.append_nil], hafter.symm⟩
    | cons first rest =>
      cases hafter
      exact .inl ⟨rest, hold⟩

/-- What is known of the record after a course. -/
structure Cleared (pool : KernelRegion) (events : List Event) (i : Instance) : Prop where
  mappings : ∀ event ∈ events, ∀ before call after, event.calls = before ++ call :: after →
    call.ReachesPool pool → before = [.zero pool.virt pool.size]
      ∧ ∃ caller request answer, event.operation = .deviceControl caller request
        ∧ call = .mapIntoProcess caller.process pool.virt pool.size .cached answer
  clearings : ∀ before base length after, i.platform.calls = before ++ .zero base length :: after →
    base = pool.virt ∧ length = pool.size ∧ mappedAfter before = []
  /-- In the whole record, too, a mapping that reaches the pool comes right after a clearing. -/
  follows : ∀ before call after, i.platform.calls = before ++ call :: after →
    call.ReachesPool pool → ∃ earlier, before = earlier ++ [.zero pool.virt pool.size]

theorem Course.cleared {pool : KernelRegion} {start i : Instance} {events : List Event}
    (course : Course start events i) (h : Kept pool start)
    (allocated : start.platform.calls = [.allocate poolSize .cached (some pool)]) :
    Cleared pool events i := by
  induction course with
  | rest =>
    -- The only call so far is the allocation.
    have only : ∀ {before call after}, start.platform.calls = before ++ call :: after →
        call = .allocate poolSize .cached (some pool) := by
      intro before call after split
      have hmem : call ∈ start.platform.calls := by
        rw [split]
        exact List.mem_append_right _ List.mem_cons_self
      rw [allocated] at hmem
      exact List.mem_singleton.1 hmem
    refine ⟨by simp, ?_, ?_⟩
    · intro before base length after split
      cases only split
    · intro before call after split reaches
      rw [only split] at reaches
      exact reaches.elim
  | step before stepped recorded ih =>
    have kept := before.kept h
    obtain ⟨turn, -⟩ := Instance.turn_of_recorded stepped recorded
    refine ⟨?_, ?_, ?_⟩
    · intro event hevent
      rcases List.mem_append.1 hevent with hevent | hevent
      · exact ih.mappings event hevent
      · cases List.mem_singleton.1 hevent
        intro before' call after split reaches
        exact kept.cleared_before turn split reaches
    · intro before' base length after split
      rw [recorded] at split
      rcases split_append split with ⟨rest, hold⟩ | ⟨between, hbefore, hnew⟩
      · exact ih.clearings before' base length rest hold
      · -- It is the first call of this turn, so what is before it is all that was before the turn.
        obtain ⟨hnil, hbase, hlength, unmapped⟩ := kept.unmapped_at_clearing turn hnew
        rw [hbefore, hnil, List.append_nil]
        exact ⟨hbase, hlength, unmapped⟩
    · intro before' call after split reaches
      rw [recorded] at split
      rcases split_append split with ⟨rest, hold⟩ | ⟨between, hbefore, hnew⟩
      · exact ih.follows before' call rest hold reaches
      · obtain ⟨hbetween, -⟩ := kept.cleared_before turn hnew reaches
        exact ⟨_, by rw [hbefore, hbetween]⟩

/-- Between two mappings that reach the pool there is a clearing of the whole pool, made while nothing
is mapped. -/
theorem Cleared.between {pool : KernelRegion} {events : List Event} {i : Instance}
    (h : Cleared pool events i) {before between after : List PlatformCall}
    {first second : PlatformCall}
    (split : i.platform.calls = before ++ first :: (between ++ second :: after))
    (hfirst : first.ReachesPool pool) (hsecond : second.ReachesPool pool) :
    ∃ early, between = early ++ [.zero pool.virt pool.size]
      ∧ mappedAfter (before ++ first :: early) = [] := by
  have split' : i.platform.calls = (before ++ first :: between) ++ second :: after := by
    rw [split, List.append_assoc, List.cons_append]
  obtain ⟨earlier, hearlier⟩ := h.follows _ second after split' hsecond
  -- The clearing is not the first mapping, so it comes after it.
  rcases List.eq_nil_or_concat between with rfl | ⟨early, last, rfl⟩
  · obtain ⟨-, hlast⟩ := List.append_inj' hearlier rfl
    cases hlast
    exact hfirst.elim
  · rw [List.concat_eq_append] at split hearlier ⊢
    have hassoc : before ++ first :: (early ++ [last]) = (before ++ first :: early) ++ [last] := by
      rw [List.append_assoc, List.cons_append]
    rw [hassoc] at hearlier
    obtain ⟨-, hlast⟩ := List.append_inj' hearlier rfl
    cases hlast
    refine ⟨early, rfl, ?_⟩
    have clearing : i.platform.calls
        = (before ++ first :: early) ++ .zero pool.virt pool.size :: (second :: after) := by
      rw [split]
      simp
    exact (h.clearings _ _ _ _ clearing).2.2

/-- **No pool data crosses processes.**  Take any course from an attach.  The pool that the attach
allocated is the only one there is, and in the record of all calls:

* a call that maps any byte of the pool into a process is a mapping of exactly the pool, and the call
  before it, in the same request, is a clearing of exactly the pool;
* a clearing is of exactly the pool and is made while no process has anything mapped;
* so between any two mappings of the pool there is a clearing of all of it, made when the first process
  had lost its mapping and before the second got its own. -/
theorem Course.pool_cleared_between_owners {start i : Instance} {events : List Event}
    (attached : Attached start) (course : Course start events i) :
    ∃ pool : KernelRegion, pool.size = poolSize
      ∧ i.platform.calls
          = .allocate poolSize .cached (some pool) :: events.flatMap Event.calls
      ∧ Ledger.replay ⟨[], [], []⟩ i.platform.calls = i.platform.memory.ledger
      ∧ (∀ held, i.device.context.pool = some held → held = pool)
      ∧ (∀ event ∈ events, ∀ before call after, event.calls = before ++ call :: after →
          call.ReachesPool pool → before = [.zero pool.virt pool.size]
            ∧ ∃ caller request answer, event.operation = .deviceControl caller request
              ∧ call = .mapIntoProcess caller.process pool.virt pool.size .cached answer)
      ∧ (∀ before base length after, i.platform.calls = before ++ .zero base length :: after →
          base = pool.virt ∧ length = pool.size ∧ mappedAfter before = [])
      ∧ (∀ before first between second after,
          i.platform.calls = before ++ first :: (between ++ second :: after) →
          first.ReachesPool pool → second.ReachesPool pool →
          ∃ early, between = early ++ [.zero pool.virt pool.size]
            ∧ mappedAfter (before ++ first :: early) = []) := by
  obtain ⟨pool, size, allocated, keptStart⟩ := attached.kept
  have kept := course.kept keptStart
  have cleared := course.cleared keptStart allocated
  refine ⟨pool, size, ?_, kept.replayed, kept.same, cleared.mappings, cleared.clearings, ?_⟩
  · rw [course.calls_eq, allocated]
    rfl
  · intro before first between second after split hfirst hsecond
    exact cleared.between split hfirst hsecond

/-- A card that process 7 maps and closes and that process 8 then maps: two clearings and six
mappings. -/
theorem pool_cleared_between_owners_card : ∃ start events i, ∃ pool : KernelRegion, Attached start
    ∧ Course start events i ∧ i.platform.calls.countP isLending = 8
    ∧ ∀ before base length after, i.platform.calls = before ++ .zero base length :: after →
        base = pool.virt ∧ length = poolSize ∧ mappedAfter before = [] := by
  have launched : ((Instance.launch? (Platform.start card .fresh)
      [.prepare card.resources, .deviceControl ⟨⟨7⟩, ⟨1⟩⟩ mapCard, .cleanUp ⟨⟨7⟩, ⟨1⟩⟩,
        .deviceControl ⟨⟨8⟩, ⟨1⟩⟩ mapCard]).any
        fun i => i.platform.calls.countP isLending = 8) = true := by
    decide +kernel
  obtain ⟨start, events, i, attached, course, lends⟩ := course_of_launch rfl launched
  obtain ⟨pool, size, -, -, -, -, clearings, -⟩ :=
    Course.pool_cleared_between_owners attached course
  rw [← size]
  exact ⟨start, events, i, pool, attached, course, of_decide_eq_true lends, clearings⟩

end Passthrough
