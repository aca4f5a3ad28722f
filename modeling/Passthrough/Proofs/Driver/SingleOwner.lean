import Passthrough.Proofs.Driver.Lending
import Passthrough.Proofs.Protocol.Record

/-!
# Passthrough — one owner at a time

Any number of processes may open the device and send requests; one handle of one process at a time has
the hardware mapped.  The calls of a course are looked at one by one, each with who asked for it, so that
every mapping that is live at some moment has a borrower.

* `trace`, `live` — the calls of a course with their askers, and the loans that are live after them.
* `Turn.heldBy` — during a turn all live loans have one borrower.
* `Course.single_owner` — one owner at every moment, refusal of everybody else, and mappings that stay
  until the owner or the platform ends them.
-/

namespace Passthrough

open PlatformCall

/-- Who asked for an operation, if a process did. -/
def Operation.requester? : Operation → Option Caller
  | .cleanUp caller | .deviceControl caller _ => some caller
  | _ => none

/-- The calls of an event, each with who asked for it. -/
def Event.asked (e : Event) : List (Option Caller × PlatformCall) :=
  e.calls.map fun call => (e.operation.requester?, call)

/-- The calls of all events, each with who asked for it. -/
def trace (events : List Event) : List (Option Caller × PlatformCall) := events.flatMap Event.asked

/-- A live mapping into a process and who asked for it. -/
structure Loan where
  borrower : Option Caller
  mapping : ProcessMapping

/-- The live loans after one more call. -/
def loansAfter (loans : List Loan) : Option Caller × PlatformCall → List Loan
  | (asker, .mapIntoProcess process _ length _ (some base)) =>
    loans ++ [⟨asker, ⟨process, base, length⟩⟩]
  | (_, .unmapFromProcess process base length) =>
    loans.filter fun loan => loan.mapping ≠ ⟨process, base, length⟩
  | _ => loans

/-- The live loans after some calls. -/
def live (loans : List Loan) (calls : List (Option Caller × PlatformCall)) : List Loan :=
  calls.foldl loansAfter loans

/-- All loans were made for `owner` and lie in its process. -/
def HeldBy (owner : Caller) (loans : List Loan) : Prop :=
  ∀ loan ∈ loans, loan.borrower = some owner ∧ loan.mapping.process = owner.process

/-- Where a process finds a region that a record describes. -/
def Region.lentTo (r : Region) (process : ProcessId) : ProcessMapping := ⟨process, r.user, r.size⟩

namespace Event

theorem mem_asked {e : Event} {entry : Option Caller × PlatformCall} (h : entry ∈ e.asked) :
    entry.1 = e.operation.requester? ∧ entry.2 ∈ e.calls := by
  obtain ⟨call, hcall, rfl⟩ := List.mem_map.1 h
  exact ⟨rfl, hcall⟩

theorem map_snd_asked (e : Event) : e.asked.map Prod.snd = e.calls := by
  simp [asked, Function.comp_def]

end Event

theorem trace_concat (events : List Event) (e : Event) :
    trace (events ++ [e]) = trace events ++ e.asked := by
  simp [trace]

/-! ## Live loans -/

section Live

variable {loans : List Loan} {l : Ledger}

theorem live_append (first second : List (Option Caller × PlatformCall)) :
    live loans (first ++ second) = live (live loans first) second :=
  List.foldl_append

theorem map_mapping_loansAfter (h : loans.map Loan.mapping = l.processes)
    (entry : Option Caller × PlatformCall) :
    (loansAfter loans entry).map Loan.mapping = (l.after entry.2).processes := by
  obtain ⟨asker, call⟩ := entry
  cases call with
  | mapIntoProcess process base length cache answer =>
    cases answer with
    | none => exact h
    | some base =>
      show (loans ++ [_]).map Loan.mapping = l.processes ++ [_]
      rw [List.map_append, h]
      rfl
  | unmapFromProcess process base length =>
    show (loans.filter _).map Loan.mapping = l.processes.filter _
    rw [← h, List.filter_map]
    rfl
  | allocate _ _ answer | mapRegisters _ _ _ answer => cases answer <;> exact h
  | _ => exact h

/-- The live loans are what the memory manager lists. -/
theorem map_mapping_live (h : loans.map Loan.mapping = l.processes)
    (calls : List (Option Caller × PlatformCall)) :
    (live loans calls).map Loan.mapping = (l.replay (calls.map Prod.snd)).processes := by
  induction calls generalizing loans l with
  | nil => exact h
  | cons entry calls ih => exact ih (map_mapping_loansAfter h entry)

/-- A live loan was live before, or one of the calls made it. -/
theorem mem_live {calls : List (Option Caller × PlatformCall)} {loan : Loan}
    (h : loan ∈ live loans calls) :
    loan ∈ loans ∨ ∃ base length cache, (loan.borrower,
      .mapIntoProcess loan.mapping.process base length cache (some loan.mapping.base)) ∈ calls := by
  induction calls generalizing loans with
  | nil => exact .inl h
  | cons entry calls ih =>
    -- Live in the end means live after the first call, or made later.
    rcases ih h with before | ⟨base, length, cache, made⟩
    · obtain ⟨asker, call⟩ := entry
      cases call with
      | mapIntoProcess process start length cache answer =>
        cases answer with
        | none => exact .inl before
        | some base =>
          rcases List.mem_append.1 before with before | before
          · exact .inl before
          · cases List.mem_singleton.1 before
            exact .inr ⟨start, length, cache, List.mem_cons_self⟩
      | unmapFromProcess => exact .inl (List.mem_filter.1 before).1
      | _ => exact .inl before
    · exact .inr ⟨base, length, cache, List.mem_cons_of_mem _ made⟩

end Live

/-! ## Loans during a turn -/

/-- The live loans are those of the process that the context names, if it names one. -/
def Context.Owns (c : Context) (loans : List Loan) : Prop :=
  ∀ loan ∈ loans, ∃ user, c.user = some user ∧ loan.borrower = some user.owner
    ∧ loan.mapping.process = user.owner.process

theorem Context.Owns.eq_nil {c : Context} {loans : List Loan} (h : c.Owns loans)
    (unlent : c.user = none) : loans = [] := by
  apply List.eq_nil_iff_forall_not_mem.2
  intro loan hloan
  obtain ⟨user, huser, -⟩ := h loan hloan
  rw [unlent] at huser
  cases huser

/-- What a turn maps into a process it maps for the one who asked, and only while the hardware is
prepared and not lent. -/
theorem Device.Turn.mapped_for_requester {d d' : Device} {operation : Operation} {outcome : Outcome}
    {calls : List PlatformCall} (turn : d.Turn operation outcome calls d') {process : ProcessId}
    {base : VirtAddr} {length : UInt64} {cache : CacheKind} {answer : Option VirtAddr}
    (made : .mapIntoProcess process base length cache answer ∈ calls) :
    d.state = .hardwarePrepared
      ∧ ∃ caller, operation.requester? = some caller ∧ process = caller.process := by
  obtain ⟨caller, request, pool, answer, rest, rfl, state, -, rfl, hrest⟩ := turn.lending made rfl
  refine ⟨state, caller, rfl, ?_⟩
  -- It is the mapping of the pool or that of a slot, and both go to the caller.
  rcases List.mem_cons.1 made with hclear | hmade
  · cases hclear
  · rcases List.mem_cons.1 hmade with hpool | hslot
    · exact (PlatformCall.mapIntoProcess.inj hpool).1
    · obtain ⟨region, -, answer, hlend⟩ := hrest _ hslot rfl
      exact (PlatformCall.mapIntoProcess.inj hlend).1

/-- **One borrower at a time.**  At every moment of a turn the live loans have one borrower, and if
something is lent after the turn, it is lent to that one. -/
theorem Device.Turn.heldBy {d d' : Device} {operation : Operation} {outcome : Outcome}
    {calls : List PlatformCall} {loans : List Loan} (turn : d.Turn operation outcome calls d')
    (h : d.context.Orderly) (owns : d.context.Owns loans) :
    ∃ owner, (∀ user, d'.context.user = some user → user.owner = owner)
      ∧ ∀ before, (∀ entry ∈ before, entry.1 = operation.requester? ∧ entry.2 ∈ calls) →
        HeldBy owner (live loans before) := by
  cases huser : d.context.user with
  | some user =>
    -- While something is lent nothing more is, so the owner stays the one it is.
    have unprepared : d.state ≠ .hardwarePrepared := by
      rw [Device.state, h.state_of_user huser]
      decide
    refine ⟨user.owner, ?_, ?_⟩
    · intro user' huser'
      rcases turn.loan_before huser' with same | ⟨state, -⟩
      · rw [huser] at same
        cases same
        rfl
      · exact absurd state unprepared
    · intro before hbefore loan hloan
      rcases mem_live hloan with old | ⟨base, length, cache, made⟩
      · obtain ⟨user', huser', borrower, process⟩ := owns loan old
        rw [huser] at huser'
        cases huser'
        exact ⟨borrower, process⟩
      · exact absurd (turn.mapped_for_requester (hbefore _ made).2).1 unprepared
  | none =>
    -- Nothing was lent, so what is live was asked for by whoever asked for the turn.
    have unlent : loans = [] := owns.eq_nil huser
    refine ⟨operation.requester?.getD default, ?_, ?_⟩
    · intro user huser'
      rcases turn.loan_before huser' with same | ⟨-, request, rfl⟩
      · rw [huser] at same
        cases same
      · rfl
    · intro before hbefore loan hloan
      rw [unlent] at hloan
      rcases mem_live hloan with old | ⟨base, length, cache, made⟩
      · cases old
      · obtain ⟨borrower, hmade⟩ := hbefore _ made
        obtain ⟨-, caller, asked, process⟩ := turn.mapped_for_requester hmade
        rw [asked] at borrower ⊢
        exact ⟨borrower, process⟩

/-! ## Loans along a course -/

theorem Attached.user_eq_none {start : Instance} (h : Attached start) :
    start.device.context.user = none := by
  obtain ⟨bus, memory, -, attached⟩ := h
  obtain ⟨pool, hcontext, -⟩ := Instance.effect_attach attached
  rw [hcontext]

/-- What is known of the loans after a course. -/
structure Held (events : List Event) (i : Instance) : Prop where
  balanced : i.Balanced
  owns : i.device.context.Owns (live [] (trace events))
  listed : (live [] (trace events)).map Loan.mapping = i.platform.memory.processMappings
  always : ∀ before after, trace events = before ++ after → ∃ owner, HeldBy owner (live [] before)

theorem Attached.held {start : Instance} (h : Attached start) : Held [] start where
  balanced := h.balanced
  owns := by simp [Context.Owns, trace, live]
  listed := by
    rw [h.balanced.processMappings_eq, Context.lent, h.user_eq_none]
    rfl
  always := by
    intro before after hsplit
    obtain ⟨rfl, -⟩ := List.append_eq_nil_iff.1 hsplit.symm
    refine ⟨default, ?_⟩
    simp [HeldBy, live]

theorem Held.step {events : List Event} {i i' : Instance} {operation : Operation} {outcome : Outcome}
    {calls : List PlatformCall} (h : Held events i)
    (stepped : i.step operation = .ok (outcome, i'))
    (recorded : i'.platform.calls = i.platform.calls ++ calls) :
    Held (events ++ [⟨operation, outcome, calls⟩]) i' := by
  obtain ⟨turn, effect⟩ := Instance.turn_of_recorded stepped recorded
  obtain ⟨owner, named, held⟩ := turn.heldBy h.balanced.orderly h.owns
  have balanced := h.balanced.step stepped
  have listed : (live [] (trace (events ++ [⟨operation, outcome, calls⟩]))).map Loan.mapping
      = i'.platform.memory.processMappings := by
    have hbefore : (live [] (trace events)).map Loan.mapping
        = (i.platform.adjust operation).memory.ledger.processes := by
      rw [Platform.ledger_adjust]
      exact h.listed
    have hmap := map_mapping_live hbefore (Event.asked ⟨operation, outcome, calls⟩)
    rw [Event.map_snd_asked, ← effect.ledger] at hmap
    rw [trace_concat, live_append]
    exact hmap
  refine ⟨balanced, ?_, listed, ?_⟩
  · intro loan hloan
    cases huser : i'.device.context.user with
    | none =>
      -- Nothing is lent, so nothing is listed and nothing is live.
      have unlisted := balanced.processMappings_eq
      rw [Context.lent, huser, ← listed, List.map_eq_nil_iff] at unlisted
      rw [unlisted] at hloan
      cases hloan
    | some user =>
      rw [trace_concat, live_append] at hloan
      have hheld := held _ (fun entry => Event.mem_asked) loan hloan
      rw [← named user huser] at hheld
      exact ⟨user, rfl, hheld⟩
  · intro before after hsplit
    rw [trace_concat] at hsplit
    -- The moment lies in this turn or before it.
    rcases List.append_eq_append_iff.1 hsplit with ⟨between, rfl, hafter⟩ | ⟨between, hbefore, -⟩
    · refine ⟨owner, ?_⟩
      rw [live_append]
      exact held between fun entry hentry =>
        Event.mem_asked (by rw [hafter]; exact List.mem_append_left _ hentry)
    · exact h.always before between hbefore

theorem Course.held {start i : Instance} {events : List Event} (course : Course start events i)
    (attached : Attached start) : Held events i := by
  induction course with
  | rest => exact attached.held
  | step _ stepped recorded ih => exact ih.step stepped recorded

/-! ## Everybody else is refused -/

namespace Instance

/-- While the hardware is lent, a request to map it that names the right address is refused, and the
refusal leaves nothing but a message. -/
theorem refuse_second {i : Instance} {caller : Caller} {request : IoRequest} {info : HardwareInfo}
    (mapped : i.device.state = .userMapped) (kind : request.code.kind? = some .mapHardware)
    (decoded : HardwareInfo.decode request.input = .ok info) (named : info.address = i.device.address) :
    i.deviceControl caller request
      = .ok (⟨⟨.alreadyCommitted, 0⟩, request.output⟩, i.reportMapFailure .alreadyCommitted) := by
  have refused : i.mapIntoCaller caller request.output
      = .ok (⟨.error .alreadyCommitted, request.output⟩, i) := by
    have state : i.device.context.state = .userMapped := mapped
    unfold mapIntoCaller
    dsimp only
    rw [state]
  have checked : i.checkAddress info.address = .ok () := if_pos named
  have served : i.mapHardware caller request
      = .ok (⟨.error .alreadyCommitted, request.output⟩, i) := by
    unfold mapHardware
    rw [decoded]
    dsimp only
    rw [checked]
    exact refused
  unfold deviceControl inCallerContext
  rw [kind]
  dsimp only
  rw [served]
  rfl

end Instance

/-! ## What the owner was told stays true -/

/-- A request to map the hardware that succeeds lends it to the caller and describes the loan at the
front of the output. -/
theorem Device.Turn.lent_of_success {d d' : Device} {caller : Caller} {request : IoRequest}
    {served : Served} {calls : List PlatformCall}
    (turn : d.Turn (.deviceControl caller request) (.served served) calls d')
    (kind : request.code.kind? = some .mapHardware)
    (success : served.completion.status = .success) :
    ∃ pool user, d'.context.pool = some pool ∧ d'.context.user = some user ∧ user.owner = caller
      ∧ served.output.take HardwareInfo.size = (d'.describe pool user).encode := by
  obtain ⟨-, -, pool, user, held, owner, result, answer⟩ := turn.of_success kind success
  refine ⟨pool, user, ?_, ?_, owner, ?_⟩
  · rw [result]
    exact held
  · rw [result]
  · rw [answer]
    exact List.take_left' (HardwareInfo.length_encode _)

/-- A slot of the record is that of the loan, or empty. -/
theorem Device.describe_slot {d : Device} {user : UserMapping} (h : d.context.Orderly)
    (lent : d.context.user = some user) (pool : KernelRegion) (slot : Fin 6) :
    match d.context.registers.entry slot with
    | some range => ∃ base, user.registers.entry slot = some base
        ∧ (d.describe pool user).slots.entry slot = ⟨range.size, range.phys, .null, base⟩
    | none => (d.describe pool user).slots.entry slot = .empty := by
  have same := h.slots user lent slot
  unfold Device.describe
  simp only [PerSlot.entry_ofFn]
  cases hregion : d.context.registers.entry slot with
  | none => rfl
  | some range =>
    rw [hregion] at same
    obtain ⟨base, hbase⟩ := Option.isSome_iff_exists.1 same
    refine ⟨base, hbase, ?_⟩
    rw [hbase]
    rfl

/-- **The record lists the loan.**  The mappings of a loan are, in order, the region of the pool and the
regions of the slots with registers, as the record that describes the loan has them. -/
theorem Device.lent_eq {d : Device} {pool : KernelRegion} {user : UserMapping}
    (h : d.context.Orderly) (held : d.context.pool = some pool) (lent : d.context.user = some user) :
    d.context.lent = (d.describe pool user).scratch.lentTo user.owner.process
      :: ((List.finRange 6).filter fun slot => (d.context.registers.entry slot).isSome).map
        fun slot => ((d.describe pool user).slots.entry slot).lentTo user.owner.process := by
  have hlent : d.context.lent = ⟨user.owner.process, user.pool, pool.size⟩
      :: (slotLoans d.context.registers user.registers).map (loanMapping user.owner.process) := by
    unfold Context.lent UserMapping.mappings
    rw [lent, held]
    rfl
  rw [hlent, slotLoans_eq, List.map_filterMap, ← List.filterMap_eq_map, List.filterMap_filter]
  congr 2
  funext slot
  have described := Device.describe_slot h lent pool slot
  rw [Function.comp]
  cases hregion : d.context.registers.entry slot with
  | none => rfl
  | some region =>
    rw [hregion] at described
    obtain ⟨base, hbase, hentry⟩ := described
    rw [hbase, hentry]
    rfl

theorem Device.mem_lent_iff {d : Device} {pool : KernelRegion} {user : UserMapping}
    (h : d.context.Orderly) (held : d.context.pool = some pool)
    (lent : d.context.user = some user) {mapping : ProcessMapping} :
    mapping ∈ d.context.lent
      ↔ mapping = (d.describe pool user).scratch.lentTo user.owner.process
        ∨ ∃ slot : Fin 6, (d.context.registers.entry slot).isSome
          ∧ mapping = ((d.describe pool user).slots.entry slot).lentTo user.owner.process := by
  rw [Device.lent_eq h held lent, List.mem_cons, List.mem_map]
  refine or_congr Iff.rfl (exists_congr fun slot => ?_)
  rw [List.mem_filter, and_iff_right (List.mem_finRange slot)]
  exact and_congr Iff.rfl eq_comm

/-- A loan stays what it is along every course without an operation that ends it. -/
theorem Course.keeps_loan {i j : Instance} {later : List Event} {user : UserMapping}
    (course : Course i later j) (balanced : i.Balanced) (lent : i.device.context.user = some user)
    (others : ∀ event ∈ later, event.operation.endsLoanOf user.owner = false) :
    j.device = i.device
      ∧ j.platform.memory.processMappings = i.platform.memory.processMappings
      ∧ ∀ event ∈ later, ∀ call ∈ event.calls, call.isBusAccess = true := by
  -- What the memory manager lists follows from the context.
  suffices same : j.device = i.device
      ∧ ∀ event ∈ later, ∀ call ∈ event.calls, call.isBusAccess = true by
    refine ⟨same.1, ?_, same.2⟩
    rw [(course.balanced balanced).processMappings_eq, balanced.processMappings_eq, same.1]
  induction course with
  | rest => exact ⟨rfl, by simp⟩
  | step before stepped recorded ih =>
    obtain ⟨device, quiet⟩ := ih fun event hevent => others event (List.mem_append_left _ hevent)
    obtain ⟨turn, -⟩ := Instance.turn_of_recorded stepped recorded
    have orderly := (before.balanced balanced).orderly
    rw [device] at turn orderly
    obtain ⟨kept, bus⟩ := turn.keeps_loan orderly lent
      (others _ (List.mem_append_right _ List.mem_cons_self))
    refine ⟨kept, ?_⟩
    intro event hevent
    rcases List.mem_append.1 hevent with hevent | hevent
    · exact quiet event hevent
    · cases List.mem_singleton.1 hevent
      exact bus

/-- Something is live exactly while the state says so. -/
theorem Held.mapped_iff {events : List Event} {i : Instance} (h : Held events i) :
    i.device.state = .userMapped ↔ live [] (trace events) ≠ [] := by
  have orderly := h.balanced.orderly
  have listed := h.balanced.processMappings_eq
  rw [← h.listed] at listed
  constructor
  · intro mapped none_live
    rw [none_live, Context.lent] at listed
    obtain ⟨user, huser⟩ := Option.isSome_iff_exists.1 (orderly.lent.1 mapped)
    cases hpool : i.device.context.pool with
    | none =>
      have gone : i.device.state = .released := orderly.gone.2 hpool
      rw [mapped] at gone
      cases gone
    | some pool =>
      rw [huser, hpool] at listed
      cases listed
  · intro some_live
    refine Decidable.byContradiction fun unmapped => some_live ?_
    rw [orderly.lent_eq_nil unmapped] at listed
    exact List.map_eq_nil_iff.1 listed

/-- **One owner at a time.**  Take any course from an attach: requests, closes, preparations, releases
and removals of any number of processes and handles in any order.

* After every single call, all live mappings were asked for by one handle of one process and lie in
  that process.  At the end they are what the memory manager lists, and there are some exactly in the
  state that says so.
* While something is mapped, a request to map the hardware that names the right address is refused,
  whoever sends it and however long its output buffer is, without a call and without a change.
* A request that succeeds reports all mappings that are now live and no others.  They stay live and
  where they are, and the instance stays what it is, until a close by their owner, a preparation, a
  release or a removal; until then the only calls are accesses to the bus. -/
theorem Course.single_owner {start i : Instance} {events : List Event} (attached : Attached start)
    (course : Course start events i) :
    (∀ before after, trace events = before ++ after →
        ∃ owner : Caller, ∀ loan ∈ live [] before,
          loan.borrower = some owner ∧ loan.mapping.process = owner.process)
      ∧ (live [] (trace events)).map Loan.mapping = i.platform.memory.processMappings
      ∧ (i.device.state = .userMapped ↔ live [] (trace events) ≠ [])
      ∧ (∀ caller request info, i.device.state = .userMapped →
          request.code.kind? = some .mapHardware →
          HardwareInfo.decode request.input = .ok info → info.address = i.device.address →
          ∃ i', i.deviceControl caller request
              = .ok (⟨⟨.alreadyCommitted, 0⟩, request.output⟩, i')
            ∧ i'.device = i.device ∧ i'.platform.bus = i.platform.bus
            ∧ i'.platform.memory = i.platform.memory ∧ i'.platform.calls = i.platform.calls)
      ∧ (∀ caller request served i', i.deviceControl caller request = .ok (served, i') →
          request.code.kind? = some .mapHardware → served.completion.status = .success →
          ∃ info, HardwareInfo.decode (served.output.take HardwareInfo.size) = .ok info
            ∧ (∀ mapping, mapping ∈ i'.platform.memory.processMappings
                ↔ mapping = info.scratch.lentTo caller.process
                  ∨ ∃ slot : Fin 6, (i'.device.context.registers.entry slot).isSome
                    ∧ mapping = (info.slots.entry slot).lentTo caller.process)
            ∧ ∀ later j, Course i' later j →
                (∀ event ∈ later, event.operation.endsLoanOf caller = false) →
                j.device = i'.device
                  ∧ j.platform.memory.processMappings = i'.platform.memory.processMappings
                  ∧ ∀ event ∈ later, ∀ call ∈ event.calls, call.isBusAccess = true) := by
  have held := course.held attached
  refine ⟨held.always, held.listed, held.mapped_iff, ?_, ?_⟩
  · intro caller request info mapped kind decoded named
    exact ⟨_, Instance.refuse_second mapped kind decoded named, rfl, rfl, rfl, rfl⟩
  · intro caller request served i' answered kind success
    obtain ⟨calls, turn, -⟩ := Instance.turn_of_deviceControl answered
    obtain ⟨pool, user, hpool, huser, howner, houtput⟩ := turn.lent_of_success kind success
    have balanced := held.balanced.step (Instance.step_of_deviceControl answered)
    refine ⟨i'.device.describe pool user, ?_, ?_, ?_⟩
    · rw [houtput, HardwareInfo.decode_encode]
    · intro mapping
      rw [balanced.processMappings_eq, ← howner]
      exact Device.mem_lent_iff balanced.orderly hpool huser
    · intro later j onward others
      rw [← howner] at others
      exact onward.keeps_loan balanced huser others

/-- A card that process 7 maps, that process 8 then asks for in vain, and whose loan process 8 then
tries to close with the same handle number. -/
theorem single_owner_card : ∃ start events i, Attached start ∧ Course start events i
    ∧ live [] (trace events) ≠ []
    ∧ ∃ owner : Caller, ∀ loan ∈ live [] (trace events),
        loan.borrower = some owner ∧ loan.mapping.process = owner.process := by
  have launched : ((Instance.launch? (Platform.start card .fresh)
      [.prepare card.resources, .deviceControl ⟨⟨7⟩, ⟨1⟩⟩ mapCard,
        .deviceControl ⟨⟨8⟩, ⟨2⟩⟩ mapCard, .cleanUp ⟨⟨8⟩, ⟨1⟩⟩]).any
        fun i => i.device.state = .userMapped) = true := by
    decide +kernel
  obtain ⟨start, events, i, attached, course, mapped⟩ := course_of_launch rfl launched
  obtain ⟨always, -, mapped_iff, -⟩ := Course.single_owner attached course
  refine ⟨start, events, i, attached, course, mapped_iff.1 (of_decide_eq_true mapped), ?_⟩
  exact always (trace events) [] (List.append_nil _).symm

end Passthrough
