import Passthrough.Proofs.Driver.Balance

/-!
# Passthrough — lending and what leaves a loan alone

The calls that lend are the clearings and the mappings into a process.  They occur in requests to map
the hardware and nowhere else, and there in a fixed order.

* `Turn.lending` — a turn with such a call clears the pool, maps it, and maps registers of the slots.
* `Turn.of_success` — a request to map the hardware that succeeds, and what it answers.
* `Turn.keeps_loan` — while the hardware is lent, only four operations touch the loan: three of the
  platform and the close by its owner.
-/

namespace Passthrough

open PlatformCall

namespace PlatformCall

/-- Whether a call clears memory or maps it into a process. -/
def isLending : PlatformCall → Bool
  | .zero .. | .mapIntoProcess .. => true
  | _ => false

end PlatformCall

/-- Whether the operation ends a loan of `owner`. -/
def Operation.endsLoanOf (owner : Caller) : Operation → Bool
  | .prepare _ | .release | .remove => true
  | .cleanUp caller => caller = owner
  | _ => false

/-- Undoing what a context records does not lend. -/
theorem Context.isLending_of_mem_tearDown {c : Context} {call : PlatformCall}
    (h : call ∈ c.tearDown) : call.isLending = false := by
  obtain ⟨m, rfl⟩ | ⟨r, rfl⟩ := c.givesBack_of_mem_tearDown h
  · rfl
  · rfl

namespace Device

variable {d d' : Device} {operation : Operation} {outcome : Outcome} {calls : List PlatformCall}

/-- **What lending looks like.**  A turn that makes a call of lending serves a request of some caller
while the hardware is prepared.  It clears the pool first, then maps the pool into the caller's process,
and whatever else it lends are the registers of slots, to the same process. -/
theorem Turn.lending (turn : d.Turn operation outcome calls d') {call : PlatformCall}
    (hcall : call ∈ calls) (h : call.isLending = true) :
    ∃ caller request pool answer rest, operation = .deviceControl caller request
      ∧ d.state = .hardwarePrepared ∧ d.context.pool = some pool
      ∧ calls = .zero pool.virt pool.size
          :: .mapIntoProcess caller.process pool.virt pool.size .cached answer :: rest
      ∧ ∀ call ∈ rest, call.isLending = true →
          ∃ region ∈ regions d.context.registers, ∃ answer,
            call = lendRegion caller.process region answer := by
  -- The calls of all other turns give back, map registers into the kernel or go to the bus.
  have quiet : ∀ {calls : List PlatformCall}, call ∈ calls →
      (∀ call ∈ calls, call.isLending = false) → False := by
    intro calls hmem hquiet
    rw [hquiet call hmem] at h
    cases h
  cases turn with
  | prepareReleased | removedBefore | closedOther | refused | changed => cases hcall
  | prepareFailed resources e read made refused state refusal =>
    refine (quiet hcall ?_).elim
    intro call hmem
    simp only [List.mem_append, List.mem_cons, List.mem_map] at hmem
    rcases hmem with hmem | rfl | ⟨⟨r, -, rfl⟩ | hmem⟩ | ⟨r, -, rfl⟩
    · exact Context.isLending_of_mem_tearDown hmem
    · rfl
    · rfl
    · obtain ⟨start, length, rfl⟩ := refusal call hmem
      rfl
    · rfl
  | prepared resources read mapped state =>
    refine (quiet hcall ?_).elim
    intro call hmem
    simp only [List.mem_append, List.mem_cons, List.mem_map] at hmem
    rcases hmem with hmem | rfl | ⟨r, -, rfl⟩
    · exact Context.isLending_of_mem_tearDown hmem
    · rfl
    · rfl
  | released => exact (quiet hcall fun call => Context.isLending_of_mem_tearDown).elim
  | removed state =>
    refine (quiet hcall ?_).elim
    intro call hmem
    simp only [List.mem_append, List.mem_map] at hmem
    rcases hmem with hmem | ⟨pool, -, rfl⟩
    · exact Context.isLending_of_mem_tearDown hmem
    · rfl
  | closed user lent =>
    refine (quiet hcall ?_).elim
    intro call hmem
    obtain ⟨m, -, rfl⟩ := List.mem_map.1 hmem
    rfl
  | accessed caller request count output access kind bus =>
    refine (quiet hcall ?_).elim
    intro call hmem
    rw [List.mem_singleton.1 hmem]
    cases access <;> first | rfl | cases bus
  | poolRefused caller request pool state held =>
    exact ⟨caller, request, pool, none, [], rfl, state, held, rfl, by simp⟩
  | slotRefused caller request pool region base lent state held recorded =>
    -- The refused slot is one of those with registers, like the ones lent before it.
    refine ⟨caller, request, pool, some base, _, rfl, state, held, rfl, ?_⟩
    intro call hmem hlends
    simp only [List.mem_append, List.mem_cons, List.mem_map] at hmem
    rcases hmem with ⟨loan, hloan, rfl⟩ | rfl | ⟨m, -, rfl⟩
    · exact ⟨loan.1, mem_regions_of_mem_slotLoans hloan, some loan.2, rfl⟩
    · exact ⟨region, recorded, none, rfl⟩
    · cases hlends
  | lent caller request pool base lent d' state held room same result =>
    refine ⟨caller, request, pool, some base, _, rfl, state, held, rfl, ?_⟩
    intro call hmem hlends
    obtain ⟨loan, hloan, rfl⟩ := List.mem_map.1 hmem
    exact ⟨loan.1, mem_regions_of_mem_slotLoans hloan, some loan.2, rfl⟩

/-- **A loan is left alone** by everything but preparing, releasing, removing and the close by its
owner: the instance stays as it is, and nothing but the bus is touched. -/
theorem Turn.keeps_loan (turn : d.Turn operation outcome calls d') (h : d.context.Orderly)
    {user : UserMapping} (lent : d.context.user = some user)
    (others : operation.endsLoanOf user.owner = false) :
    d' = d ∧ ∀ call ∈ calls, call.isBusAccess = true := by
  have unprepared : d.state ≠ .hardwarePrepared := by
    rw [Device.state, h.state_of_user lent]
    decide
  cases turn with
  | prepareReleased | prepareFailed | prepared | released | removedBefore | removed => cases others
  | closed user' lent' =>
    cases lent.symm.trans lent'
    simp [Operation.endsLoanOf] at others
  | closedOther | refused | changed => exact ⟨rfl, by simp⟩
  | accessed caller request count output call kind access => exact ⟨rfl, by simpa using access⟩
  | poolRefused _ _ _ state | slotRefused _ _ _ _ _ _ state | lent _ _ _ _ _ _ state =>
    exact absurd state unprepared

/-- **What success means.**  A request to map the hardware that succeeds comes while the hardware is
prepared and with room for the record.  It lends pool and registers to the caller, changes nothing else
about the instance, and puts the description of the loan in front of the output. -/
theorem Turn.of_success {caller : Caller} {request : IoRequest} {served : Served}
    (turn : d.Turn (.deviceControl caller request) (.served served) calls d')
    (kind : request.code.kind? = some .mapHardware)
    (success : served.completion.status = .success) :
    d.state = .hardwarePrepared ∧ HardwareInfo.size ≤ request.output.length
      ∧ ∃ pool user, d.context.pool = some pool ∧ user.owner = caller
        ∧ d' = { d with context := { d.context with state := .userMapped, user := some user } }
        ∧ served = ⟨⟨.success, HardwareInfo.size⟩,
            (d'.describe pool user).encode ++ request.output.drop HardwareInfo.size⟩ := by
  cases turn with
  | refused _ _ status early => exact absurd success early.1
  | accessed _ _ count output call other access =>
    rw [kind] at other
    cases other
  | poolRefused | slotRefused => cases success
  | lent _ _ pool base lent d' state held room same result =>
    exact ⟨state, room, pool, ⟨caller, base, lent⟩, held, rfl, result, rfl⟩

/-- A loan that is there after a turn was there before, or the turn served the request of its owner. -/
theorem Turn.loan_before (turn : d.Turn operation outcome calls d') {user : UserMapping}
    (lent : d'.context.user = some user) :
    d.context.user = some user
      ∨ d.state = .hardwarePrepared ∧ ∃ request, operation = .deviceControl user.owner request := by
  cases turn with
  | prepareReleased | removedBefore | closedOther | refused | accessed | poolRefused | slotRefused
  | changed => exact .inl lent
  | prepareFailed | prepared | released | removed | closed => cases lent
  | lent caller request pool base lent' d' state held room same result =>
    rw [result] at lent
    cases lent
    exact .inr ⟨state, request, rfl⟩

end Device

end Passthrough
