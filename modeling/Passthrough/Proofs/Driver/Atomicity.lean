import Passthrough.Proofs.Driver.Balance

/-!
# Passthrough — failed requests

A request can fail at many points: its record cannot be read, it is meant for another function, the
state or a buffer does not fit, or the memory manager refuses one of up to seven mappings.  The early
failures come before any call; the late ones come after the pool was cleared and some mappings made.

* `Device.Turn.of_failed` — what all failures have in common, read off the turns.
* `Reachable.failed_request_atomic` — a failed request leaves no trace but the calls of a late failure.
-/

namespace Passthrough

open PlatformCall

namespace Device

variable {d d' : Device} {caller : Caller} {request : IoRequest} {served : Served}
  {calls : List PlatformCall}

/-- A request that fails answers a status and nothing else, keeps the instance and stays off the bus.
Only for want of resources does it make calls. -/
theorem Turn.of_failed (turn : d.Turn (.deviceControl caller request) (.served served) calls d')
    (failed : served.completion.status ≠ .success) :
    (∃ status, served = request.refused status) ∧ d' = d
      ∧ (∀ call ∈ calls, call.isBusAccess = false)
      ∧ (served.completion.status ≠ .insufficientResources → calls = []) := by
  cases turn with
  | refused _ _ status early => exact ⟨⟨status, rfl⟩, rfl, by simp, fun _ => rfl⟩
  | accessed _ _ count output call kind access => exact absurd rfl failed
  | poolRefused _ _ pool state held =>
    exact ⟨⟨_, rfl⟩, rfl, by simp [isBusAccess], fun early => absurd rfl early⟩
  | slotRefused _ _ pool region base lent state held recorded =>
    refine ⟨⟨_, rfl⟩, rfl, ?_, fun early => absurd rfl early⟩
    intro call hcall
    simp only [List.mem_cons, List.mem_append, List.mem_map] at hcall
    rcases hcall with rfl | rfl | ⟨loan, -, rfl⟩ | rfl | ⟨m, -, rfl⟩ <;> rfl
  | lent _ _ pool base lent d' state held room same result => exact absurd rfl failed

end Device

/-- **Failed requests are atomic.**  If a request to a reachable instance completes with a status other
than success, it produced no bytes and left its output buffer, the instance, the bus and what the memory
manager lists as they were.  Unless resources were wanting, it did not make a single call. -/
theorem Reachable.failed_request_atomic {i i' : Instance} {caller : Caller} {request : IoRequest}
    {served : Served} (h : Reachable i)
    (answered : i.deviceControl caller request = .ok (served, i'))
    (failed : served.completion.status ≠ .success) :
    served.completion.information = 0
      ∧ served.output = request.output
      ∧ i'.device = i.device
      ∧ i'.platform.bus = i.platform.bus
      ∧ i'.platform.memory.allocations = i.platform.memory.allocations
      ∧ i'.platform.memory.registerMappings = i.platform.memory.registerMappings
      ∧ i'.platform.memory.processMappings = i.platform.memory.processMappings
      ∧ (served.completion.status ≠ .insufficientResources →
          i'.platform.calls = i.platform.calls) := by
  obtain ⟨calls, turn, effect⟩ := Instance.turn_of_deviceControl answered
  obtain ⟨⟨status, hserved⟩, device, quiet, early⟩ := turn.of_failed failed
  -- The lists go with the context, and the context is the same.
  have ledger : i'.platform.memory.ledger = i.platform.memory.ledger := by
    have before := h.balanced
    rw [effect.ledger, before.ledger, turn.replay_ledger before.orderly, device]
  refine ⟨by rw [hserved]; rfl, by rw [hserved]; rfl, device, effect.bus quiet,
    congrArg Ledger.allocations ledger, congrArg Ledger.registers ledger,
    congrArg Ledger.processes ledger, ?_⟩
  intro status'
  rw [effect.recorded, early status', List.append_nil]

/-- A card that is mapped while the second mapping into the process is refused. -/
theorem failed_request_atomic_card : ∃ i i' served, Reachable i
    ∧ i.deviceControl ⟨⟨7⟩, ⟨1⟩⟩ mapCard = .ok (served, i')
    ∧ served.completion.status = .insufficientResources ∧ i'.device = i.device
    ∧ i'.platform.memory.processMappings = i.platform.memory.processMappings := by
  have launched : ((Instance.launch? (Platform.start card .fresh)
      [.prepare card.resources, .refuseProcess 1]).any fun i =>
        match i.deviceControl ⟨⟨7⟩, ⟨1⟩⟩ mapCard with
        | .ok (served, _) => served.completion.status = .insufficientResources
        | .error _ => false) = true := by
    decide +kernel
  obtain ⟨start, events, i, attached, course, refused⟩ := course_of_launch rfl launched
  have reachable := reachable_iff_course.2 ⟨start, events, attached, course⟩
  split at refused
  · next served i' answered =>
    have status : served.completion.status = .insufficientResources := of_decide_eq_true refused
    obtain ⟨-, -, device, -, -, -, processes, -⟩ :=
      Reachable.failed_request_atomic reachable answered (by rw [status]; decide)
    exact ⟨i, i', served, reachable, answered, status, device, processes⟩
  · cases refused

end Passthrough
