import Passthrough.Proofs.Driver.Turn

/-!
# Passthrough — courses of a driver instance

A course is a run looked at step by step: what happened, what it answered, and which calls it made on
the platform.

* `Attached` — where every course of interest starts: a successful attach on a fresh memory manager.
* `Course start events i` — `events` lead from `start` to `i`; each of them is a turn with the calls it
  lists (`Instance.turn_of_recorded`).
* `reachable_iff_course` — the reachable instances are those that courses from an attach lead to, and
  `course_of_launch` finds courses by computation.
-/

namespace Passthrough

open Platform (Effect)

/-- One step of a course. -/
structure Event where
  operation : Operation
  outcome : Outcome
  /-- The calls made on the platform, in order. -/
  calls : List PlatformCall

/-- The instance has just been attached, on a platform with a fresh memory manager. -/
def Attached (start : Instance) : Prop :=
  ∃ (bus : BusFunction) (memory : KernelMemory), memory.ledger = ⟨[], [], []⟩
    ∧ Instance.attach (Platform.start bus memory) = .ok (.ok start.device, start.platform)

/-- The events lead from `start` to an instance, one after the other. -/
inductive Course (start : Instance) : List Event → Instance → Prop where
  | rest : Course start [] start
  | step {events : List Event} {i i' : Instance} {operation : Operation} {outcome : Outcome}
      {calls : List PlatformCall} (before : Course start events i)
      (stepped : i.step operation = .ok (outcome, i'))
      (recorded : i'.platform.calls = i.platform.calls ++ calls) :
      Course start (events ++ [⟨operation, outcome, calls⟩]) i'

namespace Instance

/-- A step and what it added to the record are a turn. -/
theorem turn_of_recorded {i i' : Instance} {operation : Operation} {outcome : Outcome}
    {calls : List PlatformCall} (stepped : i.step operation = .ok (outcome, i'))
    (recorded : i'.platform.calls = i.platform.calls ++ calls) :
    i.device.Turn operation outcome calls i'.device
      ∧ Effect (i.platform.adjust operation) calls i'.platform := by
  obtain ⟨calls', turn, effect⟩ := turn_of_step stepped
  -- The record determines the calls: both lists are what it gained.
  have hcalls : i.platform.calls ++ calls' = i.platform.calls ++ calls := by
    rw [← recorded, effect.recorded, Platform.calls_adjust]
  cases List.append_cancel_left hcalls
  exact ⟨turn, effect⟩

/-- Every step adds something to the record and takes nothing away. -/
theorem exists_recorded {i i' : Instance} {operation : Operation} {outcome : Outcome}
    (stepped : i.step operation = .ok (outcome, i')) :
    ∃ calls, i'.platform.calls = i.platform.calls ++ calls := by
  obtain ⟨calls, -, effect⟩ := turn_of_step stepped
  refine ⟨calls, ?_⟩
  rw [effect.recorded, Platform.calls_adjust]

end Instance

namespace Course

variable {start middle i : Instance} {events later : List Event}

theorem trans (first : Course start events middle) (second : Course middle later i) :
    Course start (events ++ later) i := by
  induction second with
  | rest =>
    rw [List.append_nil]
    exact first
  | step _ stepped recorded ih =>
    rw [← List.append_assoc]
    exact ih.step stepped recorded

/-- The record of the platform is what the events list. -/
theorem calls_eq (course : Course start events i) :
    i.platform.calls = start.platform.calls ++ events.flatMap Event.calls := by
  induction course with
  | rest => simp
  | step _ _ recorded ih => rw [recorded, ih]; simp

end Course

theorem course_of_run {i i' : Instance} {operations : List Operation}
    (h : i.run operations = .ok i') :
    ∃ events, Course i events i' ∧ events.map Event.operation = operations := by
  induction operations generalizing i with
  | nil =>
    cases h
    exact ⟨[], .rest, rfl⟩
  | cons operation operations ih =>
    obtain ⟨⟨outcome, i₁⟩, stepped, h⟩ := Checked.bind_eq_ok_iff.1 h
    obtain ⟨calls, recorded⟩ := Instance.exists_recorded stepped
    obtain ⟨events, after, hevents⟩ := ih h
    refine ⟨⟨operation, outcome, calls⟩ :: events, ?_, by rw [List.map_cons, hevents]⟩
    exact (Course.rest.step stepped recorded).trans after

/-- **What is reachable.**  Courses from an attach lead to the reachable instances and to no others. -/
theorem reachable_iff_course {i : Instance} :
    Reachable i ↔ ∃ start events, Attached start ∧ Course start events i := by
  constructor
  · intro h
    induction h with
    | attach fresh attached =>
      exact ⟨_, [], ⟨_, _, Ledger.ext fresh.1 fresh.2.1 fresh.2.2, attached⟩, .rest⟩
    | step _ stepped ih =>
      obtain ⟨start, events, attached, course⟩ := ih
      obtain ⟨calls, recorded⟩ := Instance.exists_recorded stepped
      exact ⟨start, _, attached, course.step stepped recorded⟩
  · rintro ⟨start, events, ⟨bus, memory, fresh, attached⟩, course⟩
    induction course with
    | rest =>
      exact .attach ⟨congrArg Ledger.allocations fresh, congrArg Ledger.registers fresh,
        congrArg Ledger.processes fresh⟩ attached
    | step _ stepped _ ih => exact ih.step stepped

/-! ## Courses by computation -/

namespace Instance

/-- The instance that a run from an attach leads to, if the attach succeeds and nothing faults. -/
def launch? (p : Platform) (operations : List Operation) : Option Instance :=
  match attach p with
  | .ok (.ok device, p) => (run ⟨device, p⟩ operations).toOption
  | _ => none

end Instance

/-- A launch that ends in an instance that passes a test starts with an attach and goes on as a course. -/
theorem attach_of_launch {bus : BusFunction} {memory : KernelMemory} {operations : List Operation}
    {test : Instance → Bool}
    (h : (Instance.launch? (Platform.start bus memory) operations).any test = true) :
    ∃ start events i,
      Instance.attach (Platform.start bus memory) = .ok (.ok start.device, start.platform)
        ∧ Course start events i ∧ test i = true := by
  obtain ⟨i, h, passed⟩ := (Option.any_eq_true _ _).1 h
  unfold Instance.launch? at h
  split at h
  · next device p attached =>
    have run : Instance.run ⟨device, p⟩ operations = .ok i := by
      cases hrun : Instance.run ⟨device, p⟩ operations with
      | error fault =>
        rw [hrun] at h
        cases h
      | ok i' =>
        rw [hrun] at h
        cases h
        rfl
    obtain ⟨events, course, -⟩ := course_of_run run
    exact ⟨⟨device, p⟩, events, i, attached, course, passed⟩
  · cases h

theorem course_of_launch {bus : BusFunction} {memory : KernelMemory} {operations : List Operation}
    {test : Instance → Bool} (fresh : memory.ledger = ⟨[], [], []⟩)
    (h : (Instance.launch? (Platform.start bus memory) operations).any test = true) :
    ∃ start events i, Attached start ∧ Course start events i ∧ test i = true := by
  obtain ⟨start, events, i, attached, course, passed⟩ := attach_of_launch h
  exact ⟨start, events, i, ⟨bus, memory, fresh, attached⟩, course, passed⟩

/-- A network card, for courses that are computed. -/
def card : BusFunction := .networkCard 3 0 0

def mapCard : IoRequest :=
  ⟨RequestKind.mapHardware.controlCode, (HardwareInfo.request ⟨3, 0, 0⟩ 0).encode,
    List.replicate HardwareInfo.size 0⟩

end Passthrough
