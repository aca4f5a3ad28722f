import Passthrough.Proofs.Discovery.Visits

/-!
# Passthrough — what a scan without a find leaves behind

A node that does not lead to a device may cost a handle, which is open for a while and may borrow the pool
of its driver.  Closing it ends the loan, and nobody else notices.  The closes add up: after a scan that
finds nothing, every handle that it opened was closed once and has borrowed nothing.

* `Host.Ready` — no handle that is still to be opened was ever used.
* `Host.New` — the handles that were opened from one host to a later one.
* `Host.Restored` — the later host is the earlier one but for handles that are closed again.
* `Survey.Walk.restored`, `Survey.Walk.ready` — what walks preserve.
-/

namespace Passthrough

/-! ## Fewer callers, and one change after the other -/

theorem HostedDriver.Spares.mono {callers fewer : Caller → Prop} {d d' : HostedDriver}
    (spares : d.Spares callers d') (among : ∀ caller, fewer caller → callers caller) :
    d.Spares fewer d' where
  sound := spares.sound
  lends caller base size asked := spares.lends caller base size (among caller asked)
  borrowed caller asked := spares.borrowed caller (among caller asked)

namespace Host

variable {callers fewer : Caller → Prop} {h h' h'' : Host}

theorem Spares.mono (spares : h.Spares callers h') (among : ∀ caller, fewer caller → callers caller) :
    h.Spares fewer h' where
  process := spares.process
  sound := spares.sound
  kept i d there := by
    obtain ⟨d', there', spared, handles⟩ := spares.kept i d there
    exact ⟨d', there', spared.mono among, handles⟩
  borrowed i d' caller there asked := spares.borrowed i d' caller there (among caller asked)

theorem Spares.trans (first : h.Spares callers h') (second : h'.Spares callers h'') :
    h.Spares callers h'' where
  process := second.process.trans first.process
  sound := second.sound
  kept i d there := by
    obtain ⟨d', there', spared, handles⟩ := first.kept i d there
    obtain ⟨d'', there'', spared', handles'⟩ := second.kept i d' there'
    exact ⟨d'', there'', spared.trans spared', Nat.le_trans handles handles'⟩
  borrowed i d'' caller there asked borrowed := by
    obtain ⟨d', there', borrowed'⟩ := second.borrowed i d'' caller there asked borrowed
    exact first.borrowed i d' caller there' asked borrowed'

/-! ## Handles that were opened and handles that will be -/

/-- The books balance, and nothing was done with the handles that the process will open. -/
structure Ready (h : Host) : Prop where
  sound : h.Sound
  unlent : ∀ d ∈ h.drivers, ∀ k, h.opened < k → k < UInt64.size →
    d.borrower? ≠ some ⟨h.process, .nth k⟩
  unclosed : ∀ k, h.opened < k → k < UInt64.size → h.closings (.nth k) = 0

/-- The process opened the handle on the way from `h` to `h'`. -/
def New (h h' : Host) (handle : HandleId) : Prop :=
  ∃ k, h.opened < k ∧ k ≤ h'.opened ∧ handle = .nth k

/-- From `h` to `h'` handles were opened and closed, each of them once, and nothing else was done: what
others have borrowed they still have, and what the handles have borrowed was given back. -/
structure Restored (h h' : Host) : Prop where
  onward : h.Onward h'
  spares : h.Spares (fun caller => ¬(caller.process = h.process ∧ h.New h' caller.handle)) h'
  handles : ∀ (i : Nat) (d d' : HostedDriver), h.drivers[i]? = some d → h'.drivers[i]? = some d' →
    d'.handles = d.handles
  closed : ∀ handle, h.New h' handle → h'.closings handle = h.closings handle + 1
  others : ∀ handle, ¬h.New h' handle → h'.closings handle = h.closings handle
  returned : ∀ d ∈ h'.drivers, ∀ handle, h.New h' handle →
    d.borrower? ≠ some ⟨h.process, handle⟩

theorem not_new_of_eq (same : h'.opened = h.opened) (handle : HandleId) : ¬h.New h' handle := by
  rintro ⟨k, later, opened, -⟩
  omega

theorem new_iff_eq (next : h'.opened = h.opened + 1) {handle : HandleId} :
    h.New h' handle ↔ handle = h.nextCaller.handle := by
  constructor
  · rintro ⟨k, later, opened, rfl⟩
    obtain rfl : k = h.opened + 1 := by omega
    rfl
  · rintro rfl
    exact ⟨h.opened + 1, Nat.lt_succ_self _, Nat.le_of_eq next.symm, rfl⟩

/-- A handle was opened in the second part of a way, or in the first. -/
theorem new_trans_iff (first : h.opened ≤ h'.opened) (second : h'.opened ≤ h''.opened)
    {handle : HandleId} : h.New h'' handle ↔ h.New h' handle ∨ h'.New h'' handle := by
  constructor
  · rintro ⟨k, later, opened, rfl⟩
    by_cases before : k ≤ h'.opened
    · exact .inl ⟨k, later, before, rfl⟩
    · exact .inr ⟨k, Nat.lt_of_not_le before, opened, rfl⟩
  · rintro (⟨k, later, opened, rfl⟩ | ⟨k, later, opened, rfl⟩)
    · exact ⟨k, later, Nat.le_trans opened second, rfl⟩
    · exact ⟨k, Nat.lt_of_le_of_lt first later, opened, rfl⟩

/-- As long as handles do not run out, none is opened in both parts. -/
theorem New.not_later {handle : HandleId} (new : h.New h' handle) (room : h''.opened < UInt64.size)
    (onward : h'.opened ≤ h''.opened) : ¬h'.New h'' handle := by
  obtain ⟨k, -, opened, rfl⟩ := new
  rintro ⟨j, later, opened', same⟩
  have equal := HandleId.nth_inj (by omega) (by omega) same
  omega

/-! ## Steps -/

theorem Ready.quiet (ready : h.Ready) (quiet : h.Quiet h') : h'.Ready where
  sound := (quiet.onward ready.sound).sound
  unlent := by
    rw [quiet.drivers, quiet.process, quiet.opened]
    exact ready.unlent
  unclosed k later room := by
    rw [quiet.closings]
    exact ready.unclosed k (by rwa [← quiet.opened]) room

/-- A handle is opened, and whatever is done with it, is done with no other that is new. -/
theorem Ready.opened (ready : h.Ready) {i : Nat} {d d' : HostedDriver} (moves : h.Moves i d d' h')
    (spares : d.Spares (· ≠ h.nextCaller) d') (handles : d.handles ≤ d'.handles)
    (opened : h'.opened = h.opened + 1)
    (closings : ∀ handle, handle ≠ h.nextCaller.handle → h'.closings handle = h.closings handle) :
    h'.Ready where
  sound := (moves.spares ready.sound spares handles).sound
  unlent := by
    intro e there k later room borrowed
    have other := h.ne_nextCaller room (by omega) (Nat.le_refl k) (by omega)
    rw [moves.process] at borrowed
    obtain ⟨j, there⟩ := List.mem_iff_getElem?.1 there
    obtain ⟨e', there', borrowed'⟩ :=
      (moves.spares ready.sound spares handles).borrowed j e _ there other borrowed
    exact ready.unlent e' (List.mem_of_getElem? there') k (by omega) room borrowed'
  unclosed := by
    intro k later room
    rw [closings]
    · exact ready.unclosed k (by omega) room
    · intro same
      have equal := HandleId.nth_inj room (by omega) same
      omega

namespace Restored

theorem of_quiet (sound : h.Sound) (quiet : h.Quiet h') : h.Restored h' where
  onward := quiet.onward sound
  spares := sound.spares_of_drivers quiet.process quiet.drivers
  handles i d d' there there' := by
    rw [quiet.drivers] at there'
    cases there.symm.trans there'
    rfl
  closed handle new := absurd new (not_new_of_eq quiet.opened handle)
  others handle _ := quiet.closings handle
  returned _ _ handle new := absurd new (not_new_of_eq quiet.opened handle)

theorem refl (sound : h.Sound) : h.Restored h := of_quiet sound ⟨rfl, rfl, rfl, fun _ => rfl⟩

/-- A handle is opened and closed. -/
theorem of_closed (ready : h.Ready) {i : Nat} {d d' : HostedDriver} (moves : h.Moves i d d' h')
    (spares : d.Spares (· ≠ h.nextCaller) d') (handles : d'.handles = d.handles)
    (returned : d'.borrower? ≠ some h.nextCaller) (opened : h'.opened = h.opened + 1)
    (room : h'.opened < UInt64.size)
    (closings : ∀ handle, h'.closings handle
      = h.closings handle + if h.nextCaller.handle = handle then 1 else 0) : h.Restored h' where
  onward := by
    have spared := moves.spares ready.sound spares (Nat.le_of_eq handles.symm)
    exact ⟨spared.sound, moves.process, by omega⟩
  spares := by
    refine (moves.spares ready.sound spares (Nat.le_of_eq handles.symm)).mono ?_
    rintro _ other rfl
    exact other ⟨rfl, (new_iff_eq opened).2 rfl⟩
  handles := by
    intro j e e' there there'
    by_cases same : j = i
    · subst same
      cases moves.there.symm.trans there
      cases moves.getElem?_self.symm.trans there'
      exact handles
    · rw [moves.getElem?_ne same] at there'
      cases there.symm.trans there'
      rfl
  closed := by
    intro handle new
    rw [closings, if_pos ((new_iff_eq opened).1 new).symm]
  others := by
    intro handle old
    rw [closings, if_neg fun same => old ((new_iff_eq opened).2 same.symm), Nat.add_zero]
  returned := by
    intro e there handle new
    obtain rfl := (new_iff_eq opened).1 new
    obtain ⟨j, there⟩ := List.mem_iff_getElem?.1 there
    by_cases same : j = i
    · subst same
      cases moves.getElem?_self.symm.trans there
      exact returned
    · -- The other drivers have not met the handle.
      rw [moves.getElem?_ne same] at there
      exact ready.unlent e (List.mem_of_getElem? there) _ (Nat.lt_succ_self _) (by omega)

/-- What is restored twice is restored: the handles of the two parts are different ones. -/
theorem trans (first : h.Restored h') (second : h'.Restored h'') (room : h''.opened < UInt64.size) :
    h.Restored h'' := by
  have le := first.onward.opened
  have le' := second.onward.opened
  have process := first.onward.process
  have parts {handle : HandleId} : h.New h'' handle ↔ h.New h' handle ∨ h'.New h'' handle :=
    new_trans_iff le le'
  constructor
  case onward => exact first.onward.trans second.onward
  case spares =>
    refine (first.spares.mono ?_).trans (second.spares.mono ?_)
    · rintro caller other ⟨same, new⟩
      exact other ⟨same, parts.2 (.inl new)⟩
    · rintro caller other ⟨same, new⟩
      exact other ⟨same.trans process, parts.2 (.inr new)⟩
  case handles =>
    intro i d d'' there there''
    obtain ⟨d', there', -⟩ := first.spares.kept i d there
    exact (second.handles i d' d'' there' there'').trans (first.handles i d d' there there')
  case closed =>
    intro handle new
    rcases parts.1 new with new | new
    · rw [second.others handle (new.not_later room le'), first.closed handle new]
    · have old : ¬h.New h' handle := fun before => before.not_later room le' new
      rw [second.closed handle new, first.others handle old]
  case others =>
    intro handle old
    obtain ⟨before, later⟩ := not_or.1 (mt parts.2 old)
    rw [second.others handle later, first.others handle before]
  case returned =>
    intro d there handle new borrowed
    rw [← process] at borrowed
    by_cases later : h'.New h'' handle
    · exact second.returned d there handle later borrowed
    · -- The handle is one of the first part, and has not got anything since.
      have new := (parts.1 new).resolve_right later
      obtain ⟨i, there⟩ := List.mem_iff_getElem?.1 there
      obtain ⟨d', there', borrowed'⟩ :=
        second.spares.borrowed i d _ there (fun other => later other.2) borrowed
      rw [process] at borrowed'
      exact first.returned d' (List.mem_of_getElem? there') handle new borrowed'

end Restored

end Host

/-! ## Walks -/

namespace Survey

variable {s s' : Survey}

theorem Attempt.ready {address : FunctionAddress} {result : Except Skip (DeviceRecord Channel)}
    (attempt : s.Attempt address result s') (ready : s.host.Ready) : s'.host.Ready := by
  cases attempt with
  | missing _ _ quiet => exact ready.quiet quiet
  | dropped _ _ _ _ _ moves spares handles _ opened closings =>
    refine ready.opened moves spares (Nat.le_of_eq handles.symm) opened ?_
    intro handle other
    rw [closings, if_neg (Ne.symm other), Nat.add_zero]
  | acquired _ _ _ _ _ _ _ _ moves spares handles _ opened closings =>
    exact ready.opened moves spares (by omega) opened fun handle _ => closings handle

theorem Attempt.restored {address : FunctionAddress} {skip : Skip}
    (attempt : s.Attempt address (.error skip) s') (ready : s.host.Ready)
    (room : s'.host.opened < UInt64.size) : s.host.Restored s'.host := by
  cases attempt with
  | missing _ _ quiet => exact .of_quiet ready.sound quiet
  | dropped _ _ _ _ _ moves spares handles returned opened closings =>
    exact .of_closed ready moves spares handles returned opened room closings

theorem Visited.ready {counts : Bool} (visited : s.Visited counts s') (ready : s.host.Ready) :
    s'.host.Ready := by
  cases visited with
  | passed _ _ quiet => exact ready.quiet quiet
  | skipped messages attempt | found messages _ attempt =>
    exact (attempt.ready ready).quiet (Host.quiet_tell _ messages)

/-- A node that does not count leaves no trace but a handle that is closed, if one was opened. -/
theorem Visited.restored (visited : s.Visited false s') (ready : s.host.Ready)
    (room : s'.host.opened < UInt64.size) : s.host.Restored s'.host := by
  cases visited with
  | passed _ _ quiet => exact .of_quiet ready.sound quiet
  | skipped messages attempt =>
    have after := attempt.ready ready
    exact (attempt.restored ready room).trans
      (.of_quiet after.sound (Host.quiet_tell _ messages)) room

theorem Walk.ready {found : Nat} (walk : s.Walk found s') (ready : s.host.Ready) :
    s'.host.Ready := by
  induction walk with
  | rest => exact ready
  | step visited _ ih => exact ih (visited.ready ready)

/-- **A walk that finds nothing restores the host.** -/
theorem Walk.restored (walk : s.Walk 0 s') (ready : s.host.Ready)
    (room : s'.host.opened < UInt64.size) : s.host.Restored s'.host := by
  generalize none_found : 0 = found at walk
  induction walk with
  | rest => exact .refl ready.sound
  | @step s s₁ s' counts found visited onward ih =>
    cases counts with
    | true => cases none_found
    | false =>
      have after := visited.ready ready
      have le := (onward.onward after.sound).opened
      have first := visited.restored ready (Nat.lt_of_le_of_lt le room)
      exact first.trans (ih after room none_found) room

end Survey

end Passthrough
