import Passthrough.Discovery.Scan
import Passthrough.Proofs.Discovery.Channels
import Passthrough.Proofs.Segments.Attainable

/-!
# Passthrough — what the visit of a node can do

On a tree whose interfaces are those of drivers there is little that the visit of a node can do.  It may
open no handle; it may open one and close it again, whatever the reason; or it keeps the handle, and then
the driver has lent its pool and the pool has become a segment list.

* `Survey.Attempt`, `attempt_of_openNode` — the ways in which opening a node can end.
* `Survey.Visited`, `visited_of_visit` — the same for the visit of a node.
* `Survey.Walk`, `walk_of_visitAll` — visits one after the other.
-/

namespace Passthrough

/-- All interfaces of the tree are those of drivers. -/
def DeviceTree.OnDrivers (t : DeviceTree) : Prop :=
  ∀ node interface, t.interface? node = some interface → ∃ i, interface = .driver i

/-- A record whose function is not bound leaves no channel over. -/
theorem DeviceList.leftOver_insert {Channel : Type} {l : DeviceList Channel}
    {r : DeviceRecord Channel} (unbound : l.isBound r.address = false) :
    (l.insert r).leftOver = none := by
  obtain ⟨ds⟩ := l
  show (insertInto r ds).leftOver = none
  induction ds with
  | nil => rfl
  | cons d ds ih =>
    rw [insertInto]
    by_cases same : d.address = r.address
    · -- The newer channel is left over only where the older record has one.
      have idle : d.isBound = false := by simpa [isBound, get?, same] using unbound
      rw [if_pos same]
      unfold DeviceRecord.merge
      cases r.isBound <;> simp [idle]
    · rw [if_neg same]
      split
      · rfl
      · exact ih (by simpa [isBound, get?, same] using unbound)

/-- A pool of the size that drivers have becomes a list that spans it. -/
theorem MemConfig.exists_list_of_storePool {c c' : MemConfig} {pool : Region} {socket : Int32}
    {index : Nat} {log : List Message} (size : pool.size = poolSize)
    (h : c.storePool pool socket = .ok ⟨.ok index, c', log⟩) :
    c.list? index = none ∧ ∃ l : SegmentList, l.base = pool.user ∧ l.spanBytes = .ok poolSize
      ∧ ∀ j, c'.list? j = if j = index then some l else c.list? j := by
  obtain ⟨-, -, -, free, lists⟩ := stored_of_storePool h
  have pages : pagesOf pool = 65536 := by
    rw [pagesOf, size]
    decide
  have span : mulChecked pageSize (UInt64.ofNat 65536) = .ok poolSize :=
    mulChecked_eq_ok_iff.2 (by decide)
  refine ⟨free, listOf pool socket index, rfl, ?_, lists⟩
  rw [SegmentList.spanBytes, capacity_listOf, pages]
  exact span

namespace Survey

/-- The ways in which opening a node can end. -/
inductive Attempt (s : Survey) (address : FunctionAddress) :
    Except Skip (DeviceRecord Channel) → Survey → Prop where
  /-- No handle was opened. -/
  | missing (skip : Skip) (host : Host) (quiet : s.host.Quiet host) :
      Attempt s address (.error skip) { s with host }
  /-- A handle was opened and closed. -/
  | dropped (skip : Skip) (host : Host) (i : Nat) (d d' : HostedDriver)
      (moves : s.host.Moves i d d' host) (spares : d.Spares (· ≠ s.host.nextCaller) d')
      (handles : d'.handles = d.handles) (returned : d'.borrower? ≠ some s.host.nextCaller)
      (opened : host.opened = s.host.opened + 1)
      (closings : ∀ handle, host.closings handle
        = s.host.closings handle + if s.host.nextCaller.handle = handle then 1 else 0) :
      Attempt s address (.error skip) { s with host }
  /-- A handle was opened, and what was mapped through it is a segment list. -/
  | acquired (r : DeviceRecord Channel) (host : Host) (config : MemConfig) (i : Nat)
      (d d' : HostedDriver) (index : Nat) (l : SegmentList) (moves : s.host.Moves i d d' host)
      (spares : d.Spares (· ≠ s.host.nextCaller) d') (handles : d'.handles = d.handles + 1)
      (lends : d'.Lends s.host.nextCaller l.base poolSize)
      (opened : host.opened = s.host.opened + 1)
      (closings : ∀ handle, host.closings handle = s.host.closings handle)
      (named : r.address = address) (mapped : r.kernelDriver = .mapping)
      (channel : r.channel = some (.driver i s.host.nextCaller.handle))
      (free : s.config.list? index = none) (span : l.spanBytes = .ok poolSize)
      (stored : ∀ j, config.list? j = if j = index then some l else s.config.list? j)
      (fits : s.config.Fits → config.Fits) :
      Attempt s address (.ok r) { s with host, config }

namespace Attempt

variable {s s' : Survey} {address : FunctionAddress} {result : Except Skip (DeviceRecord Channel)}

theorem devices_eq (attempt : s.Attempt address result s') : s'.devices = s.devices := by
  cases attempt <;> rfl

theorem config_eq_of_error {skip : Skip} (attempt : s.Attempt address (.error skip) s') :
    s'.config = s.config := by
  cases attempt <;> rfl

theorem address_eq {r : DeviceRecord Channel} (attempt : s.Attempt address (.ok r) s') :
    r.address = address := by
  cases attempt
  assumption

/-- A table has room for what there is after an attempt. -/
theorem fits (attempt : s.Attempt address result s') (before : s.config.Fits) : s'.config.Fits := by
  cases attempt with
  | missing | dropped => exact before
  | acquired _ _ _ _ _ _ _ _ _ _ _ _ _ _ _ _ _ _ _ _ fits => exact fits before

theorem onward (attempt : s.Attempt address result s') (sound : s.host.Sound) :
    s.host.Onward s'.host := by
  cases attempt with
  | missing _ _ quiet => exact quiet.onward sound
  | dropped _ _ _ _ _ moves spares handles _ opened =>
    have spared := moves.spares sound spares (Nat.le_of_eq handles.symm)
    exact ⟨spared.sound, moves.process, by rw [opened]; exact Nat.le_succ _⟩
  | acquired _ _ _ _ _ _ _ _ moves spares handles _ opened =>
    have spared := moves.spares sound spares (by omega)
    exact ⟨spared.sound, moves.process, by rw [opened]; exact Nat.le_succ _⟩

end Attempt

/-- What becomes of a handle that was just opened. -/
theorem attempt_of_acquire {s s' : Survey} {host : Host} {i : Nat} {d d₁ : HostedDriver}
    {device : Device} {address : FunctionAddress} {id : HardwareId}
    {result : Except Skip (DeviceRecord Channel)} (first : s.host.Moves i d d₁ host)
    (spares₁ : d.Spares (· ≠ s.host.nextCaller) d₁) (held : d₁.held = true)
    (live : d₁.device = some device) (handles : d₁.handles = d.handles + 1)
    (opened : host.opened = s.host.opened + 1)
    (closings : ∀ handle, host.closings handle = s.host.closings handle)
    (h : ({ s with host } : Survey).acquire address id (.driver i s.host.nextCaller.handle)
      = .ok (result, s')) : s.Attempt address result s' := by
  have caller : (⟨host.process, s.host.nextCaller.handle⟩ : Caller) = s.host.nextCaller := by
    rw [first.process]
    rfl
  -- The request may lend the pool to the new handle.
  obtain ⟨⟨answer, host₂⟩, asked, h⟩ := Checked.bind_eq_ok_iff.1 h
  obtain ⟨d₂, second, spares₂, held₂, handles₂, opened₂, closings₂, lends⟩ :=
    Host.moves_of_mapHardware spares₁.sound first.getElem?_self live asked
  rw [caller] at spares₂ lends
  have spares := spares₁.trans spares₂
  -- Whatever goes wrong then, closing the handle undoes it.
  have dropped : ∀ host₃ skip, host₂.Quiet host₃ → s.Attempt address (.error skip)
      { s with host := host₃.closeChannel (.driver i s.host.nextCaller.handle) } := by
    intro host₃ skip quiet
    have told : host.Moves i d₁ d₂ host₃ :=
      ⟨quiet.process.trans second.process, second.there, quiet.drivers.trans second.drivers⟩
    obtain ⟨d₃, third, spares₃, returned, handles₃, opened₃, closings₃⟩ :=
      Host.moves_of_closeChannel spares₂.sound told.getElem?_self (held₂.trans held)
        s.host.nextCaller.handle
    rw [told.process, caller] at spares₃ returned
    refine .dropped skip _ i d d₃ ((first.trans told).trans third) (spares.trans spares₃) ?_ returned
      ?_ ?_
    · omega
    · rw [opened₃, quiet.opened, opened₂, opened]
    · intro handle
      rw [closings₃, quiet.closings, closings₂, closings]
  dsimp only at h
  cases answer with
  | error status =>
    cases h
    exact dropped _ _ ⟨rfl, rfl, rfl, fun _ => rfl⟩
  | ok info =>
    obtain ⟨⟨stored, config, log⟩, hstored, h⟩ := Checked.bind_eq_ok_iff.1 h
    cases stored with
    | error e =>
      cases h
      obtain rfl : config = s.config := MemConfig.config_of_storePool hstored rfl
      exact dropped _ _ (host₂.quiet_tell log)
    | ok index =>
      cases h
      have mapped := first.trans second
      obtain ⟨size, lends⟩ := lends info rfl
      obtain ⟨free, l, base, span, lists⟩ := MemConfig.exists_list_of_storePool size hstored
      rw [size, ← base] at lends
      exact .acquired _ _ config i d d₂ index l ⟨mapped.process, mapped.there, mapped.drivers⟩ spares
        (handles₂.trans handles) lends (opened₂.trans opened)
        (fun handle => (closings₂ handle).trans (closings handle)) rfl rfl rfl free span lists
        fun fits => fits.storePool hstored

theorem attempt_of_openNode {s s' : Survey} {tree : DeviceTree} {node : DeviceNode}
    {address : FunctionAddress} {id : HardwareId} {result : Except Skip (DeviceRecord Channel)}
    (sound : s.host.Sound) (driven : tree.OnDrivers)
    (h : s.openNode tree node address id = .ok (result, s')) : s.Attempt address result s' := by
  have sought := s.host.quiet_note (.interfaceSought node.id) fun _ => rfl
  unfold openNode at h
  dsimp only at h
  split at h
  · cases h
    exact .missing .noInterface _ sought
  · next channel host opened =>
    obtain ⟨interface, found, opened⟩ := Option.bind_eq_some_iff.1 opened
    obtain ⟨i, rfl⟩ := driven node interface found
    obtain ⟨d, device, there, held, live, rfl, hhost⟩ := Host.openInterface_driver opened
    -- The driver has one handle more, and nothing is lent through it yet.
    have first : s.host.Moves i d { d with handles := d.handles + 1 }.forget host := by
      rw [hhost]
      exact ⟨rfl, there, rfl⟩
    have spares : d.Spares (· ≠ s.host.nextCaller) { d with handles := d.handles + 1 }.forget :=
      HostedDriver.spares_of_same (sound.of_getElem? there) rfl rfl
    refine attempt_of_acquire first spares held live rfl ?_ ?_ h
    · rw [hhost]
      rfl
    · intro handle
      rw [hhost]
      exact (Host.closings_putDriver ..).trans (sought.closings handle)

/-! ## Visits -/

/-- What the visit of a node can do. -/
inductive Visited (s : Survey) : Bool → Survey → Prop where
  | passed (counts : Bool) (host : Host) (quiet : s.host.Quiet host) :
      Visited s counts { s with host }
  | skipped {address : FunctionAddress} {skip : Skip} {s' : Survey} (messages : List Message)
      (attempt : s.Attempt address (.error skip) s') :
      Visited s false { s' with host := s'.host.tell messages }
  | found {r : DeviceRecord Channel} {s' : Survey} (messages : List Message)
      (unbound : s.devices.isBound r.address = false) (attempt : s.Attempt r.address (.ok r) s') :
      Visited s true
        { s' with host := s'.host.tell messages, devices := (s.devices.insert r).list }

theorem visited_of_visit {s s' : Survey} {tree : DeviceTree} {node : DeviceNode} {counts : Bool}
    (sound : s.host.Sound) (driven : tree.OnDrivers)
    (h : s.visit tree node = .ok (counts, s')) : s.Visited counts s' := by
  unfold visit at h
  split at h
  · cases h
    exact .passed false _ (s.host.quiet_tell _)
  · next address id _ =>
    split at h
    · cases h
      exact .passed true _ (s.host.quiet_tell _)
    · next unbound =>
      obtain ⟨⟨result, s₁⟩, opened, h⟩ := Checked.bind_eq_ok_iff.1 h
      have attempt := attempt_of_openNode sound driven opened
      cases result with
      | error skip =>
        cases h
        exact .skipped _ attempt
      | ok r =>
        cases h
        -- The record is named after the node, so no channel is left over when it goes in.
        have named := attempt.address_eq
        rw [← named] at attempt unbound
        have unbound := Bool.eq_false_iff.2 unbound
        have leftOver := DeviceList.leftOver_insert unbound
        have found := Visited.found [foundMessage node r] unbound attempt
        dsimp only
        rw [attempt.devices_eq, leftOver]
        exact found

namespace Visited

variable {s s' : Survey} {counts : Bool}

/-- A node that does not count leaves the devices and their segment lists alone. -/
theorem unchanged (visited : s.Visited false s') :
    s'.devices = s.devices ∧ s'.config = s.config := by
  cases visited with
  | passed => exact ⟨rfl, rfl⟩
  | skipped messages attempt => exact ⟨attempt.devices_eq, attempt.config_eq_of_error⟩

theorem fits (visited : s.Visited counts s') (before : s.config.Fits) : s'.config.Fits := by
  cases visited with
  | passed => exact before
  | skipped messages attempt | found messages _ attempt => exact attempt.fits before

theorem sorted (visited : s.Visited counts s') (before : s.devices.Sorted) : s'.devices.Sorted := by
  cases visited with
  | passed => exact before
  | skipped messages attempt =>
    show DeviceList.Sorted _
    rw [attempt.devices_eq]
    exact before
  | found => exact DeviceList.sorted_insert before _

theorem onward (visited : s.Visited counts s') (sound : s.host.Sound) : s.host.Onward s'.host := by
  cases visited with
  | passed _ _ quiet => exact quiet.onward sound
  | skipped messages attempt | found messages _ attempt =>
    have onward := attempt.onward sound
    exact onward.trans ((Host.quiet_tell _ messages).onward onward.sound)

end Visited

/-! ## Scans -/

/-- Visits one after the other, and how many nodes count. -/
inductive Walk : Survey → Nat → Survey → Prop where
  | rest (s : Survey) : Walk s 0 s
  | step {s s₁ s' : Survey} {counts : Bool} {found : Nat} (visited : s.Visited counts s₁)
      (onward : Walk s₁ found s') : Walk s (found + counts.toNat) s'

namespace Walk

variable {s s₁ s' : Survey} {found more : Nat}

theorem trans (first : s.Walk found s₁) (second : s₁.Walk more s') : s.Walk (more + found) s' := by
  induction first with
  | rest => exact second
  | step visited _ ih =>
    rw [← Nat.add_assoc]
    exact .step visited (ih second)

/-- A walk that finds nothing leaves the devices and their segment lists alone. -/
theorem unchanged (walk : s.Walk 0 s') : s'.devices = s.devices ∧ s'.config = s.config := by
  generalize none_found : 0 = found at walk
  induction walk with
  | rest => exact ⟨rfl, rfl⟩
  | @step s s₁ s' counts found visited _ ih =>
    cases counts with
    | true => cases none_found
    | false =>
      obtain ⟨devices, config⟩ := ih none_found
      obtain ⟨devices', config'⟩ := visited.unchanged
      exact ⟨devices.trans devices', config.trans config'⟩

theorem fits (walk : s.Walk found s') (before : s.config.Fits) : s'.config.Fits := by
  induction walk with
  | rest => exact before
  | step visited _ ih => exact ih (visited.fits before)

/-- There is at most one record for each function, in the order of their addresses. -/
theorem sorted (walk : s.Walk found s') (before : s.devices.Sorted) : s'.devices.Sorted := by
  induction walk with
  | rest => exact before
  | step visited _ ih => exact ih (visited.sorted before)

theorem onward (walk : s.Walk found s') (sound : s.host.Sound) : s.host.Onward s'.host := by
  induction walk with
  | rest => exact ⟨sound, rfl, Nat.le_refl _⟩
  | step visited _ ih =>
    have first := visited.onward sound
    exact first.trans (ih first.sound)

end Walk

theorem walk_of_visitAll {s s' : Survey} {tree : DeviceTree} {nodes : List DeviceNode}
    {found : Nat} (sound : s.host.Sound) (driven : tree.OnDrivers)
    (h : s.visitAll tree nodes = .ok (found, s')) : s.Walk found s' := by
  induction nodes generalizing s found with
  | nil =>
    cases h
    exact .rest _
  | cons node nodes ih =>
    obtain ⟨⟨counts, s₁⟩, visit, h⟩ := Checked.bind_eq_ok_iff.1 h
    obtain ⟨⟨more, s₂⟩, onward, h⟩ := Checked.bind_eq_ok_iff.1 h
    cases h
    have visited := visited_of_visit sound driven visit
    exact .step visited (ih (visited.onward sound).sound onward)

/-- A scan is a walk, and one that fails finds nothing on it. -/
theorem walk_of_scan {s s' : Survey} {tree : DeviceTree} {classFilter : Option String}
    {result : Except ScanError Nat} (sound : s.host.Sound) (driven : tree.OnDrivers)
    (h : s.scan tree classFilter = .ok (result, s')) :
    ∃ found, s.Walk found s' ∧ ∀ e, result = .error e → found = 0 := by
  have listing : s.Walk 0 { s with host := s.host.note (.nodesListed classFilter) } :=
    .step (.passed false _ (s.host.quiet_note _ fun _ => rfl)) (.rest _)
  unfold scan at h
  dsimp only at h
  split at h
  · cases h
    exact ⟨0, listing, fun _ _ => rfl⟩
  · next nodes _ =>
    obtain ⟨⟨found, s₁⟩, visits, h⟩ := Checked.bind_eq_ok_iff.1 h
    have walk := walk_of_visitAll (listing.onward sound).sound driven visits
    cases h
    have saying : s₁.Walk 0 (s₁.say .info ("PCI scan found " ++ toString found ++ " devices")) :=
      .step (.passed false _ (s₁.host.quiet_tell _)) (.rest _)
    refine ⟨_, (listing.trans walk).trans saying, ?_⟩
    intro e failed
    split at failed
    · next nothing =>
      have nothing : found = 0 := nothing
      omega
    · cases failed

end Survey

end Passthrough
