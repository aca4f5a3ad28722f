import Passthrough.Proofs.Discovery.Backing
import Passthrough.Proofs.Discovery.Renumbered

/-!
# Passthrough — handles in use

A handle is in use while a driver lends to it or a record holds it.  The process numbers its handles as it
opens them, so those that come next are not in use.

* `Survey.Opening` — how an attempt to open a node ends.
* `Survey.Uses`, `Survey.Fresh` — the handles in use, and that they are not the next ones.
* `Survey.opens_of_visit` — a visit opens at most one handle, and brings no other into use.
* `Survey.Alike.extend` — between surveys that are alike, the numbers that come next fit.
-/

namespace Passthrough

variable {process : ProcessId} {σ τ : Equiv.Perm HandleId}

/-! ## Who gains -/

/-- The channel belongs to the handle of the caller. -/
def Channel.IsOf (channel : Channel) (caller : Caller) : Prop := ∃ i, channel = .driver i caller.handle

/-- Of the callers only those in question may borrow from the driver what they had not before. -/
def HostedDriver.Gains (callers : Caller → Prop) (d e : HostedDriver) : Prop :=
  ∀ caller, e.borrower? = some caller → callers caller ∨ d.borrower? = some caller

namespace HostedDriver

variable {callers : Caller → Prop} {d e : HostedDriver}

theorem gains_of_control {caller : Caller} {request : IoRequest} {served : Served}
    (done : d.control caller request = .ok (served, e)) : d.Gains (· = caller) e := by
  intro other borrowed
  cases live : d.device with
  | none =>
    unfold control instance? at done
    rw [live] at done
    cases done
    exact .inr borrowed
  | some device =>
    obtain ⟨j, answered, rfl⟩ := control_eq_ok live done
    obtain ⟨calls, turn, -⟩ := Instance.turn_of_deviceControl answered
    obtain ⟨_, user, ⟨⟩, lent, rfl⟩ := borrower?_eq_some_iff.1 borrowed
    rcases turn.loan_before lent with before | ⟨-, request', asked⟩
    · exact .inr (borrower?_eq_some_iff.2 ⟨device, user, live, before, rfl⟩)
    · cases asked
      exact .inl rfl

theorem gains_cleanUp (d : HostedDriver) (caller : Caller) :
    d.Gains (fun _ => False) (d.cleanUp caller).2 := by
  intro other borrowed
  rw [cleanUp_eq] at borrowed
  cases live : d.device with
  | none =>
    simp only [live] at borrowed
    exact .inr borrowed
  | some device =>
    simp only [live] at borrowed
    obtain ⟨calls, turn, -⟩ := (⟨device, d.platform⟩ : Instance).turn_of_cleanUp caller
    obtain ⟨_, user, ⟨⟩, lent, rfl⟩ := borrower?_eq_some_iff.1 borrowed
    rcases turn.loan_before lent with before | ⟨-, request, asked⟩
    · exact .inr (borrower?_eq_some_iff.2 ⟨device, user, live, before, rfl⟩)
    · cases asked

theorem gains_dropHandle (d : HostedDriver) : d.Gains (fun _ => False) d.dropHandle := by
  intro other borrowed
  refine .inr ?_
  unfold dropHandle collect at borrowed
  split at borrowed
  · exact borrowed
  · split at borrowed
    · exact borrowed
    · cases borrowed

end HostedDriver

namespace Host

/-- The process opened nothing, and of the callers only those in question may have borrowed something. -/
structure Gains (callers : Caller → Prop) (h h' : Host) : Prop where
  process : h'.process = h.process
  opened : h'.opened = h.opened
  borrowed : ∀ e ∈ h'.drivers, ∀ caller, e.borrower? = some caller →
    callers caller ∨ ∃ d ∈ h.drivers, d.borrower? = some caller

variable {callers : Caller → Prop} {h h' h'' : Host}

theorem gains_of_drivers (process : h'.process = h.process) (opened : h'.opened = h.opened)
    (drivers : h'.drivers = h.drivers) : h.Gains callers h' :=
  ⟨process, opened, fun e he _ borrowed => .inr ⟨e, by rwa [← drivers], borrowed⟩⟩

theorem Gains.trans (first : h.Gains callers h') (second : h'.Gains callers h'') :
    h.Gains callers h'' where
  process := second.process.trans first.process
  opened := second.opened.trans first.opened
  borrowed e he caller borrowed := by
    rcases second.borrowed e he caller borrowed with asked | ⟨d, hd, borrowed'⟩
    · exact .inl asked
    · exact first.borrowed d hd caller borrowed'

theorem gains_putDriver {i : Nat} {d e : HostedDriver} (there : h.drivers[i]? = some d)
    (gains : d.Gains callers e) : h.Gains callers (h.putDriver i e) where
  process := rfl
  opened := rfl
  borrowed e' he' caller borrowed := by
    rcases List.mem_or_eq_of_mem_set he' with he' | rfl
    · exact .inr ⟨e', he', borrowed⟩
    · exact (gains caller borrowed).imp id fun before => ⟨d, List.mem_of_getElem? there, before⟩

theorem gains_of_control {channel : Channel} {code : ControlCode} {input : Bytes} {outputSize : Nat}
    {answer : Except Status (Nat × Bytes)}
    (sent : h.control channel code input outputSize = .ok (answer, h')) :
    h.Gains channel.IsOf h' := by
  cases channel with
  | standIn s =>
    cases sent
    exact gains_of_drivers rfl rfl rfl
  | driver i handle =>
    obtain ⟨⟨served, h₁⟩, done, sent⟩ := Checked.bind_eq_ok_iff.1 sent
    have same : h' = h₁ := by
      dsimp only at sent
      split at sent <;> cases sent <;> rfl
    rw [same]
    rcases withDriver_eq_ok done with ⟨-, rfl, -⟩ | ⟨d, a, e, there, operated, -, rfl⟩
    · exact gains_of_drivers rfl rfl rfl
    · refine gains_putDriver there fun caller borrowed => ?_
      refine (HostedDriver.gains_of_control operated caller borrowed).imp ?_ id
      rintro rfl
      exact ⟨i, rfl⟩

theorem gains_of_mapHardware {channel : Channel} {address : RequestAddress} {deviceId : UInt16}
    {answer : Except Status HardwareInfo}
    (sent : h.mapHardware channel address deviceId = .ok (answer, h')) : h.Gains channel.IsOf h' := by
  obtain ⟨⟨response, h₁⟩, requested, sent⟩ := Checked.bind_eq_ok_iff.1 sent
  obtain ⟨⟨result, h₂⟩, controlled, requested⟩ := Checked.bind_eq_ok_iff.1 requested
  have gains := gains_of_control controlled
  have same : h' = h₁ := by
    dsimp only at sent
    split at sent <;> cases sent <;> rfl
  rw [same]
  dsimp only at requested
  split at requested <;> cases requested <;> exact ⟨gains.process, gains.opened, gains.borrowed⟩

theorem gains_closeChannel (h : Host) (channel : Channel) :
    h.Gains callers (h.closeChannel channel) := by
  cases channel with
  | standIn s => exact gains_of_drivers rfl rfl rfl
  | driver i handle =>
    cases there : h.drivers[i]? with
    | none =>
      simp only [closeChannel, there]
      exact gains_of_drivers rfl rfl rfl
    | some d =>
      simp only [closeChannel, there]
      have cleaned := d.gains_cleanUp ⟨h.process, handle⟩
      generalize d.cleanUp ⟨h.process, handle⟩ = cleaning at cleaned ⊢
      obtain ⟨answer, e⟩ := cleaning
      have put : h.Gains callers (h.putDriver i e) :=
        gains_putDriver there fun caller borrowed => (cleaned caller borrowed).imp False.elim id
      have noted : (h.putDriver i e).Gains callers
          ((h.putDriver i e).note (.handleClosed handle answer)) := gains_of_drivers rfl rfl rfl
      refine (put.trans noted).trans (gains_putDriver (d := e.forget) ?_ ?_)
      · exact List.getElem?_set_self (List.getElem?_eq_some_iff.1 there).1
      · exact fun caller borrowed => (e.forget.gains_dropHandle caller borrowed).imp False.elim id

/-- The callers in question are those of a handle that was opened, if one was, and only they may have
borrowed something. -/
structure Opens (callers : Caller → Prop) (h h' : Host) : Prop where
  process : h'.process = h.process
  opened : h'.opened = h.opened ∧ (∀ caller, ¬ callers caller)
    ∨ h'.opened = h.opened + 1 ∧ ∀ caller, callers caller → caller.handle = .nth h'.opened
  borrowed : ∀ e ∈ h'.drivers, ∀ caller, e.borrower? = some caller →
    callers caller ∨ ∃ d ∈ h.drivers, d.borrower? = some caller

theorem Opens.gains (opens : h.Opens callers h') (gains : h'.Gains callers h'') :
    h.Opens callers h'' where
  process := gains.process.trans opens.process
  opened := by
    rw [gains.opened]
    exact opens.opened
  borrowed e he caller borrowed := by
    rcases gains.borrowed e he caller borrowed with asked | ⟨d, hd, borrowed'⟩
    · exact .inl asked
    · exact opens.borrowed d hd caller borrowed'

theorem opens_of_drivers (process : h'.process = h.process) (opened : h'.opened = h.opened)
    (drivers : h'.drivers = h.drivers) : h.Opens (fun _ => False) h' :=
  ⟨process, .inl ⟨opened, fun _ => id⟩, fun e he _ borrowed => .inr ⟨e, by rwa [← drivers], borrowed⟩⟩

theorem opens_of_openInterface {interface : Interface} {channel : Channel}
    (opens : h.openInterface interface = some (channel, h')) : h.Opens channel.IsOf h' := by
  cases interface with
  | standIn s =>
    cases opens
    refine ⟨rfl, .inl ⟨rfl, ?_⟩, fun e he _ borrowed => .inr ⟨e, he, borrowed⟩⟩
    rintro caller ⟨i, ⟨⟩⟩
  | driver i =>
    obtain ⟨d, device, there, held, live, rfl, rfl⟩ := openInterface_driver opens
    have put : h.Gains (Channel.driver i (.nth (h.opened + 1))).IsOf
        (h.putDriver i { d with handles := d.handles + 1 }) :=
      gains_putDriver there fun caller borrowed => .inr borrowed
    refine ⟨rfl, .inr ⟨rfl, ?_⟩, put.borrowed⟩
    rintro ⟨_, handle⟩ ⟨j, ⟨⟩⟩
    rfl

end Host

/-- A record that is inserted brings its channel, and no other. -/
theorem DeviceList.channel_of_mem_insert {Channel : Type} {l : DeviceList Channel}
    {r d : DeviceRecord Channel} (member : d ∈ (l.insert r).list.records) :
    d.channel = r.channel ∨ ∃ e ∈ l.records, d.channel = e.channel := by
  obtain ⟨ds⟩ := l
  have merged (e : DeviceRecord Channel) :
      (e.merge r).1.channel = r.channel ∨ (e.merge r).1.channel = e.channel := by
    obtain ⟨_, _, _, _, _, _, _, older⟩ := e
    obtain ⟨_, _, _, _, _, _, _, newer⟩ := r
    cases older <;> cases newer <;> simp [DeviceRecord.merge, DeviceRecord.isBound]
  have inserted : d ∈ (insertInto r ds).list.records := member
  show _ ∨ ∃ e ∈ ds, _
  induction ds with
  | nil =>
    rw [List.mem_singleton.1 inserted]
    exact .inl rfl
  | cons e ds ih =>
    rw [insertInto] at inserted
    split at inserted
    · rcases List.mem_cons.1 inserted with rfl | inserted
      · exact (merged e).imp id fun same => ⟨e, List.mem_cons_self, same⟩
      · exact .inr ⟨d, List.mem_cons_of_mem e inserted, rfl⟩
    · split at inserted
      · rcases List.mem_cons.1 inserted with rfl | inserted
        · exact .inl rfl
        · exact .inr ⟨d, inserted, rfl⟩
      · rcases List.mem_cons.1 inserted with rfl | inserted
        · exact .inr ⟨d, List.mem_cons_self, rfl⟩
        · rcases ih inserted inserted with same | ⟨e', he', same⟩
          · exact .inl same
          · exact .inr ⟨e', List.mem_cons_of_mem e he', same⟩

/-! ## Opening a node -/

/-- How an attempt to open a node ends, and what was done on the way. -/
inductive Survey.Opening (s : Survey) (node : DeviceNode) (address : FunctionAddress) (id : HardwareId) :
    Except Skip (DeviceRecord Channel) → Survey → Prop where
  | missing : Opening s node address id (.error .noInterface)
      { s with host := s.host.note (.interfaceSought node.id) }
  | refused {interface : Interface} {channel : Channel} {host host' : Host} {status : Status}
      (opens : (s.host.note (.interfaceSought node.id)).openInterface interface = some (channel, host))
      (maps : host.mapHardware channel address.toRequest id.device = .ok (.error status, host')) :
      Opening s node address id (.error (.map status)) { s with host := host'.closeChannel channel }
  | unstored {interface : Interface} {channel : Channel} {host host' : Host} {info : HardwareInfo}
      {e : SegmentError} {log : List Message}
      (opens : (s.host.note (.interfaceSought node.id)).openInterface interface = some (channel, host))
      (maps : host.mapHardware channel address.toRequest id.device = .ok (.ok info, host')) :
      Opening s node address id (.error (.segments e))
        { s with host := (host'.tell log).closeChannel channel }
  | acquired {interface : Interface} {channel : Channel} {host host' : Host} {info : HardwareInfo}
      {log : List Message} {config : MemConfig}
      (opens : (s.host.note (.interfaceSought node.id)).openInterface interface = some (channel, host))
      (maps : host.mapHardware channel address.toRequest id.device = .ok (.ok info, host')) :
      Opening s node address id (.ok ((DeviceRecord.new address id).bind info channel))
        { s with host := host'.tell log, config }

theorem Survey.opening_of_openNode {s t : Survey} {tree : DeviceTree} {node : DeviceNode}
    {address : FunctionAddress} {id : HardwareId} {result : Except Skip (DeviceRecord Channel)}
    (opened : s.openNode tree node address id = .ok (result, t)) :
    s.Opening node address id result t := by
  unfold openNode at opened
  dsimp only at opened
  split at opened
  · cases opened
    exact .missing
  · next channel host opens =>
    obtain ⟨interface, -, opens⟩ := Option.bind_eq_some_iff.1 opens
    obtain ⟨⟨answer, host'⟩, maps, opened⟩ := Checked.bind_eq_ok_iff.1 opened
    cases answer with
    | error status =>
      cases opened
      exact .refused opens maps
    | ok info =>
      obtain ⟨⟨stored, config, log⟩, tried, opened⟩ := Checked.bind_eq_ok_iff.1 opened
      cases stored with
      | error e =>
        cases opened
        obtain rfl : config = s.config := MemConfig.config_of_storePool tried rfl
        exact .unstored opens maps
      | ok index =>
        cases opened
        exact .acquired opens maps

/-! ## Handles in use -/

namespace Survey

/-- A driver lends to the handle of the process, or a record holds it. -/
def Uses (s : Survey) (handle : HandleId) : Prop :=
  (∃ d ∈ s.host.drivers, d.borrower? = some ⟨s.host.process, handle⟩) ∨ s.devices.Holds handle

/-- The next `n` handles that are opened are not among those in question. -/
structure NextAvoid (s : Survey) (handles : HandleId → Prop) (n : Nat) : Prop where
  room : s.host.opened + n < UInt64.size
  avoided : ∀ k, s.host.opened < k → k ≤ s.host.opened + n → ¬handles (.nth k)

/-- The next `n` handles that are opened are not in use. -/
def Fresh (s : Survey) (n : Nat) : Prop := s.NextAvoid s.Uses n

/-- At most one handle was opened, and no other came into use. -/
structure Opens (s t : Survey) : Prop where
  opened : t.host.opened = s.host.opened ∨ t.host.opened = s.host.opened + 1
  uses : ∀ handle, t.Uses handle → s.Uses handle ∨ handle = .nth t.host.opened

variable {s s' t : Survey}

theorem NextAvoid.shorten {handles : HandleId → Prop} {n m : Nat} (next : s.NextAvoid handles n)
    (fewer : m ≤ n) : s.NextAvoid handles m where
  room := by
    have room := next.room
    omega
  avoided k later last := next.avoided k later (by omega)

theorem NextAvoid.first {handles : HandleId → Prop} {n : Nat} (next : s.NextAvoid handles (n + 1)) :
    ¬handles (.nth (s.host.opened + 1)) := next.avoided _ (by omega) (by omega)

/-- The handle that is opened first is the only one that is spent. -/
theorem NextAvoid.opens {handles : HandleId → Prop} {n : Nat} (next : s.NextAvoid handles (n + 1))
    (opens : s.Opens t) : t.NextAvoid handles n := by
  have room := next.room
  have opened := opens.opened
  exact ⟨by omega, fun k later last => next.avoided k (by omega) (by omega)⟩

theorem Fresh.opens {n : Nat} (fresh : s.Fresh (n + 1)) (opens : s.Opens t) : t.Fresh n := by
  have next : t.NextAvoid s.Uses n := NextAvoid.opens fresh opens
  have room := next.room
  refine ⟨room, fun k later last used => ?_⟩
  rcases opens.uses _ used with before | same
  · exact next.avoided k later last before
  · have last := HandleId.nth_inj (by omega) (by omega) same
    omega

theorem opens_of_host {callers : Caller → Prop} (host : s.host.Opens callers t.host)
    (held : ∀ handle, t.devices.Holds handle →
      (∃ caller, callers caller ∧ caller.handle = handle) ∨ s.devices.Holds handle) : s.Opens t where
  opened := host.opened.imp And.left And.left
  uses := by
    have own (caller : Caller) (asked : callers caller) : caller.handle = .nth t.host.opened := by
      rcases host.opened with ⟨-, none⟩ | ⟨-, next⟩
      · exact absurd asked (none caller)
      · exact next caller asked
    rintro handle (⟨e, he, lent⟩ | holds)
    · rcases host.borrowed e he _ lent with asked | ⟨d, hd, before⟩
      · exact .inr (own _ asked)
      · rw [host.process] at before
        exact .inl (.inl ⟨d, hd, before⟩)
    · rcases held handle holds with ⟨caller, asked, rfl⟩ | before
      · exact .inr (own caller asked)
      · exact .inl (.inr before)

/-- Opening a node lends to the handle of the record that it leads to, and to no other. -/
theorem opens_of_openNode {tree : DeviceTree} {node : DeviceNode} {address : FunctionAddress}
    {id : HardwareId} {result : Except Skip (DeviceRecord Channel)}
    (opened : s.openNode tree node address id = .ok (result, t)) :
    ∃ callers, s.host.Opens callers t.host ∧ t.devices = s.devices
      ∧ ∀ r, result = .ok r → ∀ i caller, r.channel = some (.driver i caller.handle) → callers caller := by
  cases opening_of_openNode opened with
  | missing => exact ⟨_, Host.opens_of_drivers rfl rfl rfl, rfl, by simp⟩
  | @refused _ channel host host' status opens maps =>
    have first := Host.opens_of_openInterface opens
    have whole := (first.gains (Host.gains_of_mapHardware maps)).gains (host'.gains_closeChannel channel)
    exact ⟨channel.IsOf, ⟨whole.process, whole.opened, whole.borrowed⟩, rfl, by simp⟩
  | @unstored _ channel host host' _ _ log opens maps =>
    have first := Host.opens_of_openInterface opens
    have told : host'.Gains channel.IsOf (host'.tell log) := Host.gains_of_drivers rfl rfl rfl
    have whole := ((first.gains (Host.gains_of_mapHardware maps)).gains told).gains
      ((host'.tell log).gains_closeChannel channel)
    exact ⟨channel.IsOf, ⟨whole.process, whole.opened, whole.borrowed⟩, rfl, by simp⟩
  | @acquired _ channel host host' info log config opens maps =>
    have first := Host.opens_of_openInterface opens
    have whole := first.gains (Host.gains_of_mapHardware maps)
    refine ⟨channel.IsOf, ⟨whole.process, whole.opened, whole.borrowed⟩, rfl, ?_⟩
    rintro _ ⟨⟩ i caller held
    exact ⟨i, Option.some.inj held⟩

theorem opens_of_visit {tree : DeviceTree} {node : DeviceNode} {counts : Bool}
    (visited : s.visit tree node = .ok (counts, t)) : s.Opens t := by
  unfold visit at visited
  split at visited
  · cases visited
    exact opens_of_host (Host.opens_of_drivers rfl rfl rfl) fun handle => .inr
  · split at visited
    · cases visited
      exact opens_of_host (Host.opens_of_drivers rfl rfl rfl) fun handle => .inr
    · obtain ⟨⟨result, s₁⟩, opened, visited⟩ := Checked.bind_eq_ok_iff.1 visited
      obtain ⟨callers, host, devices, own⟩ := opens_of_openNode opened
      cases result with
      | error skip =>
        cases visited
        refine opens_of_host ⟨host.process, host.opened, host.borrowed⟩ fun handle holds => ?_
        rw [← devices]
        exact .inr holds
      | ok r =>
        cases visited
        -- A channel that is left over is closed, and nobody gains by it.
        have told : s.host.Opens callers (s₁.host.tell [foundMessage node r]) :=
          ⟨host.process, host.opened, host.borrowed⟩
        have closed : (s₁.host.tell [foundMessage node r]).Gains callers
            ((s₁.host.tell [foundMessage node r]).closeChannels (s₁.devices.insert r).leftOver.toList) := by
          cases (s₁.devices.insert r).leftOver with
          | none => exact Host.gains_of_drivers rfl rfl rfl
          | some channel => exact Host.gains_closeChannel _ channel
        refine opens_of_host (told.gains closed) ?_
        rintro handle ⟨d, hd, i, held⟩
        rcases DeviceList.channel_of_mem_insert hd with same | ⟨e, he, same⟩
        · rw [same] at held
          exact .inl ⟨⟨s.host.process, handle⟩, own r rfl i ⟨s.host.process, handle⟩ held, rfl⟩
        · rw [same] at held
          rw [← devices]
          exact .inr ⟨e, he, i, held⟩

end Survey

/-! ## The number that comes next -/

theorem HostedDriver.renumber_congr {d : HostedDriver}
    (agree : ∀ handle, d.borrower? = some ⟨process, handle⟩ → τ handle = σ handle) :
    d.renumber process τ = d.renumber process σ := by
  obtain ⟨p, device, held, handles⟩ := d
  cases device with
  | none => rfl
  | some device =>
    obtain ⟨address, numaNode, state, registers, pool, user⟩ := device
    cases user with
    | none => rfl
    | some user =>
      obtain ⟨⟨p', handle⟩, base, lent⟩ := user
      by_cases own : p' = process
      · subst own
        have same := agree handle rfl
        simp [renumber, Device.renumber, UserMapping.renumber, Caller.renumber, same]
      · simp [renumber, Device.renumber, UserMapping.renumber, Caller.renumber, own]

theorem HostedDriver.borrower?_of_alike {d e : HostedDriver} (alike : d.Alike process σ e) :
    e.borrower? = d.borrower?.map (·.renumber process σ) := by
  unfold borrower?
  rw [alike.device]
  cases d.device with
  | none => rfl
  | some device => cases lent : device.context.user <;> simp [Device.renumber, lent, UserMapping.renumber]

theorem DeviceList.holds_renumber {l : DeviceList Channel} {handle : HandleId}
    (holds : l.Holds handle) : (l.renumber σ).Holds (σ handle) := by
  obtain ⟨r, hr, i, held⟩ := holds
  refine ⟨r.renumber σ, List.mem_map_of_mem hr, i, ?_⟩
  show r.channel.map _ = _
  rw [held]
  rfl

theorem DeviceList.renumber_congr {l : DeviceList Channel}
    (agree : ∀ handle, l.Holds handle → τ handle = σ handle) : l.renumber τ = l.renumber σ := by
  refine congrArg DeviceList.mk (List.map_congr_left fun r hr => ?_)
  unfold DeviceRecord.renumber
  cases held : r.channel with
  | none => rfl
  | some channel =>
    cases channel with
    | standIn s => rfl
    | driver i handle =>
      have same := agree handle ⟨r, hr, i, held⟩
      simp [Channel.renumber, same]

namespace Survey.Alike

variable {s s' : Survey}

/-- Only the numbers of handles in use matter. -/
theorem congr (alike : s.Alike σ s') (agree : ∀ handle, s.Uses handle → τ handle = σ handle) :
    s.Alike τ s' where
  host := by
    refine ⟨alike.host.process, alike.host.drivers.trans (List.map_congr_left fun d hd => ?_)⟩
    rw [HostedDriver.renumber_congr fun handle lent => (agree handle (.inl ⟨d, hd, lent⟩)).symm]
  devices := by
    rw [alike.devices]
    exact (DeviceList.renumber_congr fun handle holds => agree handle (.inr holds)).symm
  config := alike.config

/-- A handle in use is in use on the other side, by its other number. -/
theorem uses (alike : s.Alike σ s') {handle : HandleId} (used : s.Uses handle) :
    s'.Uses (σ handle) := by
  rcases used with ⟨d, hd, lent⟩ | holds
  · obtain ⟨i, there⟩ := List.mem_iff_getElem?.1 hd
    rcases alike.host.driver_cases i with ⟨missing, -⟩ | ⟨d', e, there', found, drivers⟩
    · rw [there] at missing
      cases missing
    · cases there.symm.trans there'
      refine .inl ⟨e, List.mem_of_getElem? found, ?_⟩
      rw [HostedDriver.borrower?_of_alike drivers, lent, Option.map_some, Caller.renumber_of_process,
        alike.host.process]
  · rw [Uses, alike.devices]
    exact .inr (DeviceList.holds_renumber holds)

/-- **The numbers that come next fit.**  Neither is in use, so one can stand for the other, and the others
stay as they were. -/
theorem extend {n n' : Nat} (alike : s.Alike σ s') (fresh : s.Fresh (n + 1))
    (fresh' : s'.Fresh (n' + 1)) :
    ∃ τ : Equiv.Perm HandleId, s.Alike τ s'
      ∧ τ (.nth (s.host.opened + 1)) = .nth (s'.host.opened + 1)
      ∧ ∀ handle, handle ≠ .nth (s.host.opened + 1) → σ handle ≠ .nth (s'.host.opened + 1) →
          τ handle = σ handle := by
  have others (handle : HandleId) (old : handle ≠ .nth (s.host.opened + 1))
      (old' : σ handle ≠ .nth (s'.host.opened + 1)) :
      σ.trans (.swap (σ (.nth (s.host.opened + 1))) (.nth (s'.host.opened + 1))) handle = σ handle := by
    rw [Equiv.trans_apply]
    exact Equiv.swap_apply_of_ne_of_ne (fun same => old (σ.injective same)) old'
  refine ⟨_, alike.congr fun handle used => others handle ?_ ?_, ?_, others⟩
  · rintro rfl
    exact fresh.first used
  · intro same
    have used' := alike.uses used
    rw [same] at used'
    exact fresh'.first used'
  · rw [Equiv.trans_apply, Equiv.swap_apply_left]

end Survey.Alike

end Passthrough
