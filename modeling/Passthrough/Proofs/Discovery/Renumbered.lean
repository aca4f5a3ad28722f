import Passthrough.Proofs.Discovery.Visits
import Passthrough.Proofs.Driver.Renumbering

/-!
# Passthrough — visits with handles by other numbers

Which number a handle gets depends on how many were opened before.  Two processes that know the same of
hosts in the same state, but for the numbers of their handles, find the same devices.

* `HostedDriver.Alike`, `Host.Alike`, `Survey.Alike` — drivers, hosts and surveys that differ in the
  numbers of handles, and in what happened.
* `Survey.Alike.visit` — the visit of a node answers alike.
-/

namespace Passthrough

variable {process : ProcessId} {σ τ : Equiv.Perm HandleId}

/-! ## Drivers -/

namespace HostedDriver

def renumber (process : ProcessId) (σ : Equiv.Perm HandleId) (d : HostedDriver) : HostedDriver :=
  { d with device := d.device.map (·.renumber process σ) }

/-- The second driver numbers the handles of `process` otherwise, and may have recorded something else. -/
structure Alike (process : ProcessId) (σ : Equiv.Perm HandleId) (d e : HostedDriver) : Prop where
  device : e.device = d.device.map (·.renumber process σ)
  platform : d.platform.Alike e.platform
  held : e.held = d.held
  handles : e.handles = d.handles

variable {d e : HostedDriver}

theorem alike_iff_forget : d.Alike process σ e ↔ e.forget = (d.renumber process σ).forget := by
  obtain ⟨p, device, held, handles⟩ := d
  obtain ⟨q, device', held', handles'⟩ := e
  simp only [forget, renumber, mk.injEq]
  constructor
  · rintro ⟨device, platform, held, handles⟩
    exact ⟨Platform.alike_iff_forget.1 platform, device, held, handles⟩
  · rintro ⟨platform, device, held, handles⟩
    exact ⟨device, Platform.alike_iff_forget.2 platform, held, handles⟩

@[simp] theorem renumber_refl (d : HostedDriver) : d.renumber process (Equiv.refl _) = d := by
  obtain ⟨p, device, held, handles⟩ := d
  cases device <;> simp [renumber]

namespace Alike

theorem forget (alike : d.Alike process σ e) : d.forget.Alike process σ e.forget :=
  ⟨alike.device, ⟨alike.platform.bus, alike.platform.memory⟩, alike.held, alike.handles⟩

theorem putInstance (alike : d.Alike process σ e) {i j : Instance} (instances : i.Alike process σ j) :
    (d.putInstance i).Alike process σ (e.putInstance j) :=
  ⟨congrArg some instances.device, instances.platform, alike.held, alike.handles⟩

/-- Either there are no instances, or there are two that are alike. -/
theorem instance?_cases (alike : d.Alike process σ e) :
    (d.instance? = none ∧ e.instance? = none)
      ∨ ∃ i j, d.instance? = some i ∧ e.instance? = some j ∧ i.Alike process σ j := by
  unfold instance?
  rw [alike.device]
  cases d.device with
  | none => exact .inl ⟨rfl, rfl⟩
  | some device => exact .inr ⟨_, _, rfl, rfl, rfl, alike.platform⟩

theorem openHandle_cases (alike : d.Alike process σ e) :
    (d.openHandle = none ∧ e.openHandle = none)
      ∨ ∃ d' e', d.openHandle = some d' ∧ e.openHandle = some e' ∧ d'.Alike process σ e' := by
  have usable : (e.held && e.device.isSome) = (d.held && d.device.isSome) := by
    rw [alike.held, alike.device, Option.isSome_map]
  unfold openHandle
  rw [usable]
  split
  · exact .inr ⟨_, _, rfl, rfl, alike.device, alike.platform, alike.held,
      congrArg (· + 1) alike.handles⟩
  · exact .inl ⟨rfl, rfl⟩

theorem control (alike : d.Alike process σ e) (caller : Caller) {request : IoRequest}
    (kind : request.code.kind? = some .mapHardware) :
    Checked.Related (fun x y => x.1 = y.1 ∧ x.2.Alike process σ y.2) (d.control caller request)
      (e.control (caller.renumber process σ) request) := by
  unfold HostedDriver.control
  rcases alike.instance?_cases with ⟨missing, missing'⟩ | ⟨i, j, there, there', instances⟩
  · rw [missing, missing']
    exact .answer ⟨rfl, alike⟩
  · rw [there, there']
    refine (instances.deviceControl caller kind).bind ?_
    rintro ⟨served, i⟩ ⟨_, j⟩ ⟨rfl, instances⟩
    exact .answer ⟨rfl, alike.putInstance instances⟩

theorem cleanUp (alike : d.Alike process σ e) (caller : Caller) :
    (d.cleanUp caller).2.Alike process σ (e.cleanUp (caller.renumber process σ)).2 := by
  unfold HostedDriver.cleanUp
  rcases alike.instance?_cases with ⟨missing, missing'⟩ | ⟨i, j, there, there', instances⟩
  · rw [missing, missing']
    exact alike
  · rw [there, there']
    exact alike.putInstance (instances.cleanUp caller)

theorem collect (alike : d.Alike process σ e) : d.collect.Alike process σ e.collect := by
  have kept : (e.held || decide (e.handles ≠ 0)) = (d.held || decide (d.handles ≠ 0)) := by
    rw [alike.held, alike.handles]
  unfold HostedDriver.collect
  rw [kept]
  split
  · exact alike
  · rcases alike.instance?_cases with ⟨missing, missing'⟩ | ⟨i, j, there, there', instances⟩
    · rw [missing, missing']
      exact alike
    · rw [there, there']
      exact ⟨rfl, instances.remove.platform, alike.held, alike.handles⟩

theorem dropHandle (alike : d.Alike process σ e) : d.dropHandle.Alike process σ e.dropHandle := by
  have fewer : ({ d with handles := d.handles - 1 } : HostedDriver).Alike process σ
      { e with handles := e.handles - 1 } :=
    ⟨alike.device, alike.platform, alike.held, congrArg (· - 1) alike.handles⟩
  exact fewer.collect

end Alike

end HostedDriver

/-! ## Hosts -/

def Channel.renumber (σ : Equiv.Perm HandleId) : Channel → Channel
  | .driver i handle => .driver i (σ handle)
  | .standIn s => .standIn s

@[simp] theorem Channel.renumber_refl (channel : Channel) : channel.renumber (Equiv.refl _) = channel := by
  cases channel <;> rfl

namespace Host

/-- The second host is the same but for the numbers of the handles of its process, how many were opened,
and what happened. -/
structure Alike (σ : Equiv.Perm HandleId) (h h' : Host) : Prop where
  process : h'.process = h.process
  drivers : h'.drivers.map HostedDriver.forget
    = h.drivers.map fun d => (d.renumber h.process σ).forget

theorem openInterface_eq (h : Host) (i : Nat) :
    h.openInterface (.driver i) = (h.drivers[i]?.bind HostedDriver.openHandle).map fun d =>
      (.driver i (.nth (h.opened + 1)), { h.putDriver i d with opened := h.opened + 1 }) := by
  unfold openInterface
  dsimp only
  cases h.drivers[i]? with
  | none => rfl
  | some d => cases refers : d.openHandle <;> simp [refers, HandleId.nth]

namespace Alike

variable {h h' : Host}

theorem note (alike : h.Alike σ h') (event event' : HostEvent) :
    (h.note event).Alike σ (h'.note event') := ⟨alike.process, alike.drivers⟩

theorem tell (alike : h.Alike σ h') (messages messages' : List Message) :
    (h.tell messages).Alike σ (h'.tell messages') := ⟨alike.process, alike.drivers⟩

/-- Either there is no driver with a number, or there are two that are alike. -/
theorem driver_cases (alike : h.Alike σ h') (i : Nat) :
    (h.drivers[i]? = none ∧ h'.drivers[i]? = none)
      ∨ ∃ d e, h.drivers[i]? = some d ∧ h'.drivers[i]? = some e ∧ d.Alike h.process σ e := by
  have same := congrArg (·[i]?) alike.drivers
  simp only [List.getElem?_map] at same
  cases there : h.drivers[i]? with
  | none =>
    rw [there, Option.map_none, Option.map_eq_none_iff] at same
    exact .inl ⟨rfl, same⟩
  | some d =>
    rw [there, Option.map_some, Option.map_eq_some_iff] at same
    obtain ⟨e, there', forgotten⟩ := same
    exact .inr ⟨d, e, rfl, there', HostedDriver.alike_iff_forget.2 forgotten⟩

theorem putDriver (alike : h.Alike σ h') {d e : HostedDriver} (drivers : d.Alike h.process σ e)
    (i : Nat) : (h.putDriver i d).Alike σ (h'.putDriver i e) where
  process := alike.process
  drivers := by
    have forgotten := HostedDriver.alike_iff_forget.1 drivers
    show (h'.drivers.set i e.forget).map _ = (h.drivers.set i d.forget).map _
    rw [List.map_set, List.map_set, alike.drivers]
    exact congrArg (List.set _ i) forgotten

/-- What differs from the second host in what happened alone is like the first. -/
theorem trans_refl {h'' : Host} (alike : h.Alike σ h') (same : h'.Alike (Equiv.refl _) h'') :
    h.Alike σ h'' where
  process := same.process.trans alike.process
  drivers := by
    rw [← alike.drivers, same.drivers]
    simp only [HostedDriver.renumber_refl]

/-- Either an interface cannot be opened, or it gives two channels, with the numbers that come next. -/
theorem openInterface_cases (alike : h.Alike σ h')
    (next : σ (.nth (h.opened + 1)) = .nth (h'.opened + 1)) (interface : Interface) :
    (h.openInterface interface = none ∧ h'.openInterface interface = none)
      ∨ ∃ channel k k', h.openInterface interface = some (channel, k)
        ∧ h'.openInterface interface = some (channel.renumber σ, k') ∧ k.Alike σ k' := by
  cases interface with
  | standIn s => exact .inr ⟨_, _, _, rfl, rfl, alike⟩
  | driver i =>
    rw [openInterface_eq, openInterface_eq]
    rcases alike.driver_cases i with ⟨missing, missing'⟩ | ⟨d, e, there, there', drivers⟩
    · rw [missing, missing']
      exact .inl ⟨rfl, rfl⟩
    · rw [there, there', Option.bind_some, Option.bind_some]
      rcases drivers.openHandle_cases with ⟨shut, shut'⟩ | ⟨d', e', refers, refers', drivers'⟩
      · rw [shut, shut']
        exact .inl ⟨rfl, rfl⟩
      · have put := alike.putDriver drivers' i
        rw [refers, refers', ← next]
        exact .inr ⟨_, _, _, rfl, rfl, put.process, put.drivers⟩

theorem closeChannel (alike : h.Alike σ h') (channel : Channel) :
    (h.closeChannel channel).Alike σ (h'.closeChannel (channel.renumber σ)) := by
  cases channel with
  | standIn s => exact alike.note _ _
  | driver i handle =>
    unfold Host.closeChannel
    dsimp only [Channel.renumber]
    rcases alike.driver_cases i with ⟨missing, missing'⟩ | ⟨d, e, there, there', drivers⟩
    · rw [missing, missing']
      exact alike
    · rw [there, there']
      have cleaned := drivers.cleanUp ⟨h.process, handle⟩
      rw [Caller.renumber_of_process, ← alike.process] at cleaned
      rw [alike.process] at cleaned ⊢
      have put := (alike.putDriver cleaned i).note (.handleClosed handle (d.cleanUp ⟨h.process, handle⟩).1)
        (.handleClosed (σ handle) (e.cleanUp ⟨h.process, σ handle⟩).1)
      exact put.putDriver cleaned.forget.dropHandle i

/-- **Requests to map the hardware.**  They are answered alike. -/
theorem control (alike : h.Alike σ h') (channel : Channel) {code : ControlCode}
    (kind : code.kind? = some .mapHardware) (input : Bytes) (outputSize : Nat) :
    Checked.Related (fun x y => x.1 = y.1 ∧ x.2.Alike σ y.2) (h.control channel code input outputSize)
      (h'.control (channel.renumber σ) code input outputSize) := by
  cases channel with
  | standIn s => exact .answer ⟨rfl, alike.note _ _⟩
  | driver i handle =>
    unfold Host.control withDriver
    dsimp only [Channel.renumber]
    rcases alike.driver_cases i with ⟨missing, missing'⟩ | ⟨d, e, there, there', drivers⟩
    · rw [missing, missing']
      exact .answer ⟨rfl, alike⟩
    · rw [there, there']
      let request : IoRequest := ⟨code, input, List.replicate outputSize 0⟩
      have mapping : request.code.kind? = some .mapHardware := kind
      have served := drivers.control ⟨h.process, handle⟩ mapping
      rw [Caller.renumber_of_process] at served
      rw [alike.process]
      simp only [bind_assoc]
      refine served.bind ?_
      rintro ⟨⟨⟨status, information⟩, output⟩, d⟩ ⟨_, e⟩ ⟨rfl, drivers⟩
      cases status <;> exact .answer ⟨rfl, alike.putDriver drivers i⟩

theorem mapHardware (alike : h.Alike σ h') (channel : Channel) (address : RequestAddress)
    (deviceId : UInt16) :
    Checked.Related (fun x y => x.1 = y.1 ∧ x.2.Alike σ y.2) (h.mapHardware channel address deviceId)
      (h'.mapHardware (channel.renumber σ) address deviceId) := by
  unfold Host.mapHardware request
  simp only [bind_assoc]
  refine (alike.control channel rfl _ _).bind ?_
  rintro ⟨answer, k⟩ ⟨_, k'⟩ ⟨rfl, alike⟩
  cases answer with
  | error status =>
    cases status with
    | notSameDevice => exact .answer ⟨rfl, alike⟩
    | _ => exact .answer ⟨rfl, alike.tell _ _⟩
  | ok answer =>
    obtain ⟨information, output⟩ := answer
    show Checked.Related _ (Except.ok (_, k) >>= _) (Except.ok (_, k') >>= _)
    generalize (Response.decode _ output information).mapError RecordError.status = response
    rcases response with status | ⟨info⟩ | ⟨data, transferred⟩ <;> exact .answer ⟨rfl, alike⟩

end Alike

end Host

/-! ## Surveys -/

/-- The record with its handle by another number. -/
def DeviceRecord.renumber (σ : Equiv.Perm HandleId) (r : DeviceRecord Channel) : DeviceRecord Channel :=
  { r with channel := r.channel.map (·.renumber σ) }

def DeviceList.renumber (σ : Equiv.Perm HandleId) (l : DeviceList Channel) : DeviceList Channel :=
  ⟨l.records.map (·.renumber σ)⟩

namespace DeviceRecord

@[simp] theorem renumber_refl (r : DeviceRecord Channel) : r.renumber (Equiv.refl _) = r := by
  obtain ⟨_, _, _, _, _, _, _, channel⟩ := r
  cases channel <;> simp [renumber]

@[simp] theorem isBound_renumber (r : DeviceRecord Channel) :
    (r.renumber σ).isBound = r.isBound := Option.isSome_map

theorem merge_renumber (d r : DeviceRecord Channel) :
    (d.renumber σ).merge (r.renumber σ)
      = ((d.merge r).1.renumber σ, (d.merge r).2.map (·.renumber σ)) := by
  obtain ⟨_, _, _, _, _, _, _, older⟩ := d
  obtain ⟨_, _, _, _, _, _, _, newer⟩ := r
  cases older <;> cases newer <;> rfl

end DeviceRecord

namespace DeviceList

@[simp] theorem renumber_refl (l : DeviceList Channel) : l.renumber (Equiv.refl _) = l := by
  obtain ⟨records⟩ := l
  exact congrArg DeviceList.mk (List.map_id'' DeviceRecord.renumber_refl records)

theorem isBound_renumber (l : DeviceList Channel) (a : FunctionAddress) :
    (l.renumber σ).isBound a = l.isBound a := by
  unfold isBound get? renumber
  rw [List.find?_map]
  have same : (fun r : DeviceRecord Channel => decide (r.address = a)) ∘ DeviceRecord.renumber σ
      = fun r => decide (r.address = a) := rfl
  rw [same]
  cases l.records.find? fun r => decide (r.address = a) with
  | none => rfl
  | some r => exact r.isBound_renumber

theorem insert_renumber (l : DeviceList Channel) (r : DeviceRecord Channel) :
    (l.renumber σ).insert (r.renumber σ) = ⟨(l.insert r).inserted,
      (l.insert r).leftOver.map (·.renumber σ), (l.insert r).list.renumber σ⟩ := by
  obtain ⟨ds⟩ := l
  unfold insert renumber
  dsimp only
  induction ds with
  | nil => rfl
  | cons d ds ih =>
    have address : (d.renumber σ).address = d.address := rfl
    have address' : (r.renumber σ).address = r.address := rfl
    rw [List.map_cons, insertInto, insertInto, address, address']
    split
    · rw [DeviceRecord.merge_renumber]
      rfl
    · split
      · rfl
      · rw [ih]
        rfl

end DeviceList

namespace Survey

/-- The second survey is the same but for the numbers of the handles of its process, how many were opened,
and what happened. -/
structure Alike (σ : Equiv.Perm HandleId) (s s' : Survey) : Prop where
  host : s.host.Alike σ s'.host
  devices : s'.devices = s.devices.renumber σ
  config : s'.config = s.config

namespace Alike

variable {s s' : Survey}

theorem acquire (alike : s.Alike σ s') (address : FunctionAddress) (id : HardwareId)
    (channel : Channel) :
    Checked.Related (fun x y => y.1 = x.1.map (·.renumber σ) ∧ x.2.Alike σ y.2)
      (s.acquire address id channel) (s'.acquire address id (channel.renumber σ)) := by
  unfold Survey.acquire
  refine (alike.host.mapHardware channel address.toRequest id.device).bind ?_
  rintro ⟨answer, k⟩ ⟨_, k'⟩ ⟨rfl, host⟩
  cases answer with
  | error status => exact .answer ⟨rfl, host.closeChannel channel, alike.devices, alike.config⟩
  | ok info =>
    dsimp only
    rw [alike.config]
    refine (Checked.Related.same (s.config.storePool _ _)).bind ?_
    rintro ⟨stored, config, log⟩ _ rfl
    cases stored with
    | error e => exact .answer ⟨rfl, (host.tell _ _).closeChannel channel, alike.devices, rfl⟩
    | ok index => exact .answer ⟨rfl, host.tell _ _, alike.devices, rfl⟩

/-- Opening a node gives the same, by the numbers that come next. -/
theorem openNode (alike : s.Alike σ s')
    (next : σ (.nth (s.host.opened + 1)) = .nth (s'.host.opened + 1)) (tree : DeviceTree)
    (node : DeviceNode) (address : FunctionAddress) (id : HardwareId) :
    Checked.Related (fun x y => y.1 = x.1.map (·.renumber σ) ∧ x.2.Alike σ y.2)
      (s.openNode tree node address id) (s'.openNode tree node address id) := by
  unfold Survey.openNode
  have sought := alike.host.note (.interfaceSought node.id) (.interfaceSought node.id)
  cases tree.interface? node with
  | none => exact .answer ⟨rfl, sought, alike.devices, alike.config⟩
  | some interface =>
    dsimp only [Option.bind_some]
    rcases sought.openInterface_cases next interface with
      ⟨shut, shut'⟩ | ⟨channel, k, k', opens, opens', host⟩
    · rw [shut, shut']
      exact .answer ⟨rfl, sought, alike.devices, alike.config⟩
    · rw [opens, opens']
      have opened : Survey.Alike σ { s with host := k } { s' with host := k' } :=
        ⟨host, alike.devices, alike.config⟩
      exact opened.acquire address id channel

theorem insert (alike : s.Alike σ s') (r : DeviceRecord Channel) :
    (s.insert r).2.Alike σ (s'.insert (r.renumber σ)).2 := by
  have inserted := s.devices.insert_renumber (σ := σ) r
  unfold Survey.insert
  dsimp only
  rw [alike.devices, inserted]
  refine ⟨?_, rfl, alike.config⟩
  cases (s.devices.insert r).leftOver with
  | none => exact alike.host
  | some channel => exact alike.host.closeChannel channel

/-- **A visit.**  It counts or does not in both cases, and leads to surveys that are alike. -/
theorem visit (alike : s.Alike σ s')
    (next : σ (.nth (s.host.opened + 1)) = .nth (s'.host.opened + 1)) (tree : DeviceTree)
    (node : DeviceNode) :
    Checked.Related (fun x y => x.1 = y.1 ∧ x.2.Alike σ y.2) (s.visit tree node)
      (s'.visit tree node) := by
  unfold Survey.visit
  cases node.identify with
  | error skip => exact .answer ⟨rfl, alike.host.tell _ _, alike.devices, alike.config⟩
  | ok identity =>
    obtain ⟨address, id⟩ := identity
    dsimp only
    rw [alike.devices, DeviceList.isBound_renumber]
    split
    · exact .answer ⟨rfl, alike.host.tell _ _, alike.devices, alike.config⟩
    · refine (alike.openNode next tree node address id).bind ?_
      rintro ⟨result, t⟩ ⟨_, t'⟩ ⟨rfl, alike⟩
      cases result with
      | error skip => exact .answer ⟨rfl, alike.host.tell _ _, alike.devices, alike.config⟩
      | ok r =>
        have told : Survey.Alike σ { t with host := t.host.tell [foundMessage node r] }
            { t' with host := t'.host.tell [foundMessage node (r.renumber σ)] } :=
          ⟨alike.host.tell _ _, alike.devices, alike.config⟩
        exact .answer ⟨rfl, told.insert r⟩

end Alike

end Survey

end Passthrough
