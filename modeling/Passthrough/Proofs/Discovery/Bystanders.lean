import Passthrough.Proofs.Discovery.HandlesInUse

/-!
# Passthrough — nodes that lead nowhere

A scan passes over nodes that do not stand for a function, that cannot be opened, or whose driver refuses
to map.  It makes no difference to the other nodes whether these are there.

* `Survey.Drops`, `visit_eq_false_iff` — why a node is passed over, and that nothing else keeps it from
  counting.
* `Survey.Drops.alike` — one that is of no use leaves everything as it was.
* `Survey.Inserts`, `Survey.related_visitAll` — passes with such nodes and without them.
* `Survey.DropsAll`, `Survey.scan_eq_noDevices` — scans that find nothing.
* `Survey.scan_bystanders` — scans with such nodes and without them.
-/

namespace Passthrough

variable {process : ProcessId} {σ : Equiv.Perm HandleId}

/-! ## Refusals -/

/-- The driver refuses to map: it is another function's, it is lent to somebody, or it is not prepared. -/
def Status.isRefusal : Status → Bool
  | .notSameDevice | .alreadyCommitted | .invalidDeviceState => true
  | _ => false

/-- The node is of no use to the process. -/
def Skip.isUseless : Skip → Bool
  | .noLocation | .noHardwareId | .identity _ | .noInterface => true
  | .map status => status.isRefusal
  | .segments _ => false

theorem RecordError.isRefusal_status (e : RecordError) : e.status.isRefusal = false := by
  cases e <;> rfl

namespace Instance

variable {i i' : Instance} {caller : Caller} {request : IoRequest} {status : Status}

/-- A request to map the hardware that fails changes nothing, unless resources were wanting. -/
theorem eq_of_mapIntoCaller {output output' : Bytes}
    (failed : i.mapIntoCaller caller output = .ok (⟨.error status, output'⟩, i'))
    (early : status ≠ .insufficientResources) : i' = i := by
  unfold mapIntoCaller at failed
  dsimp only at failed
  split at failed
  · cases failed
    rfl
  · cases failed
    rfl
  · cases failed
    rfl
  · split at failed
    · cases failed
      rfl
    · split at failed
      · cases failed
        rfl
      · obtain ⟨p, -, failed⟩ := Checked.bind_eq_ok_iff.1 failed
        obtain ⟨⟨answer, p⟩, -, failed⟩ := Checked.bind_eq_ok_iff.1 failed
        cases answer with
        | none =>
          cases failed
          exact absurd rfl early
        | some base =>
          obtain ⟨⟨complete, lent, p⟩, -, failed⟩ := Checked.bind_eq_ok_iff.1 failed
          cases complete with
          | true => cases failed
          | false =>
            cases failed
            exact absurd rfl early

theorem eq_of_mapHardware {output : Bytes}
    (failed : i.mapHardware caller request = .ok (⟨.error status, output⟩, i'))
    (early : status ≠ .insufficientResources) : i' = i := by
  unfold mapHardware at failed
  split at failed
  · cases failed
    rfl
  · split at failed
    · cases failed
      rfl
    · exact eq_of_mapIntoCaller failed early

theorem alike_reportMapFailure (i : Instance) (status : Status) :
    i.Alike process (Equiv.refl _) (i.reportMapFailure status) := by
  unfold reportMapFailure
  split
  · exact ⟨i.device.renumber_refl.symm, rfl, rfl⟩
  · exact ⟨i.device.renumber_refl.symm, rfl, rfl⟩

theorem alike_of_refusal {served : Served} (kind : request.code.kind? = some .mapHardware)
    (answered : i.deviceControl caller request = .ok (served, i'))
    (refused : served.completion.status.isRefusal = true) : i.Alike process (Equiv.refl _) i' := by
  obtain ⟨⟨dispatch, i₁⟩, first, answered⟩ := Checked.bind_eq_ok_iff.1 answered
  unfold inCallerContext at first
  rw [kind] at first
  obtain ⟨⟨⟨result, output⟩, i₂⟩, mapped, first⟩ := Checked.bind_eq_ok_iff.1 first
  cases first
  cases answered
  cases result with
  | ok count => cases refused
  | error status =>
    have early : status ≠ .insufficientResources := by
      rintro rfl
      cases refused
    -- What is said about the refusal is all that is new.
    rw [eq_of_mapHardware mapped early]
    exact i.alike_reportMapFailure status

end Instance

/-! ## Handles that come and go -/

namespace HostedDriver

variable {d e : HostedDriver}

theorem alike_of_device (device : e.device = d.device) (platform : d.platform.Alike e.platform)
    (held : e.held = d.held) (handles : e.handles = d.handles) :
    d.Alike process (Equiv.refl _) e := by
  refine ⟨?_, platform, held, handles⟩
  rw [device]
  cases d.device <;> simp

theorem alike_of_refusal {caller : Caller} {request : IoRequest} {served : Served}
    (kind : request.code.kind? = some .mapHardware)
    (answered : d.control caller request = .ok (served, e))
    (refused : served.completion.status.isRefusal = true) : d.Alike process (Equiv.refl _) e := by
  cases live : d.device with
  | none =>
    unfold control instance? at answered
    rw [live] at answered
    cases answered
    exact alike_of_device rfl ⟨rfl, rfl⟩ rfl rfl
  | some device =>
    obtain ⟨j, served', rfl⟩ := control_eq_ok live answered
    have alike : Instance.Alike process (.refl _) _ j := Instance.alike_of_refusal kind served' refused
    refine ⟨?_, alike.platform, rfl, rfl⟩
    rw [live]
    exact congrArg some alike.device

/-- The close of a handle that nothing was lent to leaves no trace on the driver. -/
theorem cleanUp_of_unlent {caller : Caller} (unlent : d.borrower? ≠ some caller) :
    (d.cleanUp caller).2 = d := by
  rw [cleanUp_eq]
  cases live : d.device with
  | none => rfl
  | some device =>
    have other : device.context.user.map UserMapping.owner ≠ some caller := by
      unfold borrower? at unlent
      rw [live] at unlent
      exact unlent
    dsimp only
    rw [Instance.snd_cleanUp, if_neg other]
    unfold putInstance
    rw [← live]

end HostedDriver

namespace Host

variable {h h' h'' : Host}

theorem alike_of_drivers (process : h'.process = h.process) (drivers : h'.drivers = h.drivers) :
    h.Alike (Equiv.refl _) h' := by
  refine ⟨process, ?_⟩
  rw [drivers]
  simp only [HostedDriver.renumber_refl]

/-- A driver that is replaced by one like it. -/
theorem alike_of_set {i : Nat} {d e : HostedDriver} (there : h.drivers[i]? = some d)
    (alike : d.Alike h.process (Equiv.refl _) e) (process : h'.process = h.process)
    (drivers : h'.drivers = h.drivers.set i e) : h.Alike (Equiv.refl _) h' := by
  have forgotten := HostedDriver.alike_iff_forget.1 alike
  rw [HostedDriver.renumber_refl] at forgotten
  obtain ⟨inside, rfl⟩ := List.getElem?_eq_some_iff.1 there
  refine ⟨process, ?_⟩
  simp only [drivers, HostedDriver.renumber_refl]
  rw [List.map_set, forgotten, ← List.map_set, List.set_getElem_self]

theorem parts_closeChannel {i : Nat} {d : HostedDriver} (there : h.drivers[i]? = some d)
    (handle : HandleId) :
    (h.closeChannel (.driver i handle)).process = h.process
      ∧ (h.closeChannel (.driver i handle)).drivers
        = h.drivers.set i (d.cleanUp ⟨h.process, handle⟩).2.forget.dropHandle.forget := by
  simp only [closeChannel, there]
  exact ⟨rfl, List.set_set _⟩

/-- The channel is opened and closed again, and nothing was lent through it meanwhile. -/
theorem alike_of_opened {interface : Interface} {channel : Channel}
    (opens : h.openInterface interface = some (channel, h'))
    (fresh : ∀ d ∈ h.drivers, d.borrower? ≠ some h.nextCaller) :
    h.Alike (Equiv.refl _) (h'.closeChannel channel) := by
  cases interface with
  | standIn s =>
    cases opens
    exact alike_of_drivers rfl rfl
  | driver i =>
    obtain ⟨d, device, there, held, live, rfl, rfl⟩ := openInterface_driver opens
    -- The driver has one handle more, nothing to take back, and then one handle less.
    let more : HostedDriver := ({ d with handles := d.handles + 1 } : HostedDriver).forget
    have cleaned : (more.cleanUp h.nextCaller).2 = more :=
      HostedDriver.cleanUp_of_unlent (fresh d (List.mem_of_getElem? there))
    have dropped : more.forget.dropHandle = d.forget := HostedDriver.dropHandle_of_held held
    obtain ⟨process, drivers⟩ := parts_closeChannel
      (h := { h.putDriver i { d with handles := d.handles + 1 } with opened := h.opened + 1 })
      (d := more) (List.getElem?_set_self (List.getElem?_eq_some_iff.1 there).1) (.nth (h.opened + 1))
    refine alike_of_set (e := d.forget) there
      (HostedDriver.alike_of_device rfl ⟨rfl, rfl⟩ rfl rfl) process (drivers.trans ?_)
    show (h.drivers.set i more).set i (more.cleanUp h.nextCaller).2.forget.dropHandle.forget = _
    rw [cleaned, dropped, List.set_set]
    rfl

/-- The driver at the end of the channel refuses, or there is a stand-in that does. -/
theorem alike_of_refused {channel : Channel} {code : ControlCode} {input : Bytes} {outputSize : Nat}
    {status : Status} (kind : code.kind? = some .mapHardware)
    (sent : h.control channel code input outputSize = .ok (.error status, h'))
    (refused : status.isRefusal = true) : h.Alike (Equiv.refl _) h' := by
  cases channel with
  | standIn s =>
    have noted : h.note (.standInCalled s.label code input outputSize) = h' :=
      congrArg Prod.snd (Except.ok.inj sent)
    rw [← noted]
    exact alike_of_drivers rfl rfl
  | driver i handle =>
    obtain ⟨⟨served, h₁⟩, done, answered⟩ := Checked.bind_eq_ok_iff.1 sent
    rcases withDriver_eq_ok done with ⟨rfl, rfl, -⟩ | ⟨d, a, e, there, operated, rfl, rfl⟩
    · cases answered
      exact alike_of_drivers rfl rfl
    · obtain ⟨⟨completed, information⟩, output⟩ := a
      have same : completed = status ∧ h' = h.putDriver i e := by
        cases completed <;> cases answered <;> exact ⟨rfl, rfl⟩
      obtain ⟨rfl, rfl⟩ := same
      have alike : d.Alike h.process (.refl _) e := HostedDriver.alike_of_refusal kind operated refused
      exact alike_of_set (e := e.forget) there ⟨alike.device,
        ⟨alike.platform.bus, alike.platform.memory⟩, alike.held, alike.handles⟩ rfl rfl

theorem alike_of_unmapped {channel : Channel} {address : RequestAddress} {deviceId : UInt16}
    {status : Status} (sent : h.mapHardware channel address deviceId = .ok (.error status, h'))
    (refused : status.isRefusal = true) : h.Alike (Equiv.refl _) h' := by
  obtain ⟨⟨response, h₁⟩, requested, answered⟩ := Checked.bind_eq_ok_iff.1 sent
  obtain ⟨⟨answer, h₂⟩, controlled, reported⟩ := Checked.bind_eq_ok_iff.1 requested
  -- The status is that of the response: the others are no refusals.
  have failed : response = .error status ∧ h' = h₁ := by
    dsimp only at answered
    split at answered
    · cases answered
      exact ⟨rfl, rfl⟩
    · cases answered
    · cases answered
      cases refused
  obtain ⟨rfl, rfl⟩ := failed
  dsimp only at reported
  split at reported
  · cases reported
    exact alike_of_refused rfl controlled refused
  · cases reported
    have alike := alike_of_refused rfl controlled refused
    exact ⟨alike.process, alike.drivers⟩
  · next information output =>
    cases decoded : Response.decode RequestKind.mapHardware.controlCode output information with
    | error e =>
      have mapped : e.status = status := by
        have answers := congrArg Prod.fst (Except.ok.inj reported)
        exact Except.error.inj ((congrArg (Except.mapError RecordError.status) decoded).symm.trans answers)
      rw [← mapped, e.isRefusal_status] at refused
      cases refused
    | ok response =>
      have answers := congrArg Prod.fst (Except.ok.inj reported)
      cases (congrArg (Except.mapError RecordError.status) decoded).symm.trans answers

end Host

/-! ## Nodes that are passed over -/

namespace Survey

/-- The node is passed over, for a reason that its texts give or that its interface gives. -/
inductive Drops (s : Survey) (tree : DeviceTree) (node : DeviceNode) : Skip → Survey → Prop where
  | unidentified {skip : Skip} (failed : node.identify = .error skip) :
      Drops s tree node skip { s with host := s.host.tell [skip.message node.id] }
  | unopened {address : FunctionAddress} {id : HardwareId} {skip : Skip} {s' : Survey}
      (identified : node.identify = .ok (address, id)) (unbound : s.devices.isBound address = false)
      (failed : s.openNode tree node address id = .ok (.error skip, s')) :
      Drops s tree node skip { s' with host := s'.host.tell [skip.message node.id] }

variable {s s' t : Survey} {tree : DeviceTree} {node : DeviceNode} {skip : Skip}

/-- A node counts unless it is passed over. -/
theorem visit_eq_false_iff :
    s.visit tree node = .ok (false, t) ↔ ∃ skip, s.Drops tree node skip t := by
  constructor
  · intro visited
    unfold visit at visited
    split at visited
    · next skip failed =>
      cases visited
      exact ⟨skip, .unidentified failed⟩
    · next address id identified =>
      split at visited
      · cases visited
      · next unbound =>
        obtain ⟨⟨result, s₁⟩, opened, visited⟩ := Checked.bind_eq_ok_iff.1 visited
        cases result with
        | error skip =>
          cases visited
          exact ⟨skip, .unopened identified (Bool.eq_false_iff.2 unbound) opened⟩
        | ok r => cases visited
  · rintro ⟨skip, drops⟩
    unfold visit
    cases drops with
    | unidentified failed => rw [failed]
    | unopened identified unbound failed =>
      rw [identified]
      dsimp only
      rw [unbound, failed]
      rfl

/-- What the process knows does not change by an attempt that fails. -/
theorem kept_of_openNode {address : FunctionAddress} {id : HardwareId}
    (failed : s.openNode tree node address id = .ok (.error skip, t)) :
    t.devices = s.devices ∧ t.config = s.config := by
  cases opening_of_openNode failed with
  | missing => exact ⟨rfl, rfl⟩
  | refused opens maps | unstored opens maps => exact ⟨rfl, rfl⟩

theorem Drops.kept (drops : s.Drops tree node skip t) :
    t.devices = s.devices ∧ t.config = s.config := by
  cases drops with
  | unidentified failed => exact ⟨rfl, rfl⟩
  | unopened identified unbound failed =>
    obtain ⟨devices, config⟩ := kept_of_openNode failed
    exact ⟨devices, config⟩

/-- Nothing is lent to the handle that is opened next. -/
theorem Fresh.unlent {n : Nat} (fresh : s.Fresh (n + 1)) :
    ∀ d ∈ s.host.drivers, d.borrower? ≠ some s.host.nextCaller :=
  fun d hd lent => fresh.first (.inl ⟨d, hd, lent⟩)

theorem alike_of_openNode {address : FunctionAddress} {id : HardwareId} {n : Nat}
    (failed : s.openNode tree node address id = .ok (.error skip, t)) (useless : skip.isUseless = true)
    (fresh : s.Fresh (n + 1)) :
    s.host.Alike (Equiv.refl _) t.host := by
  cases opening_of_openNode failed with
  | missing => exact Host.alike_of_drivers rfl rfl
  | @refused _ channel host host' status opens maps =>
    have returned := Host.alike_of_opened opens fresh.unlent
    -- Between the opening and the close the driver stayed as it was.
    have closed := (Host.alike_of_unmapped maps useless).closeChannel channel
    rw [Channel.renumber_refl] at closed
    have whole := returned.trans_refl closed
    exact ⟨whole.process, whole.drivers⟩
  | unstored opens maps => cases useless

/-- **A node that is of no use leaves everything as it was**, whatever was found before: what the process
knows, what the drivers hold and what is mapped.  Only the number of handles opened may have changed. -/
theorem Drops.alike {n : Nat} (drops : s.Drops tree node skip t) (useless : skip.isUseless = true)
    (fresh : s.Fresh (n + 1)) : s.Alike (Equiv.refl _) t := by
  obtain ⟨devices, config⟩ := drops.kept
  refine ⟨?_, by rw [devices, DeviceList.renumber_refl], config⟩
  cases drops with
  | unidentified failed => exact Host.alike_of_drivers rfl rfl
  | unopened identified unbound failed =>
    have host := alike_of_openNode failed useless fresh
    exact ⟨host.process, host.drivers⟩

theorem Alike.trans_refl (alike : s.Alike σ s') (same : s'.Alike (Equiv.refl _) t) : s.Alike σ t where
  host := alike.host.trans_refl same.host
  devices := by rw [same.devices, DeviceList.renumber_refl, alike.devices]
  config := same.config.trans alike.config

/-! ## Passes -/

/-- The pass over the first list, which starts from `s`, comes by nodes that turn out to be of no use to
it, anywhere between those of the second list. -/
inductive Inserts (tree : DeviceTree) : Survey → List DeviceNode → List DeviceNode → Prop where
  | done (s : Survey) : Inserts tree s [] []
  | kept {s : Survey} {node : DeviceNode} {long short : List DeviceNode} (sublist : short.Sublist long)
      (rest : ∀ counts t, s.visit tree node = .ok (counts, t) → Inserts tree t long short) :
      Inserts tree s (node :: long) (node :: short)
  | dropped {s t : Survey} {node : DeviceNode} {skip : Skip} {long short : List DeviceNode}
      (drops : s.Drops tree node skip t) (useless : skip.isUseless = true)
      (rest : Inserts tree t long short) : Inserts tree s (node :: long) short

variable {long short nodes : List DeviceNode}

theorem Inserts.sublist (inserts : Inserts tree s long short) : short.Sublist long := by
  induction inserts with
  | done s => exact .slnil
  | kept sublist rest ih => exact sublist.cons_cons _
  | dropped drops useless rest ih => exact ih.cons _

/-- The surveys differ in the numbers of handles, those of `old` ones apart, and in what happened. -/
def SameUpToHandles (s : Survey) (old : HandleId → Prop) (s' : Survey) : Prop :=
  ∃ σ : Equiv.Perm HandleId, s.Alike σ s' ∧ ∀ handle, old handle → σ handle = handle

/-- A node that is passed over adds nothing to what is found. -/
theorem visitAll_of_drops (drops : s.Drops tree node skip t) :
    s.visitAll tree (node :: nodes) = t.visitAll tree nodes := by
  have visited := visit_eq_false_iff.2 ⟨skip, drops⟩
  rw [visitAll, visited]
  exact bind_pure (t.visitAll tree nodes)

/-- **Useless nodes do not interfere.**  The invariant of the two passes is that they are in surveys that
are alike; where a node of both lists comes up, the next handles of both sides are made to correspond. -/
theorem related_visitAll {old : HandleId → Prop} (inserts : Inserts tree s' long short)
    (alike : s.SameUpToHandles old s') (fresh : s.Fresh short.length) (fresh' : s'.Fresh long.length)
    (new : s.NextAvoid old short.length) (new' : s'.NextAvoid old long.length) :
    Checked.Related (fun x y => x.1 = y.1 ∧ x.2.SameUpToHandles old y.2) (s.visitAll tree short)
      (s'.visitAll tree long) := by
  induction inserts generalizing s with
  | done s' => exact .answer ⟨rfl, alike⟩
  | @kept s' node long short sublist rest ih =>
    obtain ⟨σ, alike, fixed⟩ := alike
    obtain ⟨τ, alike, next, others⟩ := alike.extend fresh fresh'
    have fixed' (handle : HandleId) (before : old handle) : τ handle = handle := by
      have unmoved : handle ≠ .nth (s.host.opened + 1) ∧ handle ≠ .nth (s'.host.opened + 1) := by
        constructor
        · rintro rfl
          exact new.first before
        · rintro rfl
          exact new'.first before
      rw [others handle unmoved.1 (by rw [fixed handle before]; exact unmoved.2), fixed handle before]
    refine (alike.visit next tree node).bind_ok ?_
    rintro ⟨counts, t⟩ ⟨_, t'⟩ visited visited' ⟨rfl, alike⟩
    have opens := opens_of_visit visited
    have opens' := opens_of_visit visited'
    refine (ih counts t' visited' ⟨τ, alike, fixed'⟩ (fresh.opens opens) (fresh'.opens opens')
      (new.opens opens) (new'.opens opens')).bind ?_
    rintro ⟨found, u⟩ ⟨_, u'⟩ ⟨rfl, alike⟩
    exact .answer ⟨rfl, alike⟩
  | @dropped s' t node skip long short drops useless rest ih =>
    obtain ⟨σ, alike, fixed⟩ := alike
    have same := drops.alike useless fresh'
    have opens := opens_of_visit (visit_eq_false_iff.2 ⟨skip, drops⟩)
    rw [visitAll_of_drops drops]
    exact ih ⟨σ, alike.trans_refl same, fixed⟩ fresh (fresh'.opens opens) new (new'.opens opens)

/-- Trees that give a node the same interface serve a visit alike, -/
theorem visit_congr {tree' : DeviceTree}
    (interface : tree'.interface? node = tree.interface? node) :
    s.visit tree' node = s.visit tree node := by
  unfold visit openNode
  rw [interface]

/-- and trees that give the same interfaces to all nodes of a pass serve the pass alike. -/
theorem visitAll_congr {tree' : DeviceTree}
    (interfaces : ∀ node ∈ nodes, tree'.interface? node = tree.interface? node) :
    s.visitAll tree' nodes = s.visitAll tree nodes := by
  induction nodes generalizing s with
  | nil => rfl
  | cons node nodes ih =>
    rw [visitAll, visitAll, visit_congr (interfaces node List.mem_cons_self)]
    exact congrArg _ (funext fun visited =>
      congrArg (· >>= _) (ih fun node later => interfaces node (List.mem_cons_of_mem _ later)))

/-! ## Scans -/

/-- Every node is passed over, one after the other. -/
inductive DropsAll (tree : DeviceTree) : Survey → List DeviceNode → Survey → Prop where
  | nil (s : Survey) : DropsAll tree s [] s
  | cons {s t u : Survey} {node : DeviceNode} {skip : Skip} {nodes : List DeviceNode}
      (drops : s.Drops tree node skip t) (rest : DropsAll tree t nodes u) :
      DropsAll tree s (node :: nodes) u

theorem DropsAll.kept (drops : DropsAll tree s nodes t) :
    t.devices = s.devices ∧ t.config = s.config := by
  induction drops with
  | nil s => exact ⟨rfl, rfl⟩
  | cons drops rest ih =>
    exact ⟨ih.1.trans drops.kept.1, ih.2.trans drops.kept.2⟩

/-- Nothing is found exactly if every node is passed over. -/
theorem visitAll_eq_zero_iff : s.visitAll tree nodes = .ok (0, t) ↔ DropsAll tree s nodes t := by
  induction nodes generalizing s with
  | nil =>
    constructor
    · rintro ⟨⟩
      exact .nil _
    · rintro ⟨⟩
      rfl
  | cons node nodes ih =>
    constructor
    · intro visited
      obtain ⟨⟨counts, u⟩, first, visited⟩ := Checked.bind_eq_ok_iff.1 visited
      obtain ⟨⟨found, v⟩, later, visited⟩ := Checked.bind_eq_ok_iff.1 visited
      obtain ⟨none, rfl⟩ := Prod.mk.inj (Except.ok.inj visited)
      cases counts with
      | true => cases none
      | false =>
        obtain rfl : found = 0 := none
        obtain ⟨skip, drops⟩ := visit_eq_false_iff.1 first
        exact .cons drops (ih.1 later)
    · rintro (_ | ⟨drops, rest⟩)
      rw [visitAll_of_drops drops]
      exact ih.2 rest

/-- The survey at the start of a scan. -/
def begun (s : Survey) (classFilter : Option String) : Survey :=
  { s with host := s.host.note (.nodesListed classFilter) }

theorem scan_of_listed {classFilter : Option String} (listed : tree.list classFilter = .ok nodes) :
    s.scan tree classFilter = (s.begun classFilter).visitAll tree nodes >>= fun x =>
      .ok (if x.1 = 0 then .error .noDevices else .ok x.1,
        x.2.say .info ("PCI scan found " ++ toString x.1 ++ " devices")) := by
  unfold scan
  rw [listed]
  rfl

theorem scan_eq_noDevices {classFilter : Option String} (listed : tree.list classFilter = .ok nodes) :
    s.scan tree classFilter = .ok (.error .noDevices, t) ↔
      ∃ u, DropsAll tree (s.begun classFilter) nodes u
        ∧ t = u.say .info ("PCI scan found " ++ toString 0 ++ " devices") := by
  rw [scan_of_listed listed]
  constructor
  · intro scanned
    obtain ⟨⟨found, u⟩, visited, scanned⟩ := Checked.bind_eq_ok_iff.1 scanned
    obtain ⟨answer, rfl⟩ := Prod.mk.inj (Except.ok.inj scanned)
    obtain rfl : found = 0 := by
      by_contra some
      rw [if_neg some] at answer
      cases answer
    exact ⟨u, visitAll_eq_zero_iff.1 visited, rfl⟩
  · rintro ⟨u, drops, rfl⟩
    rw [visitAll_eq_zero_iff.2 drops]
    rfl

/-- **Nodes that lead nowhere do not interfere.**  Two trees list nodes with the same interfaces, but the
first lists others too, which turn out to be of no use when the scan comes to them.  The scans answer the
same and leave the same devices, segment lists, drivers and loans, but for the numbers of the handles that
they open.  A scan finds no devices exactly if it passes over every node, and then it leaves the devices
and the segment lists as they were. -/
theorem scan_bystanders {tree' : DeviceTree} {classFilter : Option String}
    (listed : tree.list classFilter = .ok long) (listed' : tree'.list classFilter = .ok short)
    (interfaces : ∀ node ∈ short, tree'.interface? node = tree.interface? node)
    (inserts : Inserts tree (s.begun classFilter) long short) (fresh : s.Fresh long.length) :
    Checked.Related (fun x y => x.1 = y.1 ∧ x.2.SameUpToHandles s.Uses y.2) (s.scan tree' classFilter)
        (s.scan tree classFilter)
      ∧ ((∃ t, s.scan tree classFilter = .ok (.error .noDevices, t))
        ↔ ∃ t, DropsAll tree (s.begun classFilter) long t)
      ∧ ∀ t, s.scan tree classFilter = .ok (.error .noDevices, t) →
          t.devices = s.devices ∧ t.config = s.config := by
  refine ⟨?_, ?_, ?_⟩
  · have begun : (s.begun classFilter).SameUpToHandles s.Uses (s.begun classFilter) :=
      ⟨.refl _, ⟨Host.alike_of_drivers rfl rfl, (DeviceList.renumber_refl _).symm, rfl⟩, fun _ _ => rfl⟩
    -- The survey at the start of the scan has opened the same handles and uses the same ones.
    have next : (s.begun classFilter).NextAvoid s.Uses long.length := ⟨fresh.room, fresh.avoided⟩
    have next' := next.shorten inserts.sublist.length_le
    rw [scan_of_listed listed, scan_of_listed listed', visitAll_congr interfaces]
    refine (related_visitAll inserts begun next' next next' next).bind ?_
    rintro ⟨found, u⟩ ⟨_, u'⟩ ⟨rfl, σ, alike, fixed⟩
    exact .answer ⟨rfl, σ, ⟨alike.host.tell _ _, alike.devices, alike.config⟩, fixed⟩
  · constructor
    · rintro ⟨t, scanned⟩
      obtain ⟨u, drops, -⟩ := (scan_eq_noDevices listed).1 scanned
      exact ⟨u, drops⟩
    · rintro ⟨u, drops⟩
      exact ⟨_, (scan_eq_noDevices listed).2 ⟨u, drops, rfl⟩⟩
  · intro t scanned
    obtain ⟨u, drops, rfl⟩ := (scan_eq_noDevices listed).1 scanned
    exact drops.kept

/-- The driver refuses to map its card through the node that is mistaken about the place. -/
theorem drops_mistakenNode : ∃ s₀ skip t, (start ⟨7⟩).run preparedCard = .ok s₀
    ∧ (s₀.begun none).Drops twoNodes mistakenNode skip t ∧ skip.isUseless = true
    ∧ s₀.host.opened = 0 ∧ (∀ d ∈ s₀.host.drivers, d.borrower? = none) ∧ s₀.devices.records = [] := by
  have computed : ((start ⟨7⟩).run preparedCard).toOption.any (fun s₀ =>
      (openNode (s₀.begun none) twoNodes mistakenNode ⟨0, 4, 0, 0⟩ cardId).toOption.any fun opened =>
        decide (opened.1 = .error (.map .notSameDevice)) && decide (s₀.host.opened = 0)
        && s₀.host.drivers.all (fun d => d.borrower?.isNone) && s₀.devices.records.isEmpty) = true := by
    decide +kernel
  obtain ⟨s₀, prepared, computed⟩ := exists_ok_of_any computed
  obtain ⟨⟨result, t⟩, opened, computed⟩ := exists_ok_of_any computed
  simp only [Bool.and_eq_true, decide_eq_true_eq, List.all_eq_true, Option.isNone_iff_eq_none,
    List.isEmpty_iff] at computed
  obtain ⟨⟨⟨rfl, opened₀⟩, unlent⟩, empty⟩ := computed
  have identified : mistakenNode.identify.toOption = some (⟨0, 4, 0, 0⟩, cardId) := by decide +kernel
  have unbound : (s₀.begun none).devices.isBound ⟨0, 4, 0, 0⟩ = false := by
    show s₀.devices.isBound _ = false
    unfold DeviceList.isBound DeviceList.get?
    rw [empty]
    rfl
  exact ⟨s₀, _, _, prepared, .unopened (eq_ok_of_toOption identified) unbound opened, rfl, opened₀,
    unlent, empty⟩

/-- With and without the mistaken node the scan finds the card. -/
theorem scan_bystanders_mistaken : ∃ s₀, (start ⟨7⟩).run preparedCard = .ok s₀
    ∧ Inserts twoNodes (s₀.begun none) [mistakenNode, rightNode] [rightNode] ∧ s₀.Fresh 2
    ∧ Checked.Related (fun x y => x.1 = y.1 ∧ x.2.SameUpToHandles s₀.Uses y.2)
        (s₀.scan (.leadingTo (some (.driver 0)) [rightNode]) none) (s₀.scan twoNodes none) := by
  obtain ⟨s₀, skip, t, prepared, drops, useless, opened, unlent, empty⟩ := drops_mistakenNode
  have inserts : Inserts twoNodes (s₀.begun none) [mistakenNode, rightNode] [rightNode] :=
    .dropped drops useless (.kept (.refl _) fun _ t _ => .done t)
  have fresh : s₀.Fresh 2 := by
    refine ⟨by rw [opened]; decide, ?_⟩
    rintro k later last (⟨d, hd, lent⟩ | ⟨r, hr, held⟩)
    · rw [unlent d hd] at lent
      cases lent
    · rw [empty] at hr
      cases hr
  have listed : twoNodes.list none = .ok [mistakenNode, rightNode] := rfl
  have listed' : (DeviceTree.leadingTo (some (.driver 0)) [rightNode]).list none = .ok [rightNode] :=
    rfl
  obtain ⟨related, -⟩ := scan_bystanders listed listed' (fun _ _ => rfl) inserts fresh
  exact ⟨s₀, prepared, inserts, fresh, related⟩

/-- A scan of any tree that knows the right node of a prepared card acquires the card there. -/
theorem exists_acquired_card : ∃ s₀ s₁, (start ⟨7⟩).run preparedCard = .ok s₀ ∧ s₀.devices = .empty
    ∧ s₁.devices.len = 1 ∧ s₁.devices.isBound cardAddress = true
    ∧ ∀ tree, tree.interface? rightNode = some (.driver 0) →
      (s₀.begun none).visit tree rightNode = .ok (true, s₁) := by
  have computed : (((start ⟨7⟩).run preparedCard).toOption.bind fun s₀ =>
      ((s₀.begun none).acquiredWhole twoNodes rightNode cardAddress cardId).map fun s₁ =>
      decide (s₀.devices = .empty ∧ s₁.devices.len = 1 ∧ s₁.devices.isBound cardAddress = true))
        = some true := by
    decide +kernel
  obtain ⟨s₀, prepared, computed⟩ := Option.bind_eq_some_iff.1 computed
  obtain ⟨s₁, acquired, computed⟩ := Option.map_eq_some_iff.1 computed
  obtain ⟨empty, one, bound⟩ := of_decide_eq_true computed
  refine ⟨s₀, s₁, eq_ok_of_toOption prepared, empty, one, bound, fun tree interface => ?_⟩
  have unbound : (s₀.begun none).devices.isBound cardAddress = false := by
    show s₀.devices.isBound cardAddress = false
    rw [empty]
    rfl
  have same : tree.interface? rightNode = twoNodes.interface? rightNode := interface
  rw [visit_congr same]
  exact visit_of_acquiredWhole identify_rightNode unbound acquired

/-- A node whose function is bound counts, whatever interface it has. -/
theorem visit_of_bound {address : FunctionAddress} {id : HardwareId}
    (identified : node.identify = .ok (address, id)) (bound : s.devices.isBound address = true) :
    s.visit tree node
      = .ok (true, s.say .debug (node.id ++ ": " ++ address.toText ++ " is already mapped")) := by
  unfold visit
  rw [identified]
  dsimp only
  rw [if_pos bound]

/-- A scan binds the card.  A later one that comes by the card's node counts it, although the node has no
interface any more; without the node it finds nothing. -/
theorem bound_node_counts : ∃ s₀ s t t', (start ⟨7⟩).run preparedCard = .ok s₀
    ∧ s₀.scan (.leadingTo (some (.driver 0)) [rightNode]) none = .ok (.ok 1, s)
    ∧ s.scan (.leadingTo none [rightNode]) none = .ok (.ok 1, t)
    ∧ s.scan (.leadingTo none []) none = .ok (.error .noDevices, t') := by
  obtain ⟨s₀, s₁, prepared, -, -, bound, acquired⟩ := exists_acquired_card
  let earlier : DeviceTree := .leadingTo (some (.driver 0)) [rightNode]
  let later : DeviceTree := .leadingTo none [rightNode]
  let s : Survey := s₁.say .info ("PCI scan found " ++ toString 1 ++ " devices")
  have first : s₀.scan earlier none = .ok (.ok 1, s) := by
    rw [scan_of_listed (rfl : earlier.list none = .ok [rightNode]), visitAll, acquired earlier rfl]
    rfl
  have second : (s.begun none).visit later rightNode = .ok (true, _) :=
    visit_of_bound identify_rightNode bound
  have counted : ∃ t, s.scan later none = .ok (.ok 1, t) := by
    rw [scan_of_listed (rfl : later.list none = .ok [rightNode]), visitAll, second]
    exact ⟨_, rfl⟩
  have nothing : ∃ t, s.scan (.leadingTo none []) none = .ok (.error .noDevices, t) := ⟨_, rfl⟩
  obtain ⟨t, counted⟩ := counted
  obtain ⟨t', nothing⟩ := nothing
  exact ⟨s₀, s, t, t', prepared, first, counted, nothing⟩

end Survey

end Passthrough
