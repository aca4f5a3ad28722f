import Passthrough.Host.Host
import Passthrough.Proofs.Discovery.Loans
import Passthrough.Proofs.Protocol.Record

/-!
# Passthrough — channels to the drivers of a host

Opening an interface gives the process a new handle, and closing the channel ends it.  In between a
request goes to one driver, and only there anything changes.

* `Host.Spares` — what the callers in question have borrowed from the drivers stays as it is.
* `Host.Idle` — the same, and the process did nothing meanwhile.
* `Host.closings` — how often a handle was closed.
* `Host.openInterface_driver`, `moves_of_mapHardware`, `moves_of_closeChannel` — what opening, the request
  to map the hardware and closing do to the host.
-/

namespace Passthrough

/-- The handle that is opened as number `k`. -/
def HandleId.nth (k : Nat) : HandleId := ⟨UInt64.ofNat k⟩

theorem HandleId.nth_inj {j k : Nat} (hj : j < UInt64.size) (hk : k < UInt64.size)
    (h : nth j = nth k) : j = k := by
  have same := congrArg (fun handle => handle.number.toNat) h
  simp only [nth, UInt64.toNat_ofNat'] at same
  simp only [UInt64.size] at hj hk
  omega

/-- A response that carries a hardware record has it at the front of the output. -/
theorem Response.info_of_decode {output : Bytes} {information : Nat} {info : HardwareInfo}
    (h : decode RequestKind.mapHardware.controlCode output information = .ok (.mapHardware info)) :
    HardwareInfo.decode (output.take HardwareInfo.size) = .ok info := by
  have kind : RequestKind.mapHardware.controlCode.kind? = some .mapHardware := rfl
  have size : RequestKind.mapHardware.outputSize = HardwareInfo.size := rfl
  unfold decode at h
  rw [kind] at h
  dsimp only at h
  rw [size] at h
  split at h
  · cases h
  · cases decoded : HardwareInfo.decode (output.take HardwareInfo.size) with
    | error e =>
      rw [decoded] at h
      cases h
    | ok info' =>
      rw [decoded] at h
      cases h
      rfl

def HostEvent.closes (handle : HandleId) : HostEvent → Bool
  | .handleClosed closed _ => closed = handle
  | _ => false

namespace Host

def closings (h : Host) (handle : HandleId) : Nat := h.events.countP (HostEvent.closes handle)

/-- The handle that is opened next, with its process. -/
def nextCaller (h : Host) : Caller := ⟨h.process, .nth (h.opened + 1)⟩

/-- The handles that were opened before and that will be opened after the next are others. -/
theorem ne_nextCaller (h : Host) {n k : Nat} (room : n < UInt64.size) (next : h.opened < n)
    (few : k ≤ n) (other : k ≠ h.opened + 1) : (⟨h.process, .nth k⟩ : Caller) ≠ h.nextCaller := by
  intro same
  have handles := congrArg Caller.handle same
  exact other (HandleId.nth_inj (by omega) (by omega) handles)

/-- The books of all drivers balance. -/
def Sound (h : Host) : Prop := ∀ d ∈ h.drivers, d.Sound

/-- Nothing changed but what is kept of questions and messages. -/
structure Quiet (h h' : Host) : Prop where
  process : h'.process = h.process
  drivers : h'.drivers = h.drivers
  opened : h'.opened = h.opened
  closings : ∀ handle, h'.closings handle = h.closings handle

/-- What the callers in question have borrowed from the drivers stays with them, and they borrow nothing
more. -/
structure Spares (callers : Caller → Prop) (h h' : Host) : Prop where
  process : h'.process = h.process
  sound : h'.Sound
  /-- Every driver stays where it is, and none loses a handle. -/
  kept : ∀ (i : Nat) (d : HostedDriver), h.drivers[i]? = some d →
    ∃ d' : HostedDriver, h'.drivers[i]? = some d' ∧ d.Spares callers d' ∧ d.handles ≤ d'.handles
  borrowed : ∀ (i : Nat) (d' : HostedDriver) caller, h'.drivers[i]? = some d' → callers caller →
    d'.borrower? = some caller → ∃ d : HostedDriver, h.drivers[i]? = some d ∧ d.borrower? = some caller

/-- Driver `i`, which was `d`, is `d'` now, and the others are what they were. -/
structure Moves (h : Host) (i : Nat) (d d' : HostedDriver) (h' : Host) : Prop where
  process : h'.process = h.process
  there : h.drivers[i]? = some d
  drivers : h'.drivers = h.drivers.set i d'

variable {callers : Caller → Prop} {h h' : Host} {i : Nat} {d d' : HostedDriver} {device : Device}
  {handle : HandleId}

theorem Sound.of_getElem? (sound : h.Sound) (there : h.drivers[i]? = some d) : d.Sound :=
  sound d (List.mem_of_getElem? there)

/-! ## Putting drivers back -/

theorem closings_note (h : Host) (event : HostEvent) (handle : HandleId) :
    (h.note event).closings handle
      = h.closings handle + if event.closes handle then 1 else 0 := by
  simp [note, closings, List.countP_append, List.countP_singleton]

theorem quiet_note (h : Host) (event : HostEvent) (other : ∀ handle, event.closes handle = false) :
    h.Quiet (h.note event) where
  process := rfl
  drivers := rfl
  opened := rfl
  closings handle := by simp [closings_note, other]

theorem quiet_tell (h : Host) (messages : List Message) : h.Quiet (h.tell messages) :=
  ⟨rfl, rfl, rfl, fun _ => rfl⟩

@[simp] theorem closings_putDriver (h : Host) (i : Nat) (d : HostedDriver) (handle : HandleId) :
    (h.putDriver i d).closings handle = h.closings handle := by
  -- The calls that the driver made are events of the platform, and none of them closes a handle.
  have calls : (d.platform.calls.map (HostEvent.platform i)).countP (HostEvent.closes handle) = 0 := by
    rw [List.countP_eq_zero]
    intro event hevent
    obtain ⟨call, -, rfl⟩ := List.mem_map.1 hevent
    simp [HostEvent.closes]
  show (h.events ++ d.platform.calls.map (HostEvent.platform i)).countP (HostEvent.closes handle) = _
  rw [List.countP_append, calls]
  rfl

namespace Moves

theorem getElem?_self (moves : h.Moves i d d' h') : h'.drivers[i]? = some d' := by
  rw [moves.drivers, List.getElem?_set_self (List.getElem?_eq_some_iff.1 moves.there).1]

theorem getElem?_ne (moves : h.Moves i d d' h') {j : Nat} (other : j ≠ i) :
    h'.drivers[j]? = h.drivers[j]? := by
  rw [moves.drivers, List.getElem?_set_ne (Ne.symm other)]

theorem trans (first : h.Moves i d d' h') {d'' : HostedDriver} {h'' : Host}
    (second : h'.Moves i d' d'' h'') : h.Moves i d d'' h'' where
  process := second.process.trans first.process
  there := first.there
  drivers := by rw [second.drivers, first.drivers, List.set_set]

theorem spares (moves : h.Moves i d d' h') (sound : h.Sound) (spares : d.Spares callers d')
    (handles : d.handles ≤ d'.handles) : h.Spares callers h' where
  process := moves.process
  sound := by
    intro e he
    rw [moves.drivers] at he
    rcases List.mem_or_eq_of_mem_set he with he | rfl
    · exact sound e he
    · exact spares.sound
  kept := by
    intro j e hj
    by_cases same : j = i
    · subst same
      cases moves.there.symm.trans hj
      exact ⟨d', moves.getElem?_self, spares, handles⟩
    · rw [moves.getElem?_ne same]
      exact ⟨e, hj, HostedDriver.spares_of_same (sound.of_getElem? hj) rfl rfl, Nat.le_refl _⟩
  borrowed := by
    intro j e caller hj asked borrowed
    by_cases same : j = i
    · subst same
      cases moves.getElem?_self.symm.trans hj
      exact ⟨d, moves.there, spares.borrowed caller asked borrowed⟩
    · rw [moves.getElem?_ne same] at hj
      exact ⟨e, hj, borrowed⟩

end Moves

theorem moves_putDriver (there : h.drivers[i]? = some d) (d' : HostedDriver) :
    h.Moves i d d'.forget (h.putDriver i d') := ⟨rfl, there, rfl⟩

theorem withDriver_eq_ok {α : Type} {operation : HostedDriver → Checked (α × HostedDriver)}
    {answer : Option α} (done : h.withDriver i operation = .ok (answer, h')) :
    (answer = none ∧ h' = h ∧ h.drivers[i]? = none)
      ∨ ∃ d a d', h.drivers[i]? = some d ∧ operation d = .ok (a, d') ∧ answer = some a
        ∧ h' = h.putDriver i d' := by
  unfold withDriver at done
  split at done
  · next missing =>
    cases done
    exact .inl ⟨rfl, rfl, missing⟩
  · next d there =>
    obtain ⟨⟨a, d'⟩, operated, done⟩ := Checked.bind_eq_ok_iff.1 done
    cases done
    exact .inr ⟨d, a, d', there, operated, rfl, rfl⟩

/-! ## What others do -/

/-- The process did nothing meanwhile, and what the callers in question have borrowed stays. -/
structure Idle (callers : Caller → Prop) (h h' : Host) : Prop where
  spares : h.Spares callers h'
  opened : h'.opened = h.opened
  closings : ∀ handle, h'.closings handle = h.closings handle

theorem Sound.spares_of_drivers (sound : h.Sound) (process : h'.process = h.process)
    (drivers : h'.drivers = h.drivers) : h.Spares callers h' where
  process := process
  sound := by
    intro d there
    rw [drivers] at there
    exact sound d there
  kept := by
    intro i d there
    rw [drivers]
    exact ⟨d, there, HostedDriver.spares_of_same (sound.of_getElem? there) rfl rfl, Nat.le_refl _⟩
  borrowed := by
    intro i d caller there _ borrowed
    rw [drivers] at there
    exact ⟨d, there, borrowed⟩

theorem Quiet.idle (quiet : h.Quiet h') (sound : h.Sound) : h.Idle callers h' :=
  ⟨sound.spares_of_drivers quiet.process quiet.drivers, quiet.opened, quiet.closings⟩

/-- What is done to one driver and spares the callers there spares them on the host. -/
theorem idle_of_withDriver {α : Type} {operation : HostedDriver → Checked (α × HostedDriver)}
    {answer : Option α} (sound : h.Sound) (done : h.withDriver i operation = .ok (answer, h'))
    (each : ∀ d a d', h.drivers[i]? = some d → operation d = .ok (a, d') →
      d.Spares callers d' ∧ d'.handles = d.handles) : h.Idle callers h' := by
  rcases withDriver_eq_ok done with ⟨-, rfl, -⟩ | ⟨d, a, d', there, operated, -, rfl⟩
  · exact ⟨sound.spares_of_drivers rfl rfl, rfl, fun _ => rfl⟩
  · obtain ⟨spares, handles⟩ := each d a d' there operated
    have forgotten : d.Spares callers d'.forget :=
      spares.trans (HostedDriver.spares_of_same spares.sound rfl rfl)
    exact ⟨(moves_putDriver there d').spares sound forgotten (Nat.le_of_eq handles.symm), rfl,
      closings_putDriver h i d'⟩

theorem idle_of_operate {operation : Operation} {answer : Option (Option Outcome)} (sound : h.Sound)
    (done : h.withDriver i (·.withInstance (·.step operation)) = .ok (answer, h'))
    (others : ∀ caller, callers caller → operation.requester? ≠ some caller)
    (calm : ∀ d caller, h.drivers[i]? = some d → callers caller → d.borrower? = some caller →
      operation.endsLoanOf caller = false) : h.Idle callers h' := by
  refine idle_of_withDriver sound done fun d a d' there operated => ?_
  rcases HostedDriver.withInstance_eq_ok operated with rfl | ⟨device, outcome, j, live, stepped, rfl⟩
  · exact ⟨HostedDriver.spares_of_same (sound.of_getElem? there) rfl rfl, rfl⟩
  · exact ⟨HostedDriver.spares_of_step (sound.of_getElem? there) live stepped others
      fun caller => calm d caller there, rfl⟩

theorem idle_of_giveUp {answer : Option Unit} (sound : h.Sound)
    (done : h.withDriver i (fun d => .ok ((), d.giveUp)) = .ok (answer, h'))
    (kept : ∀ d caller, h.drivers[i]? = some d → callers caller → d.borrower? = some caller →
      0 < d.handles) : h.Idle callers h' := by
  refine idle_of_withDriver sound done fun d a d' there operated => ?_
  cases operated
  exact ⟨HostedDriver.spares_giveUp (sound.of_getElem? there) fun caller => kept d caller there,
    HostedDriver.handles_giveUp d⟩

/-- A driver that is attached joins the others and has lent nothing. -/
theorem idle_of_attach {bus : BusFunction} {memory : KernelMemory} {result : Except DriverError Unit}
    (sound : h.Sound) (fresh : memory.ledger = ⟨[], [], []⟩)
    (done : h.attach bus memory = .ok (result, h')) : h.Idle callers h' := by
  obtain ⟨⟨result', d⟩, attached, done⟩ := Checked.bind_eq_ok_iff.1 done
  obtain ⟨sound', unlent⟩ := HostedDriver.sound_of_attach fresh attached
  cases done
  have drivers : ({ h with drivers := h.drivers ++ [d] }.putDriver h.drivers.length d).drivers
      = h.drivers ++ [d.forget] := by
    simp [putDriver]
  have forgotten : d.Spares callers d.forget := HostedDriver.spares_of_same sound' rfl rfl
  refine ⟨⟨rfl, ?_, ?_, ?_⟩, rfl, closings_putDriver _ _ d⟩
  · intro e he
    rw [drivers] at he
    rcases List.mem_append.1 he with he | he
    · exact sound e he
    · rw [List.mem_singleton.1 he]
      exact forgotten.sound
  · intro j e there
    rw [drivers, List.getElem?_append_left (List.getElem?_eq_some_iff.1 there).1]
    exact ⟨e, there, HostedDriver.spares_of_same (sound.of_getElem? there) rfl rfl, Nat.le_refl _⟩
  · intro j e caller there asked borrowed
    rw [drivers, List.getElem?_append] at there
    split at there
    · exact ⟨e, there, borrowed⟩
    · -- The last driver is the new one, and nobody borrows from it.
      rw [List.mem_singleton.1 (List.mem_of_getElem? there)] at borrowed
      have lent := forgotten.borrowed caller asked borrowed
      rw [unlent] at lent
      cases lent

/-- The same process went on, and the books still balance. -/
structure Onward (h h' : Host) : Prop where
  sound : h'.Sound
  process : h'.process = h.process
  opened : h.opened ≤ h'.opened

theorem Onward.trans {h'' : Host} (first : h.Onward h') (second : h'.Onward h'') : h.Onward h'' :=
  ⟨second.sound, second.process.trans first.process, Nat.le_trans first.opened second.opened⟩

theorem Idle.onward (idle : h.Idle callers h') : h.Onward h' :=
  ⟨idle.spares.sound, idle.spares.process, Nat.le_of_eq idle.opened.symm⟩

theorem Quiet.onward (quiet : h.Quiet h') (sound : h.Sound) : h.Onward h' := by
  have idle : h.Idle (fun _ => False) h' := quiet.idle sound
  exact idle.onward

/-! ## The life of a channel -/

theorem openInterface_driver {channel : Channel}
    (opened : h.openInterface (.driver i) = some (channel, h')) :
    ∃ d device, h.drivers[i]? = some d ∧ d.held = true ∧ d.device = some device
      ∧ channel = .driver i (.nth (h.opened + 1))
      ∧ h' = { h.putDriver i { d with handles := d.handles + 1 } with opened := h.opened + 1 } := by
  obtain ⟨d, there, opened⟩ := Option.bind_eq_some_iff.1 opened
  obtain ⟨d', refers, opened⟩ := Option.bind_eq_some_iff.1 opened
  unfold HostedDriver.openHandle at refers
  split at refers
  · next usable =>
    obtain ⟨held, live⟩ := Bool.and_eq_true_iff.1 usable
    obtain ⟨device, hdevice⟩ := Option.isSome_iff_exists.1 live
    cases refers
    cases opened
    exact ⟨d, device, there, held, hdevice, rfl, rfl⟩
  · cases refers

theorem control_driver {code : ControlCode} {input : Bytes} {outputSize : Nat}
    {answer : Except Status (Nat × Bytes)} (there : h.drivers[i]? = some d)
    (live : d.device = some device)
    (sent : h.control (.driver i handle) code input outputSize = .ok (answer, h')) :
    ∃ served j, (⟨device, d.platform⟩ : Instance).deviceControl ⟨h.process, handle⟩
          ⟨code, input, List.replicate outputSize 0⟩ = .ok (served, j)
      ∧ h' = h.putDriver i (d.putInstance j)
      ∧ ∀ information output, answer = .ok (information, output) →
          served.completion.status = .success ∧ served.output = output := by
  obtain ⟨⟨result, h₁⟩, served, sent⟩ := Checked.bind_eq_ok_iff.1 sent
  rcases withDriver_eq_ok served with ⟨-, -, missing⟩ | ⟨d₁, answered, d', there', served, rfl, rfl⟩
  · rw [there] at missing
    cases missing
  · cases there.symm.trans there'
    obtain ⟨j, served', rfl⟩ := HostedDriver.control_eq_ok live served
    refine ⟨answered, j, served', ?_⟩
    obtain ⟨⟨status, information⟩, output⟩ := answered
    cases status with
    | success =>
      cases sent
      refine ⟨rfl, ?_⟩
      rintro _ _ ⟨⟩
      exact ⟨rfl, rfl⟩
    | _ =>
      cases sent
      exact ⟨rfl, by simp⟩

theorem request_driver {request : Request} {answer : Except Status Response}
    (there : h.drivers[i]? = some d) (live : d.device = some device)
    (sent : h.request (.driver i handle) request = .ok (answer, h')) :
    ∃ served j messages, (⟨device, d.platform⟩ : Instance).deviceControl ⟨h.process, handle⟩
          ⟨request.kind.controlCode, request.encode, List.replicate request.kind.outputSize 0⟩
        = .ok (served, j)
      ∧ h' = (h.putDriver i (d.putInstance j)).tell messages
      ∧ ∀ response, answer = .ok response → served.completion.status = .success
          ∧ ∃ information, Response.decode request.kind.controlCode served.output information
              = .ok response := by
  obtain ⟨⟨result, h₁⟩, sent, answered⟩ := Checked.bind_eq_ok_iff.1 sent
  obtain ⟨served, j, served', rfl, reported⟩ := control_driver there live sent
  -- A failure may be logged; the other answers leave the log alone, as telling nothing does.
  have quiet : h.putDriver i (d.putInstance j) = (h.putDriver i (d.putInstance j)).tell [] := by
    simp [tell]
  refine ⟨served, j, ?_⟩
  dsimp only at answered
  split at answered
  · cases answered
    exact ⟨[], served', quiet, by simp⟩
  · cases answered
    exact ⟨_, served', rfl, by simp⟩
  · next information output =>
    cases answered
    obtain ⟨success, same⟩ := reported information output rfl
    refine ⟨[], served', quiet, ?_⟩
    intro response decoded
    refine ⟨success, information, ?_⟩
    rw [same]
    cases hdecode : Response.decode request.kind.controlCode output information with
    | error e =>
      rw [hdecode] at decoded
      cases decoded
    | ok response' =>
      rw [hdecode] at decoded
      cases decoded
      rfl

theorem mapHardware_driver {address : RequestAddress} {deviceId : UInt16}
    {answer : Except Status HardwareInfo} (there : h.drivers[i]? = some d)
    (live : d.device = some device)
    (sent : h.mapHardware (.driver i handle) address deviceId = .ok (answer, h')) :
    ∃ request served j messages, request.code.kind? = some .mapHardware
      ∧ (⟨device, d.platform⟩ : Instance).deviceControl ⟨h.process, handle⟩ request = .ok (served, j)
      ∧ h' = (h.putDriver i (d.putInstance j)).tell messages
      ∧ ∀ info, answer = .ok info → served.completion.status = .success
          ∧ HardwareInfo.decode (served.output.take HardwareInfo.size) = .ok info := by
  obtain ⟨⟨response, h₁⟩, sent, answered⟩ := Checked.bind_eq_ok_iff.1 sent
  obtain ⟨served, j, messages, served', rfl, reported⟩ := request_driver there live sent
  refine ⟨_, served, j, messages, rfl, served', ?_⟩
  dsimp only at answered
  split at answered
  · cases answered
    exact ⟨rfl, by simp⟩
  · next info =>
    cases answered
    refine ⟨rfl, ?_⟩
    rintro _ ⟨⟩
    obtain ⟨success, information, decoded⟩ := reported _ rfl
    exact ⟨success, Response.info_of_decode decoded⟩
  · cases answered
    exact ⟨rfl, by simp⟩

/-- **Mapping through a channel.**  Only the driver at its end is changed, and only the handle may gain
something by it: on success the pool, where the answer says it is. -/
theorem moves_of_mapHardware {address : RequestAddress} {deviceId : UInt16}
    {answer : Except Status HardwareInfo} (sound : d.Sound) (there : h.drivers[i]? = some d)
    (live : d.device = some device)
    (sent : h.mapHardware (.driver i handle) address deviceId = .ok (answer, h')) :
    ∃ d', h.Moves i d d' h' ∧ d.Spares (· ≠ ⟨h.process, handle⟩) d' ∧ d'.held = d.held
      ∧ d'.handles = d.handles ∧ h'.opened = h.opened
      ∧ (∀ other, h'.closings other = h.closings other)
      ∧ ∀ info, answer = .ok info → info.scratch.size = poolSize
          ∧ d'.Lends ⟨h.process, handle⟩ info.scratch.user info.scratch.size := by
  obtain ⟨request, served, j, messages, kind, answered, rfl, reported⟩ :=
    mapHardware_driver there live sent
  have stepped := Instance.step_of_deviceControl answered
  have spares : d.Spares (· ≠ ⟨h.process, handle⟩) (d.putInstance j) := by
    refine HostedDriver.spares_of_step sound live stepped ?_ (fun _ _ _ => rfl)
    rintro other asked ⟨⟩
    exact asked rfl
  have forgotten : (d.putInstance j).Spares (· ≠ ⟨h.process, handle⟩) (d.putInstance j).forget :=
    HostedDriver.spares_of_same spares.sound rfl rfl
  have moves := moves_putDriver there (d.putInstance j)
  refine ⟨(d.putInstance j).forget, ⟨rfl, there, moves.drivers⟩, spares.trans forgotten, rfl, rfl,
    rfl, fun other => closings_putDriver h i _ other, ?_⟩
  intro info success
  obtain ⟨completed, decoded⟩ := reported info success
  obtain ⟨calls, turn, -⟩ := Instance.turn_of_deviceControl answered
  obtain ⟨pool, user, hpool, huser, howner, houtput⟩ := turn.lent_of_success kind completed
  rw [houtput, HardwareInfo.decode_encode] at decoded
  cases decoded
  -- The record says where the pool of the loan is, and the loan is what the kernel lists.
  have balanced := spares.sound.balanced j.device rfl
  refine ⟨spares.sound.size j.device pool rfl hpool,
    ⟨⟨j.device, pool, user, rfl, hpool, rfl, huser, howner, rfl⟩, ?_⟩⟩
  show _ ∈ j.platform.memory.processMappings
  have listed : j.platform.memory.processMappings = j.device.context.lent :=
    balanced.processMappings_eq
  rw [listed, Device.mem_lent_iff balanced.orderly hpool huser, howner]
  exact .inl rfl

/-- **Closing a channel.**  What was lent through the handle is taken back, everybody else is spared, and
the handle is closed once more. -/
theorem moves_of_closeChannel (sound : d.Sound) (there : h.drivers[i]? = some d)
    (held : d.held = true) (handle : HandleId) :
    ∃ d', h.Moves i d d' (h.closeChannel (.driver i handle))
      ∧ d.Spares (· ≠ ⟨h.process, handle⟩) d' ∧ d'.borrower? ≠ some ⟨h.process, handle⟩
      ∧ d'.handles = d.handles - 1 ∧ (h.closeChannel (.driver i handle)).opened = h.opened
      ∧ ∀ other, (h.closeChannel (.driver i handle)).closings other
          = h.closings other + if handle = other then 1 else 0 := by
  have spares : d.Spares (· ≠ ⟨h.process, handle⟩) (d.cleanUp ⟨h.process, handle⟩).2 :=
    HostedDriver.spares_cleanUp sound fun other => other rfl
  have returned := d.borrower?_cleanUp_ne ⟨h.process, handle⟩
  have held' : (d.cleanUp ⟨h.process, handle⟩).2.forget.held = true :=
    (d.held_cleanUp _).trans held
  have handles := d.handles_cleanUp ⟨h.process, handle⟩
  have closed : h.closeChannel (.driver i handle)
      = ((h.putDriver i (d.cleanUp ⟨h.process, handle⟩).2).note
          (.handleClosed handle (d.cleanUp ⟨h.process, handle⟩).1)).putDriver i
            (d.cleanUp ⟨h.process, handle⟩).2.forget.dropHandle := by
    simp only [closeChannel, there]
  -- The host still refers to the instance, so only the count of handles changes in the end.
  rw [closed, HostedDriver.dropHandle_of_held held']
  generalize d.cleanUp ⟨h.process, handle⟩ = cleaned at spares returned handles
  obtain ⟨answer, cleaned⟩ := cleaned
  have first := moves_putDriver there cleaned
  have dropped : cleaned.Spares (· ≠ ⟨h.process, handle⟩)
      { cleaned.forget with handles := cleaned.forget.handles - 1 }.forget :=
    HostedDriver.spares_of_same spares.sound rfl rfl
  refine ⟨_, first.trans ⟨rfl, first.getElem?_self, rfl⟩, spares.trans dropped, returned, ?_, rfl, ?_⟩
  · show cleaned.handles - 1 = d.handles - 1
    rw [handles]
  · intro other
    rw [closings_putDriver, closings_note, closings_putDriver]
    simp [HostEvent.closes]

end Host

end Passthrough
