import Passthrough.Proofs.Discovery.Channels
import Passthrough.Proofs.Driver.CallerContext
import Passthrough.Proofs.Protocol.RoundTrip

/-!
# Passthrough — configuration space over a channel

An access to configuration space goes from the process over a channel to the driver, through its queue to
the bus, and back.  The value is packed and unpacked on both sides, and cut twice: to the width of the
access, and to what there is of configuration space.

```text
 process                     driver                    bus
 ├── request, 32 bytes ──────▶├── width bytes ─────────▶│  space, 256 bytes
 │◀───────── output, 8 bytes ─┤◀──────────── bytes, n ──┤  readable, a prefix of it
```

* `BusFunction.Written` — what one write does to a function; `Written.valueAt`, `Written.comm`.
* `Host.accessConfig_driver` — an access that the driver serves, from the process's side.
* `Host.config_access` — writing and reading over a channel.
-/

namespace Passthrough

/-! ## Bytes -/

namespace Wire

theorem leValue_append_zeros (bs : Bytes) (n : Nat) :
    leValue (bs ++ List.replicate n 0) = leValue bs := by
  induction bs with
  | nil =>
    induction n with
    | zero => rfl
    | succ n ih => exact congrArg (0 + 256 * ·) ih
  | cons b bs ih => rw [List.cons_append, leValue, leValue, ih]

theorem length_lowBytes (width : AccessWidth) (data : UInt64) :
    ((bytes64 data).take width.bytes).length = width.bytes := by
  have narrow := width.bytes_le
  rw [List.length_take, length_bytes64]
  omega

end Wire

/-! ## The bus -/

namespace BusFunction

/-- `f'` is `f` after one access, by which the lowest `n` bytes of `data` came to stand from `start`
on. -/
structure Written (f f' : BusFunction) (start n : Nat) (data : UInt64) : Prop where
  busNumber : f'.busNumber = f.busNumber
  slot : f'.slot = f.slot
  numaNode : f'.numaNode = f.numaNode
  readable : f'.readable = f.readable
  accesses : f'.accesses = f.accesses + 1
  byte : ∀ k, f'.space[k]? = if start ≤ k ∧ k < start + n
    then some (UInt8.ofNat (data.toNat / 256 ^ (k - start))) else f.space[k]?

variable {f f' : BusFunction}

theorem written_write (f : BusFunction) (offset : UInt32) (width : AccessWidth) (data : UInt64) :
    f.Written (f.write offset ((Wire.bytes64 data).take width.bytes)).2 offset.toNat
      (writable offset width.bytes) data := by
  have narrow := width.bytes_le
  have length := Wire.length_lowBytes width data
  refine ⟨rfl, rfl, rfl, rfl, rfl, fun k => ?_⟩
  have fits := writable_fits offset ((Wire.bytes64 data).take width.bytes)
  rw [length] at fits
  show (Wire.overwrite f.space _ (List.take (writable offset (List.length _)) _))[k]? = _
  rw [length, Wire.getElem?_overwrite (by rw [f.length_space]; exact fits)]
  have arriving : writable offset width.bytes ≤ width.bytes := Nat.min_le_left ..
  rw [List.length_take, length, Nat.min_eq_left arriving]
  -- Past the end of the space nothing arrives.
  have place : min offset.toNat spaceSize = offset.toNat ∨ writable offset width.bytes = 0 := by
    simp only [writable, spaceSize]
    omega
  by_cases inside : offset.toNat ≤ k ∧ k < offset.toNat + writable offset width.bytes
  · have here := place.resolve_right (by omega)
    rw [here, if_pos inside, if_pos inside, List.getElem?_take_of_lt (by omega),
      List.getElem?_take_of_lt (by omega), Wire.bytes64, getElem?_leBytes (by omega)]
  · rw [if_neg inside, if_neg (by omega)]

/-- All bytes of a write inside of the space arrive. -/
theorem writable_of_le {offset : UInt32} {n : Nat} (fits : offset.toNat + n ≤ 256) :
    writable offset n = n := by
  simp only [writable, spaceSize]
  omega

/-- The bytes that a read of `length` bytes at `offset` gets: those that lie in the readable prefix. -/
def delivered (f : BusFunction) (offset : UInt32) (length : Nat) : Bytes :=
  ((f.space.take f.readable).drop offset.toNat).take length

theorem read_eq (within : f.readable ≤ 256) (offset : UInt32) (n : Nat) :
    f.read offset n = .ok (f.delivered offset n, { f with accesses := f.accesses + 1 }) := by
  have fits : min (min offset.toNat f.readable + n) f.readable ≤ spaceSize :=
    Nat.le_trans (Nat.min_le_right ..) within
  have cut : (f.space.drop (min offset.toNat f.readable)).take
        (min (min offset.toNat f.readable + n) f.readable - min offset.toNat f.readable)
      = f.delivered offset n := by
    refine List.ext_getElem? fun k => ?_
    simp only [delivered, List.getElem?_take, List.getElem?_drop]
    -- Byte `k` is there if `k` is below `n` and the byte lies in the prefix.
    by_cases inside : k < n ∧ offset.toNat + k < f.readable
    · rw [if_pos (by omega), if_pos inside.1, if_pos inside.2, Nat.min_eq_left (by omega)]
    · rw [if_neg (by omega)]
      split
      · rw [if_neg (by omega)]
      · rfl
  unfold read
  dsimp only
  rw [if_pos fits, cut]

theorem length_delivered (within : f.readable ≤ 256) (offset : UInt32) (n : Nat) :
    (f.delivered offset n).length = min n (f.readable - offset.toNat) := by
  simp only [delivered, List.length_take, List.length_drop, f.length_space]
  omega

/-- Of what can be read all bytes are delivered. -/
theorem delivered_of_le {offset : UInt32} {n : Nat} (inside : offset.toNat + n ≤ f.readable) :
    f.delivered offset n = (f.space.drop offset.toNat).take n := by
  rw [delivered, List.drop_take, List.take_take, Nat.min_eq_left (by omega)]

/-- What was written stands there. -/
theorem Written.valueAt {start n : Nat} {data : UInt64} (written : f.Written f' start n data) :
    Wire.valueAt f'.space start n = data.toNat % 256 ^ n := by
  have there : Wire.HasAt f'.space start (Wire.leBytes n data.toNat) := by
    rw [Wire.hasAt_iff_getElem?, Wire.length_leBytes]
    intro k below
    rw [written.byte, if_pos ⟨by omega, by omega⟩, Nat.add_sub_cancel_left,
      getElem?_leBytes below]
  have value := Wire.valueAt_of_hasAt there
  rwa [Wire.length_leBytes, Wire.leValue_leBytes] at value

/-- Two writes beside each other can be made in either order. -/
theorem Written.comm {f₁ f₂ f₁₂ f₂₁ : BusFunction} {start₁ start₂ n₁ n₂ : Nat} {data₁ data₂ : UInt64}
    (first : f.Written f₁ start₁ n₁ data₁) (then₂ : f₁.Written f₁₂ start₂ n₂ data₂)
    (second : f.Written f₂ start₂ n₂ data₂) (then₁ : f₂.Written f₂₁ start₁ n₁ data₁)
    (beside : start₁ + n₁ ≤ start₂ ∨ start₂ + n₂ ≤ start₁) : f₁₂ = f₂₁ := by
  have space : f₁₂.space = f₂₁.space := by
    refine List.ext_getElem? fun k => ?_
    rw [then₂.byte, first.byte, then₁.byte, second.byte]
    split
    · rw [if_neg (by omega)]
    · rfl
  have busNumber := (then₂.busNumber.trans first.busNumber).trans
    (then₁.busNumber.trans second.busNumber).symm
  have slot := (then₂.slot.trans first.slot).trans (then₁.slot.trans second.slot).symm
  have numaNode := (then₂.numaNode.trans first.numaNode).trans
    (then₁.numaNode.trans second.numaNode).symm
  have readable := (then₂.readable.trans first.readable).trans
    (then₁.readable.trans second.readable).symm
  have accesses : f₁₂.accesses = f₂₁.accesses := by
    rw [then₂.accesses, first.accesses, then₁.accesses, second.accesses]
  cases f₁₂
  cases f₂₁
  congr

end BusFunction

/-! ## The driver -/

namespace Instance

variable {access : ConfigRequest} {width : AccessWidth} {operation : ConfigOperation} {output : Bytes}

/-- The queue serves a request for the instance's own function that is legal and has room for its
answer, whatever state the instance is in. -/
theorem checkConfig_eq_ok (i : Instance) (own : access.address = i.device.address)
    (legal : access.accessWidth = .ok width) (known : access.configOperation = .ok operation)
    (room : 8 ≤ output.length) :
    i.checkConfig ⟨RequestKind.configAccess.controlCode, access.encode, output⟩
      = .ok (access, width, operation) := by
  have kind : RequestKind.configAccess.controlCode.kind? = some .configAccess := rfl
  have address : i.checkAddress access.address = .ok () := if_pos own
  have enough : ¬output.length < RequestKind.configAccess.outputSize := Nat.not_lt.2 room
  unfold checkConfig
  rw [if_neg (not_not_intro kind), ConfigRequest.decode_encode]
  show (i.checkAddress access.address >>= fun _ => access.accessWidth.mapError _ >>= fun width =>
    (if output.length < RequestKind.configAccess.outputSize then _ else
      access.configOperation.mapError _ >>= fun operation => .ok (access, width, operation))) = _
  rw [address, legal, known]
  dsimp only [Except.mapError, bind, Except.bind]
  rw [if_neg enough]

theorem deviceControl_configAccess (i : Instance) (caller : Caller)
    (own : access.address = i.device.address) (legal : access.accessWidth = .ok width)
    (known : access.configOperation = .ok operation) (room : 8 ≤ output.length)
    {answer : Nat × Bytes} {p : Platform}
    (done : accessConfig i.platform access width operation output = .ok (answer, p)) :
    i.deviceControl caller ⟨RequestKind.configAccess.controlCode, access.encode, output⟩
      = .ok (⟨⟨.success, answer.1⟩, answer.2⟩, { i with platform := p }) := by
  unfold deviceControl
  rw [inCallerContext_of_other (show RequestKind.configAccess.controlCode.kind? ≠ _ by decide)]
  dsimp only [bind, Except.bind]
  unfold fromQueue
  rw [i.checkConfig_eq_ok own legal known room]
  dsimp only
  rw [done]
  rfl

theorem accessConfig_write (p : Platform) (address : RequestAddress) (offset : UInt32)
    (width : AccessWidth) (data : UInt64) (output : Bytes) :
    accessConfig p (.write address offset width data) width .write output
      = .ok ((BusFunction.writable offset width.bytes, output),
          { p with bus := (p.bus.write offset ((Wire.bytes64 data).take width.bytes)).2 }.record
            (.busWrite offset ((Wire.bytes64 data).take width.bytes)
              (BusFunction.writable offset width.bytes))) := by
  have count : BusFunction.writable offset ((Wire.bytes64 data).take width.bytes).length
      = BusFunction.writable offset width.bytes := by rw [Wire.length_lowBytes]
  rw [← count]
  rfl

/-- What is read fills the front of the output, and zeros the rest. -/
theorem accessConfig_read {p : Platform} (address : RequestAddress) (offset : UInt32)
    (width : AccessWidth) (within : p.bus.readable ≤ 256) :
    ∃ output, accessConfig p (.read address offset width) width .read (List.replicate 8 0)
        = .ok (((p.bus.delivered offset width.bytes).length, output),
          { p with bus := { p.bus with accesses := p.bus.accesses + 1 } }.record
            (.busRead offset width.bytes (p.bus.delivered offset width.bytes).length))
      ∧ output.length = 8
      ∧ Wire.word64At output 0 = .ofNat (Wire.leValue (p.bus.delivered offset width.bytes)) := by
  have short : (p.bus.delivered offset width.bytes).length ≤ 8 := by
    rw [BusFunction.length_delivered within]
    exact Nat.le_trans (Nat.min_le_left ..) width.bytes_le
  have whole : (p.bus.delivered offset width.bytes
      ++ List.replicate (8 - (p.bus.delivered offset width.bytes).length) 0).length = 8 := by
    rw [List.length_append, List.length_replicate]
    omega
  refine ⟨_, ?_, whole, ?_⟩
  · have read : p.busRead offset width.bytes = .ok (p.bus.delivered offset width.bytes,
        { p with bus := { p.bus with accesses := p.bus.accesses + 1 } }.record
          (.busRead offset width.bytes (p.bus.delivered offset width.bytes).length)) := by
      unfold Platform.busRead
      rw [BusFunction.read_eq within]
      rfl
    show (p.busRead offset width.bytes >>= _) = _
    rw [read, ← List.drop_replicate]
    rfl
  · rw [Wire.word64At, Wire.valueAt, List.drop_zero, List.take_of_length_le (Nat.le_of_eq whole),
      Wire.leValue_append_zeros]

end Instance

/-- The driver after a call that left the bus as `bus`. -/
def HostedDriver.accessed (d : HostedDriver) (bus : BusFunction) (call : PlatformCall) : HostedDriver :=
  { d with platform := { d.platform with bus }.record call }

/-! ## The channel -/

namespace Host

variable {h : Host} {i : Nat} {d : HostedDriver} {device : Device}

/-- A request that the driver completes: the process gets the output with the count of bytes. -/
theorem control_of_served (there : h.drivers[i]? = some d) (live : d.device = some device)
    {handle : HandleId} {code : ControlCode} {input output : Bytes} {size information : Nat}
    {j : Instance}
    (served : (⟨device, d.platform⟩ : Instance).deviceControl ⟨h.process, handle⟩
        ⟨code, input, List.replicate size 0⟩ = .ok (⟨⟨.success, information⟩, output⟩, j)) :
    h.control (.driver i handle) code input size
      = .ok (.ok (information, output), h.putDriver i (d.putInstance j)) := by
  have instance_ : d.instance? = some ⟨device, d.platform⟩ := by
    rw [HostedDriver.instance?, live]
    rfl
  have control : d.control ⟨h.process, handle⟩ ⟨code, input, List.replicate size 0⟩
      = .ok (⟨⟨.success, information⟩, output⟩, d.putInstance j) := by
    unfold HostedDriver.control
    rw [instance_]
    dsimp only
    rw [served]
    rfl
  unfold Host.control withDriver
  dsimp only
  rw [there]
  dsimp only
  rw [control]
  rfl

theorem request_of_control {h' : Host} {channel : Channel} {request : Request} {information : Nat}
    {output : Bytes} (sent : h.control channel request.kind.controlCode request.encode
      request.kind.outputSize = .ok (.ok (information, output), h')) :
    h.request channel request = .ok ((Response.decode request.kind.controlCode output
      information).mapError RecordError.status, h') := by
  unfold Host.request
  dsimp only
  rw [sent]
  rfl

/-- An access that the driver serves: the process gets the first eight bytes of the output as a number,
and the count. -/
theorem accessConfig_driver (there : h.drivers[i]? = some d) (live : d.device = some device)
    (handle : HandleId) {access : ConfigRequest} {width : AccessWidth} {operation : ConfigOperation}
    (own : access.address = device.address) (legal : access.accessWidth = .ok width)
    (known : access.configOperation = .ok operation) {count : Nat} {output : Bytes} {bus : BusFunction}
    {call : PlatformCall} (long : 8 ≤ output.length)
    (done : Instance.accessConfig d.platform access width operation (List.replicate 8 0)
      = .ok ((count, output), { d.platform with bus }.record call)) :
    h.accessConfig (.driver i handle) access
      = .ok (.ok (Wire.word64At (output.take 8) 0, count), h.putDriver i (d.accessed bus call)) := by
  have served := (⟨device, d.platform⟩ : Instance).deviceControl_configAccess ⟨h.process, handle⟩ own
    legal known (by decide) done
  have put : d.putInstance ⟨device, { d.platform with bus }.record call⟩ = d.accessed bus call := by
    unfold HostedDriver.putInstance HostedDriver.accessed
    rw [live]
  have decoded : Response.decode RequestKind.configAccess.controlCode output count
      = .ok (.configAccess (Wire.word64At (output.take 8) 0) count) := by
    have kind : RequestKind.configAccess.controlCode.kind? = some .configAccess := rfl
    unfold Response.decode
    rw [kind]
    exact if_neg (Nat.not_lt.2 long)
  have answered : h.request (.driver i handle) (.configAccess access)
      = .ok (.ok (.configAccess (Wire.word64At (output.take 8) 0) count),
          h.putDriver i (d.accessed bus call)) := by
    have sent := control_of_served there live served
    have requested : h.request (.driver i handle) (.configAccess access) = _ :=
      request_of_control sent
    rw [requested, put]
    exact congrArg (fun response => Except.ok (Except.mapError RecordError.status response, _)) decoded
  unfold Host.accessConfig
  rw [answered]
  rfl

theorem writeConfig_driver (there : h.drivers[i]? = some d) (live : d.device = some device)
    (handle : HandleId) (offset : UInt32) (width : AccessWidth) (data : UInt64) :
    ∃ bus, h.writeConfig (.driver i handle) device.address offset width data
        = .ok (.ok (BusFunction.writable offset width.bytes), h.putDriver i (d.accessed bus
            (.busWrite offset ((Wire.bytes64 data).take width.bytes)
              (BusFunction.writable offset width.bytes))))
      ∧ d.platform.bus.Written bus offset.toNat (BusFunction.writable offset width.bytes) data := by
  refine ⟨_, ?_, d.platform.bus.written_write offset width data⟩
  have legal : (ConfigRequest.write device.address offset width data).accessWidth = .ok width :=
    AccessWidth.ofCode_eq_ok_iff.2 rfl
  have done := Instance.accessConfig_write d.platform device.address offset width data
    (List.replicate 8 0)
  unfold writeConfig
  rw [accessConfig_driver there live handle rfl legal rfl (by decide) done]
  rfl

/-- A read that the driver serves: the process gets the bytes that were delivered as a number. -/
theorem readConfig_delivered (there : h.drivers[i]? = some d) (live : d.device = some device)
    (handle : HandleId) (offset : UInt32) (width : AccessWidth)
    (within : d.platform.bus.readable ≤ 256) :
    h.readConfig (.driver i handle) device.address offset width
      = .ok (.ok (.ofNat (Wire.leValue (d.platform.bus.delivered offset width.bytes))),
          h.putDriver i (d.accessed
            { d.platform.bus with accesses := d.platform.bus.accesses + 1 }
            (.busRead offset width.bytes (d.platform.bus.delivered offset width.bytes).length))) := by
  have legal : (ConfigRequest.read device.address offset width).accessWidth = .ok width :=
    AccessWidth.ofCode_eq_ok_iff.2 rfl
  obtain ⟨output, done, length, value⟩ :=
    Instance.accessConfig_read device.address offset width within
  unfold readConfig
  rw [accessConfig_driver there live handle rfl legal rfl (Nat.le_of_eq length.symm) done, ← length,
    List.take_length, value]
  rfl

theorem readConfig_driver (there : h.drivers[i]? = some d) (live : d.device = some device)
    (handle : HandleId) (offset : UInt32) (width : AccessWidth)
    (inside : offset.toNat + width.bytes ≤ d.platform.bus.readable)
    (within : d.platform.bus.readable ≤ 256) :
    h.readConfig (.driver i handle) device.address offset width
      = .ok (.ok (.ofNat (Wire.valueAt d.platform.bus.space offset.toNat width.bytes)),
          h.putDriver i (d.accessed
            { d.platform.bus with accesses := d.platform.bus.accesses + 1 }
            (.busRead offset width.bytes width.bytes))) := by
  have length : (d.platform.bus.delivered offset width.bytes).length = width.bytes := by
    rw [BusFunction.length_delivered within]
    omega
  rw [readConfig_delivered there live handle offset width within, length,
    BusFunction.delivered_of_le inside]
  rfl

/-- The driver at the end of the channel is there after an access, as it was but for the bus. -/
theorem drivers_putDriver_accessed (there : h.drivers[i]? = some d) (bus : BusFunction)
    (call : PlatformCall) :
    (h.putDriver i (d.accessed bus call)).drivers[i]? = some (d.accessed bus call).forget :=
  (moves_putDriver there (d.accessed bus call)).getElem?_self

/-- **Configuration space over a channel.**  For an instance in any state, a handle of any number and the
instance's own address:

* A write answers how many bytes lie in configuration space.  The lowest bytes of the data come to stand
  there, by one access to the bus, and nothing else on the host changes; if they can all be read, reading
  the same place gives them.
* A read of bytes that can all be read answers their number, lowest byte first, by one access to the bus
  that changes nothing.
* Two writes inside of configuration space, one beside the other, can be made in either order. -/
theorem config_access (there : h.drivers[i]? = some d) (live : d.device = some device)
    (handle : HandleId) (offset : UInt32) (width : AccessWidth) :
    (∀ data, ∃ bus h',
        h.writeConfig (.driver i handle) device.address offset width data
            = .ok (.ok (min width.bytes (256 - min offset.toNat 256)), h')
          ∧ h' = h.putDriver i (d.accessed bus (.busWrite offset ((Wire.bytes64 data).take width.bytes)
              (min width.bytes (256 - min offset.toNat 256))))
          ∧ d.platform.bus.Written bus offset.toNat (min width.bytes (256 - min offset.toNat 256)) data
          ∧ (offset.toNat + width.bytes ≤ d.platform.bus.readable → d.platform.bus.readable ≤ 256 →
            ∃ h'', h'.readConfig (.driver i handle) device.address offset width
              = .ok (.ok (.ofNat (data.toNat % 2 ^ (8 * width.bytes))), h'')))
      ∧ (offset.toNat + width.bytes ≤ d.platform.bus.readable → d.platform.bus.readable ≤ 256 →
        h.readConfig (.driver i handle) device.address offset width
          = .ok (.ok (.ofNat (Wire.valueAt d.platform.bus.space offset.toNat width.bytes)),
              h.putDriver i (d.accessed
                { d.platform.bus with accesses := d.platform.bus.accesses + 1 }
                (.busRead offset width.bytes width.bytes))))
      ∧ ∀ (data : UInt64) (offset' : UInt32) (width' : AccessWidth) (data' : UInt64),
        offset.toNat + width.bytes ≤ 256 → offset'.toNat + width'.bytes ≤ 256 →
        offset.toNat + width.bytes ≤ offset'.toNat ∨ offset'.toNat + width'.bytes ≤ offset.toNat →
        ∃ h₁ h₁₂ h₂ h₂₁,
          h.writeConfig (.driver i handle) device.address offset width data
              = .ok (.ok width.bytes, h₁)
            ∧ h₁.writeConfig (.driver i handle) device.address offset' width' data'
              = .ok (.ok width'.bytes, h₁₂)
            ∧ h.writeConfig (.driver i handle) device.address offset' width' data'
              = .ok (.ok width'.bytes, h₂)
            ∧ h₂.writeConfig (.driver i handle) device.address offset width data
              = .ok (.ok width.bytes, h₂₁)
            ∧ h₁₂.forget = h₂₁.forget := by
  refine ⟨fun data => ?_, readConfig_driver there live handle offset width, ?_⟩
  · obtain ⟨bus, wrote, written⟩ := writeConfig_driver there live handle offset width data
    refine ⟨bus, _, wrote, rfl, written, fun inside within => ?_⟩
    rw [BusFunction.writable_of_le (Nat.le_trans inside within)] at written
    have again := drivers_putDriver_accessed there bus (.busWrite offset
      ((Wire.bytes64 data).take width.bytes) (BusFunction.writable offset width.bytes))
    have inside' : offset.toNat + width.bytes ≤ bus.readable := by rwa [written.readable]
    have within' : bus.readable ≤ 256 := by rwa [written.readable]
    have bits : 2 ^ (8 * width.bytes) = 256 ^ width.bytes := Nat.pow_mul ..
    rw [bits, ← written.valueAt]
    exact ⟨_, readConfig_driver again live handle offset width inside' within'⟩
  · intro data offset' width' data' inside inside' beside
    obtain ⟨bus₁, wrote₁, written₁⟩ := writeConfig_driver there live handle offset width data
    obtain ⟨bus₂, wrote₂, written₂⟩ := writeConfig_driver there live handle offset' width' data'
    obtain ⟨bus₁₂, wrote₁₂, written₁₂⟩ := writeConfig_driver
      (drivers_putDriver_accessed there bus₁ _) live handle offset' width' data'
    obtain ⟨bus₂₁, wrote₂₁, written₂₁⟩ := writeConfig_driver
      (drivers_putDriver_accessed there bus₂ _) live handle offset width data
    rw [BusFunction.writable_of_le inside] at wrote₁ written₁ wrote₂₁ written₂₁
    rw [BusFunction.writable_of_le inside'] at wrote₂ written₂ wrote₁₂ written₁₂
    refine ⟨_, _, _, _, wrote₁, wrote₁₂, wrote₂, wrote₂₁, ?_⟩
    -- Of what was done only the bus is left, and there the order does not show.
    obtain rfl := written₁.comm written₁₂ written₂ written₂₁ beside
    show Host.mk h.process ((h.drivers.set i _).set i _) h.opened [] []
      = Host.mk h.process ((h.drivers.set i _).set i _) h.opened [] []
    rw [List.set_set, List.set_set]
    rfl

/-- A card that was just attached: its first register is written and read back. -/
theorem config_access_card : ∃ (h : Host) (d : HostedDriver) (device : Device),
    h.drivers[0]? = some d ∧ d.device = some device ∧ device.state = .attached
      ∧ ∃ h' h'', h.writeConfig (.driver 0 (.nth 1)) device.address 16 .dword 0xF7D00000
            = .ok (.ok 4, h')
          ∧ h'.readConfig (.driver 0 (.nth 1)) device.address 16 .dword
            = .ok (.ok 0xF7D00000, h'') := by
  have computed : ((HostedDriver.attach card .fresh).toOption.any fun attached =>
      attached.2.platform.bus.readable = 256 ∧ attached.2.state? = some .attached) = true := by
    decide +kernel
  obtain ⟨⟨answer, d⟩, -, attached⟩ := exists_ok_of_any computed
  obtain ⟨readable, state⟩ := of_decide_eq_true attached
  unfold HostedDriver.state? at state
  split at state
  · obtain ⟨device, live, state⟩ := Option.map_eq_some_iff.1 state
    have there : ({ start ⟨7⟩ with drivers := [d] } : Host).drivers[0]? = some d := rfl
    obtain ⟨writes, -, -⟩ := config_access there live (.nth 1) 16 .dword
    obtain ⟨bus, h', wrote, -, -, reads⟩ := writes 0xF7D00000
    obtain ⟨h'', read⟩ := reads (by rw [readable]; decide) (Nat.le_of_eq readable)
    exact ⟨_, d, device, there, live, state, h', h'', wrote, read⟩
  · cases state

end Host

end Passthrough
