import Passthrough.Proofs.Driver.OtherFunction
import Passthrough.Proofs.Host.ConfigAccess

/-!
# Passthrough — words of configuration space

A process reads a word of configuration space over the channel of a device record.  The driver fills as
much of the word as the bus delivers, from the front, and reports how much that is.  Of this answer the
process keeps the word alone.

```text
 offset + 4 ≤ readable      b₀ b₁ b₂ b₃    4 transferred    the word that is there
 offset < readable          b₀ b₁  0  0    2 transferred    the rest of it is zeros
 readable ≤ offset           0  0  0  0    0 transferred    all of it is zeros
```

* `BusFunction.DeliversWord`, `deliversWord_iff` — a word that is there, and where that is.
* `HostedDriver.Serves` — a driver that answers requests for an address; `Host.readRecord_of_serves` and
  `Host.readRecord_of_not_serves` say what a read comes to with such a driver and without.
* `Host.word_read_iff` — a word that was read is there exactly if it lies in the readable prefix.
-/

namespace Passthrough

/-! ## Words on the bus -/

namespace BusFunction

variable {f : BusFunction} {offset value : UInt32}

/-- The bus delivers all four bytes at `offset`, and `value` is their value, lowest byte first. -/
def DeliversWord (f : BusFunction) (offset value : UInt32) : Prop :=
  ∃ bytes f', f.read offset 4 = .ok (bytes, f') ∧ bytes.length = 4
    ∧ value.toNat = Wire.leValue bytes

theorem deliversWord_iff (hwithin : f.readable ≤ 256) :
    f.DeliversWord offset value ↔ offset.toNat + 4 ≤ f.readable
      ∧ value.toNat = Wire.leValue (f.delivered offset 4) := by
  have hread := f.read_eq hwithin offset 4
  have hlength := f.length_delivered hwithin offset 4
  constructor
  · rintro ⟨bytes, f', hread', hfour, hvalue⟩
    obtain ⟨rfl, rfl⟩ := Prod.mk.inj (Except.ok.inj (hread.symm.trans hread'))
    exact ⟨by omega, hvalue⟩
  · intro ⟨hinside, hvalue⟩
    exact ⟨_, _, hread, by omega, hvalue⟩

/-- Four bytes at most are a number below 2³². -/
theorem leValue_delivered_lt (f : BusFunction) (offset : UInt32) :
    Wire.leValue (f.delivered offset 4) < 2 ^ 32 := by
  have hshort : (f.delivered offset 4).length ≤ 4 := by
    rw [delivered, List.length_take]
    exact Nat.min_le_left ..
  calc Wire.leValue (f.delivered offset 4)
      < 256 ^ (f.delivered offset 4).length := Wire.leValue_lt _
    _ ≤ 256 ^ 4 := Nat.pow_le_pow_right (by decide) hshort

end BusFunction

/-! ## Drivers that answer, and drivers that refuse -/

namespace HostedDriver

/-- The driver has an instance, and its function is the one at `address`. -/
def Serves (d : HostedDriver) (address : RequestAddress) : Prop :=
  ∃ device, d.device = some device ∧ device.address = address

/-- Without an instance for its address no access to configuration space succeeds. -/
theorem control_of_not_serves {d : HostedDriver} {access : ConfigRequest}
    (hother : ¬d.Serves access.address) (caller : Caller) (output : Bytes) :
    ∃ status d', status ≠ .success
      ∧ d.control caller ⟨RequestKind.configAccess.controlCode, access.encode, output⟩
        = .ok (⟨⟨status, 0⟩, output⟩, d') := by
  cases hdevice : d.device with
  | none =>
    refine ⟨.invalidDeviceState, d, by decide, ?_⟩
    unfold control instance?
    rw [hdevice]
    rfl
  | some device =>
    have hforeign : access.address ≠ device.address := fun hsame => hother ⟨device, hdevice, hsame.symm⟩
    let request : IoRequest := ⟨RequestKind.configAccess.controlCode, access.encode, output⟩
    have hdecoded : Request.decode request.code request.input = .ok (.configAccess access) :=
      Request.decode_encode (.configAccess access)
    obtain ⟨said, -, hrefused⟩ := Instance.deviceControl_of_foreign (i := ⟨device, d.platform⟩) caller
      hdecoded hforeign
    refine ⟨.notSameDevice, d.putInstance ⟨device, { d.platform with log := d.platform.log ++ said }⟩,
      by decide, ?_⟩
    unfold control instance?
    rw [hdevice]
    show (Instance.deviceControl ⟨device, d.platform⟩ caller request >>= _) = _
    rw [hrefused]
    rfl

end HostedDriver

/-! ## Reads of a record -/

namespace Host

variable {h : Host} {i : Nat} {d : HostedDriver} {r : DeviceRecord Channel} {handle : HandleId}

/-- What the driver refuses comes to the process as a failure. -/
theorem exists_error_of_refused (hthere : h.drivers[i]? = some d) {access : ConfigRequest}
    {status : Status} (hfailure : status ≠ .success) {output : Bytes} {d' : HostedDriver}
    (hrefused : d.control ⟨h.process, handle⟩ ⟨RequestKind.configAccess.controlCode, access.encode,
      List.replicate RequestKind.configAccess.outputSize 0⟩ = .ok (⟨⟨status, 0⟩, output⟩, d')) :
    ∃ h', h.accessConfig (.driver i handle) access = .ok (.error status, h') := by
  have hcontrol : h.control (.driver i handle) RequestKind.configAccess.controlCode access.encode
      RequestKind.configAccess.outputSize = .ok (.error status, h.putDriver i d') := by
    unfold control withDriver
    dsimp only
    rw [hthere]
    dsimp only
    rw [hrefused]
    cases status <;> first | rfl | exact absurd rfl hfailure
  obtain ⟨h', hrequest⟩ : ∃ h', h.request (.driver i handle) (.configAccess access)
      = .ok (.error status, h') := by
    unfold request
    dsimp only [Request.kind, Request.encode]
    rw [hcontrol]
    cases status <;> exact ⟨_, rfl⟩
  refine ⟨h', ?_⟩
  unfold accessConfig
  rw [hrequest]
  rfl

/-- A read that is served answers what was delivered, with zeros for what was not. -/
theorem readRecord_of_serves (hthere : h.drivers[i]? = some d)
    (hbound : r.channel = some (.driver i handle)) (hserves : d.Serves r.address.toRequest)
    (hwithin : d.platform.bus.readable ≤ 256) (offset : UInt32) :
    ∃ value, value.toNat = Wire.leValue (d.platform.bus.delivered offset 4)
      ∧ h.readRecord r offset = .ok (.ok value, h.putDriver i (d.accessed
        { d.platform.bus with accesses := d.platform.bus.accesses + 1 }
        (.busRead offset 4 (d.platform.bus.delivered offset 4).length))) := by
  obtain ⟨device, hlive, hown⟩ := hserves
  have hread := readConfig_delivered hthere hlive handle offset .dword hwithin
  rw [hown] at hread
  have hsmall := d.platform.bus.leValue_delivered_lt offset
  have hvalue : (UInt64.ofNat (Wire.leValue (d.platform.bus.delivered offset 4))).toNat
      = Wire.leValue (d.platform.bus.delivered offset 4) := by
    rw [UInt64.toNat_ofNat']
    omega
  refine ⟨(UInt64.ofNat (Wire.leValue (d.platform.bus.delivered offset 4))).toUInt32, ?_, ?_⟩
  · rw [UInt64.toNat_toUInt32, hvalue]
    exact Nat.mod_eq_of_lt hsmall
  · unfold readRecord
    rw [hbound]
    dsimp only
    rw [hread]
    -- The value always fits a word, so this check lets everything pass.
    exact if_pos (by rw [AccessWidth.bytes, hvalue]; exact hsmall)

theorem readRecord_of_not_serves (hthere : h.drivers[i]? = some d)
    (hbound : r.channel = some (.driver i handle)) (hother : ¬d.Serves r.address.toRequest)
    (offset : UInt32) : ∃ status h', h.readRecord r offset = .ok (.error status, h') := by
  have hrequested : ¬d.Serves (ConfigRequest.read r.address.toRequest offset .dword).address := hother
  obtain ⟨status, d', hfailure, hrefused⟩ :=
    HostedDriver.control_of_not_serves hrequested ⟨h.process, handle⟩ _
  obtain ⟨h', hfailed⟩ := exists_error_of_refused hthere hfailure hrefused
  refine ⟨status, h', ?_⟩
  unfold readRecord readConfig
  rw [hbound]
  dsimp only
  rw [hfailed]
  rfl

/-- **A word that was read, and a word that is there.**  Take a record that is bound over a handle of a
driver, whose function has any configuration space, up to 256 bytes of which can be read, and any offset.

* Every word that a read answers was delivered by the bus, exactly if all four of its bytes lie in the
  readable prefix, or the driver does not serve the record's address.
* If the driver does, a read never fails.  It answers what was delivered, lowest byte first, with zeros
  for what was not, and the driver had reported how many bytes that were.
* If it does not, a read fails. -/
theorem word_read_iff (hthere : h.drivers[i]? = some d)
    (hbound : r.channel = some (.driver i handle)) (hwithin : d.platform.bus.readable ≤ 256)
    (offset : UInt32) :
    ((∀ value h', h.readRecord r offset = .ok (.ok value, h') →
          d.platform.bus.DeliversWord offset value)
        ↔ (d.Serves r.address.toRequest → offset.toNat + 4 ≤ d.platform.bus.readable))
      ∧ (d.Serves r.address.toRequest →
        ∃ value, value.toNat = Wire.leValue (d.platform.bus.delivered offset 4)
          ∧ h.readRecord r offset = .ok (.ok value, h.putDriver i (d.accessed
            { d.platform.bus with accesses := d.platform.bus.accesses + 1 }
            (.busRead offset 4 (min 4 (d.platform.bus.readable - offset.toNat))))))
      ∧ (¬d.Serves r.address.toRequest →
        ∃ status h', h.readRecord r offset = .ok (.error status, h')) := by
  have hserved := fun hserves => readRecord_of_serves hthere hbound hserves hwithin offset
  have hunserved := fun hother => readRecord_of_not_serves hthere hbound hother offset
  refine ⟨⟨fun hdelivers hserves => ?_, fun hinside value h' hread => ?_⟩, ?_, hunserved⟩
  · -- There is an answer, so what was delivered is a word.
    obtain ⟨value, -, hread⟩ := hserved hserves
    exact ((BusFunction.deliversWord_iff hwithin).1 (hdelivers _ _ hread)).1
  · by_cases hserves : d.Serves r.address.toRequest
    · obtain ⟨value', hvalue, hread'⟩ := hserved hserves
      obtain rfl : value' = value := by
        rw [hread'] at hread
        cases hread
        rfl
      exact (BusFunction.deliversWord_iff hwithin).2 ⟨hinside hserves, hvalue⟩
    · obtain ⟨status, h'', hread'⟩ := hunserved hserves
      rw [hread'] at hread
      cases hread
  · rw [← BusFunction.length_delivered hwithin]
    exact hserved

/-- A card of whose configuration space only the header can be read, mapped into a process. -/
theorem exists_bound_headerOnly : ∃ (h : Host) (d : HostedDriver) (r : DeviceRecord Channel),
    h.drivers[0]? = some d ∧ r.channel = some (.driver 0 (.nth 1))
      ∧ d.platform.bus.readable = 64 ∧ d.Serves r.address.toRequest := by
  let headerOnly : BusFunction := { card with readable := Header.size }
  have computed : (((start ⟨7⟩).attach headerOnly .fresh).toOption.bind fun attaching =>
      (attaching.2.prepare 0).toOption.bind fun preparing =>
      (preparing.2.openInterface (.driver 0)).bind fun opening =>
      (opening.2.mapHardware opening.1 ⟨3, 0, 0⟩ 0x1533).toOption.bind fun mapping =>
      mapping.1.toOption.bind fun info =>
      mapping.2.drivers[0]?.map fun d =>
      let r := (DeviceRecord.new ⟨0, 3, 0, 0⟩ ⟨0x8086, 0x1533, 0x8086, 0⟩).bind info opening.1
      decide (r.channel = some (.driver 0 (.nth 1)) ∧ d.platform.bus.readable = 64
        ∧ d.device.map Device.address = some r.address.toRequest)) = some true := by
    decide +kernel
  obtain ⟨attaching, -, computed⟩ := Option.bind_eq_some_iff.1 computed
  obtain ⟨preparing, -, computed⟩ := Option.bind_eq_some_iff.1 computed
  obtain ⟨⟨channel, h₁⟩, -, computed⟩ := Option.bind_eq_some_iff.1 computed
  obtain ⟨⟨answer, h⟩, -, computed⟩ := Option.bind_eq_some_iff.1 computed
  obtain ⟨info, -, computed⟩ := Option.bind_eq_some_iff.1 computed
  obtain ⟨d, hthere, computed⟩ := Option.map_eq_some_iff.1 computed
  obtain ⟨hbound, hreadable, hserves⟩ := of_decide_eq_true computed
  exact ⟨h, d, _, hthere, hbound, hreadable, Option.map_eq_some_iff.1 hserves⟩

/-- Of that card the last word of the header can be read. -/
theorem word_read_iff_headerOnly : ∃ (h h' : Host) (d : HostedDriver) (r : DeviceRecord Channel)
    (value : UInt32), h.drivers[0]? = some d ∧ r.channel = some (.driver 0 (.nth 1))
      ∧ d.platform.bus.readable = 64 ∧ h.readRecord r 60 = .ok (.ok value, h')
      ∧ d.platform.bus.DeliversWord 60 value := by
  obtain ⟨h, d, r, hthere, hbound, hreadable, hserves⟩ := exists_bound_headerOnly
  have hwithin : d.platform.bus.readable ≤ 256 := by omega
  have hinside : (60 : UInt32).toNat + 4 ≤ d.platform.bus.readable := Nat.le_of_eq hreadable.symm
  obtain ⟨hdelivers, hanswers, -⟩ := word_read_iff hthere hbound hwithin 60
  obtain ⟨value, -, hread⟩ := hanswers hserves
  exact ⟨h, _, d, r, value, hthere, hbound, hreadable, hread, hdelivers.2 (fun _ => hinside) _ _ hread⟩

/-- Of the word right behind the header the bus delivers nothing, and zero is read. -/
theorem exists_word_not_delivered : ∃ (h h' : Host) (d : HostedDriver) (r : DeviceRecord Channel),
    h.drivers[0]? = some d ∧ r.channel = some (.driver 0 (.nth 1))
      ∧ d.platform.bus.readable = 64 ∧ h.readRecord r 64 = .ok (.ok 0, h')
      ∧ ¬d.platform.bus.DeliversWord 64 0 := by
  obtain ⟨h, d, r, hthere, hbound, hreadable, hserves⟩ := exists_bound_headerOnly
  have hwithin : d.platform.bus.readable ≤ 256 := by omega
  obtain ⟨value, hvalue, hread⟩ := readRecord_of_serves hthere hbound hserves hwithin 64
  have hnothing : d.platform.bus.delivered 64 4 = [] := by
    rw [← List.length_eq_zero_iff, BusFunction.length_delivered hwithin, hreadable]
    rfl
  rw [hnothing] at hvalue
  obtain rfl : value = 0 := UInt32.toNat_inj.1 hvalue
  refine ⟨h, _, d, r, hthere, hbound, hreadable, hread, fun hdelivers => ?_⟩
  have hinside := ((BusFunction.deliversWord_iff hwithin).1 hdelivers).1
  rw [hreadable] at hinside
  exact absurd hinside (by decide)

end Host

end Passthrough
