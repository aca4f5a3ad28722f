import Passthrough.Text.Digits

/-!
# Passthrough — control codes and request kinds

A control code packs a device type, an access mask, a function number and a transfer method into 32
bits.  Two codes belong to the protocol; each selects a kind of request, and the kind fixes the sizes of
its records and the context it has to be served in.

* `ControlCode.pack` — the packing; bits that leave the word are lost.
* `RequestKind` — the two kinds, with `ControlCode.kind?` as the inverse of `RequestKind.controlCode`
  (`kind?_eq_some_iff`).
-/

namespace Passthrough

/-- A device-control code. -/
structure ControlCode where
  raw : UInt32
deriving DecidableEq, Inhabited

/-- What a request asks for. -/
inductive RequestKind where
  /-- Map the scratch pool and the registers into the calling process. -/
  | mapHardware
  /-- Read or write configuration space. -/
  | configAccess
deriving DecidableEq, Inhabited

namespace ControlCode

/-- The code with the given fields, from high to low: device type, access, function, method. -/
def pack (deviceType function method access : UInt32) : ControlCode :=
  ⟨(deviceType <<< 16) ||| (access <<< 14) ||| (function <<< 2) ||| method⟩

/-- The driver's own code for `function`: a network device, read and write access, buffered. -/
def ofFunction (function : UInt32) : ControlCode := pack 0x12 function 0 3

def function (c : ControlCode) : UInt32 := (c.raw >>> 2) &&& 0xFFF

def toText (c : ControlCode) : String := Text.word32 c.raw

def describe (c : ControlCode) : String := "ControlCode(" ++ c.toText ++ ")"

end ControlCode

namespace RequestKind

def controlCode : RequestKind → ControlCode
  | .mapHardware => .ofFunction 51
  | .configAccess => .ofFunction 52

/-- Whether the request must be served in the context of the process that issued it, because it
changes that process's address space. -/
def needsCaller : RequestKind → Bool
  | .mapHardware => true
  | .configAccess => false

/-- Whether the request may be served from the parallel queue. -/
def isParallel (k : RequestKind) : Bool := !k.needsCaller

/-- The two properties as a bit mask: bit 0 the caller's context, bit 1 the parallel queue. -/
def capabilities (k : RequestKind) : Nat :=
  (if k.needsCaller then 1 else 0) + (if k.isParallel then 2 else 0)

def inputSize : RequestKind → Nat
  | .mapHardware => 240
  | .configAccess => 32

def outputSize : RequestKind → Nat
  | .mapHardware => 240
  | .configAccess => 8

def name : RequestKind → String
  | .mapHardware => "MapHardware"
  | .configAccess => "ConfigIo"

end RequestKind

def ControlCode.kind? (c : ControlCode) : Option RequestKind :=
  if c = RequestKind.mapHardware.controlCode then some .mapHardware
  else if c = RequestKind.configAccess.controlCode then some .configAccess
  else none

theorem ControlCode.kind?_eq_some_iff {c : ControlCode} {k : RequestKind} :
    c.kind? = some k ↔ c = k.controlCode := by
  unfold ControlCode.kind?
  constructor
  · intro h
    split at h
    · next hc => cases h; exact hc
    · split at h
      · next hc => cases h; exact hc
      · cases h
  · rintro rfl
    cases k <;> rfl

end Passthrough
