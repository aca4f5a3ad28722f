import Passthrough.Text.Digits
import Passthrough.Wire

/-!
# Passthrough — where a PCI function sits

A function is found by its domain, bus, device and function number.  Requests carry the last three
only, in fields wide enough for any platform, and the driver derives its public name from them.

* `FunctionAddress` — the full address, ordered lexicographically; device lists are kept in that order.
* `RequestAddress` — bus, device and function as requests carry them; eight bytes on the wire.
* `InstanceName` — the name of a driver instance, and the two paths that lead to it.
-/

namespace Passthrough

/-- Domain, bus, device and function of a PCI function. -/
structure FunctionAddress where
  domain : UInt16
  bus : UInt8
  device : UInt8
  function : UInt8
deriving DecidableEq, Inhabited

/-- Bus, device and function as a request carries them. -/
structure RequestAddress where
  bus : UInt32
  device : UInt16
  function : UInt16
deriving DecidableEq, Inhabited

namespace FunctionAddress

/-- One number per address, so that the numeric order is the lexicographic one. -/
def key (a : FunctionAddress) : Nat :=
  ((a.domain.toNat * 256 + a.bus.toNat) * 256 + a.device.toNat) * 256 + a.function.toNat

theorem key_inj {a b : FunctionAddress} (h : a.key = b.key) : a = b := by
  obtain ⟨d, b₁, v, f⟩ := a
  obtain ⟨d', b', v', f'⟩ := b
  have h₁ := b₁.toNat_lt
  have h₂ := v.toNat_lt
  have h₃ := f.toNat_lt
  have h₁' := b'.toNat_lt
  have h₂' := v'.toNat_lt
  have h₃' := f'.toNat_lt
  simp only [key] at h
  simp only [mk.injEq, ← UInt16.toNat_inj, ← UInt8.toNat_inj]
  omega

/-- Lexicographic order of domain, bus, device and function. -/
instance : LT FunctionAddress := ⟨fun a b => a.key < b.key⟩

instance (a b : FunctionAddress) : Decidable (a < b) := inferInstanceAs (Decidable (a.key < b.key))

/-- The address in PCI notation, `domain:bus:device.function` in hexadecimal. -/
def toText (a : FunctionAddress) : String :=
  Text.hexLower 4 a.domain.toNat ++ ":" ++ Text.hexLower 2 a.bus.toNat ++ ":"
    ++ Text.hexLower 2 a.device.toNat ++ "." ++ Text.hexLower 1 a.function.toNat

/-- The bus, device and function that requests to this address carry. -/
def toRequest (a : FunctionAddress) : RequestAddress :=
  ⟨a.bus.toUInt32, a.device.toUInt16, a.function.toUInt16⟩

/-- `a` put in its place in a list kept in order. -/
def insertSorted (a : FunctionAddress) : List FunctionAddress → List FunctionAddress
  | [] => [a]
  | b :: bs => if b < a then b :: insertSorted a bs else a :: b :: bs

def sort (as : List FunctionAddress) : List FunctionAddress := as.foldr insertSorted []

end FunctionAddress

namespace RequestAddress

def size : Nat := 8

def encode (a : RequestAddress) : Bytes :=
  Wire.bytes32 a.bus ++ Wire.bytes16 a.device ++ Wire.bytes16 a.function

def decodeAt (bs : Bytes) (offset : Nat) : RequestAddress where
  bus := Wire.word32At bs offset
  device := Wire.word16At bs (offset + 4)
  function := Wire.word16At bs (offset + 6)

/-- The address in decimal, `bus:device:function` with at least four, two and two digits. -/
def toText (a : RequestAddress) : String :=
  Text.decimal 4 a.bus.toNat ++ ":" ++ Text.decimal 2 a.device.toNat ++ ":"
    ++ Text.decimal 2 a.function.toNat

@[simp] theorem length_encode (a : RequestAddress) : a.encode.length = size := by
  simp [encode, size]

end RequestAddress

/-! ## Names of driver instances -/

/-- The family name all driver instances share. -/
def driverFamily : String := "netuio"

/-- The kernel's namespace for device links. -/
def deviceNamespace : String := "\\DosDevices\\"

/-- The namespace through which processes open device links. -/
def userNamespace : String := "\\\\.\\"

/-- The driver instance of the function at an address. -/
structure InstanceName where
  address : RequestAddress
deriving DecidableEq

namespace InstanceName

/-- The family name, then bus, device and function in decimal without separators. -/
def toText (n : InstanceName) : String :=
  driverFamily ++ "_" ++ Text.decimal 4 n.address.bus.toNat
    ++ Text.decimal 2 n.address.device.toNat ++ Text.decimal 2 n.address.function.toNat

/-- The link the driver registers in the kernel. -/
def link (n : InstanceName) : String := deviceNamespace ++ n.toText

/-- The path a process opens to reach the link. -/
def userPath (n : InstanceName) : String := userNamespace ++ n.toText

end InstanceName

end Passthrough
