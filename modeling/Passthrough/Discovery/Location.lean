import Passthrough.Discovery.Identity
import Passthrough.Pci.Address
import Passthrough.Text.Fields

/-!
# Passthrough — location texts

A location text such as `PCI bus 5, device 0, function 0` gives bus, device and function as the first
three pieces between commas.  Each piece starts with letters and blanks, and behind them stands the
number; what follows the number does not matter.  The domain is always 0.
-/

namespace Passthrough.Location

/-- The text that marks the location of a PCI function. -/
def marker : String := "PCI"

/-- What may stand before the number of a piece. -/
def isLabelChar (c : Char) : Bool := c.isAlpha || c = ' '

/-- The number of a piece, which has to fit a byte. -/
def byteOf (input : String) (part : IdentityPart) :
    Option (List Char) → Except IdentityError UInt8
  | none => .error (.missing part input)
  | some piece =>
    match Text.leadingNumber 10 (piece.dropWhile isLabelChar) with
    | none => .error (.notANumber part input)
    | some value =>
      if value < 256 then .ok (UInt8.ofNat value) else .error (.outOfRange part value input)

/-- The address that a location text gives. -/
def parse (input : String) : Except IdentityError FunctionAddress :=
  if Text.contains marker.toList input.toList then do
    let pieces := Text.fields ',' input.toList
    let bus ← byteOf input .bus pieces[0]?
    let device ← byteOf input .device pieces[1]?
    let function ← byteOf input .function pieces[2]?
    .ok ⟨0, bus, device, function⟩
  else .error (.notPci input)

end Passthrough.Location
