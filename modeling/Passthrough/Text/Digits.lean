/-!
# Passthrough — numbers in text

Every number that appears in a name, a message or an address is written in decimal or hexadecimal,
padded with zeros on the left to a least width.

* `decimal` — decimal digits.
* `hexLower`, `hexUpper` — hexadecimal digits with small and with capital letters.

A number with more digits than the width is written in full.
-/

namespace Passthrough.Text

/-- `digits` with zeros on the left up to `width` characters. -/
def padZeros (width : Nat) (digits : List Char) : List Char :=
  List.replicate (width - digits.length) '0' ++ digits

theorem length_padZeros (width : Nat) (digits : List Char) :
    (padZeros width digits).length = max width digits.length := by
  simp only [padZeros, List.length_append, List.length_replicate]
  omega

/-- `n` in decimal, at least `width` digits. -/
def decimal (width n : Nat) : String :=
  String.ofList (padZeros width (Nat.toDigits 10 n))

/-- `n` in hexadecimal with the letters `a` to `f`, at least `width` digits. -/
def hexLower (width n : Nat) : String :=
  String.ofList (padZeros width (Nat.toDigits 16 n))

/-- `n` in hexadecimal with the letters `A` to `F`, at least `width` digits. -/
def hexUpper (width n : Nat) : String :=
  String.ofList (padZeros width ((Nat.toDigits 16 n).map Char.toUpper))

/-- A 64-bit word as addresses are shown: `0x` and sixteen capital digits. -/
def word64 (w : UInt64) : String := "0x" ++ hexUpper 16 w.toNat

/-- A 64-bit word as traces show it: `0x` and as few small digits as it has. -/
def word64Short (w : UInt64) : String := "0x" ++ hexLower 1 w.toNat

/-- Bytes as traces show them: two small digits for each. -/
def hexBytes (bs : List UInt8) : String := String.join (bs.map fun b => hexLower 2 b.toNat)

/-- A 32-bit word as codes are shown: `0x` and eight capital digits. -/
def word32 (w : UInt32) : String := "0x" ++ hexUpper 8 w.toNat

end Passthrough.Text
