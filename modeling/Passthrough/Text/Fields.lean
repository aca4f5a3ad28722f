/-!
# Passthrough — fields and numbers in text

Texts that describe a device are cut at separators, and each piece holds a number behind other
characters.

* `fields` — the pieces between separators; joining them again gives the text (`joinFields_fields`).
* `leadingNumber` — the number a text starts with.
* `contains` — whether a text occurs in another.
* `cutBytes` — a text cut after a number of bytes.
-/

namespace Passthrough.Text

/-- The pieces of `cs` between the occurrences of `sep`; one more than there are occurrences. -/
def fields (sep : Char) : List Char → List (List Char)
  | [] => [[]]
  | c :: cs =>
    if c = sep then [] :: fields sep cs
    else match fields sep cs with
      | [] => [[c]]
      | piece :: pieces => (c :: piece) :: pieces

/-- Pieces with separators between them. -/
def joinFields (sep : Char) : List (List Char) → List Char
  | [] => []
  | [piece] => piece
  | piece :: pieces => piece ++ sep :: joinFields sep pieces

theorem fields_ne_nil (sep : Char) (cs : List Char) : fields sep cs ≠ [] := by
  cases cs with
  | nil => simp [fields]
  | cons c cs =>
    simp only [fields]
    split
    · simp
    · split <;> simp

theorem joinFields_fields (sep : Char) (cs : List Char) : joinFields sep (fields sep cs) = cs := by
  induction cs with
  | nil => rfl
  | cons c cs ih =>
    obtain ⟨piece, pieces, h⟩ := List.exists_cons_of_ne_nil (fields_ne_nil sep cs)
    simp only [fields]
    rw [h] at ih ⊢
    split
    · next hc => simp [joinFields, ih, hc]
    · cases pieces <;> simp_all [joinFields]

/-! ## Numbers -/

/-- The value of a digit to the base `radix`, in which letters of both cases stand for 10 and more. -/
def digitValue? (radix : Nat) (c : Char) : Option Nat :=
  let value :=
    if '0' ≤ c ∧ c ≤ '9' then some (c.toNat - '0'.toNat)
    else if 'a' ≤ c ∧ c ≤ 'z' then some (c.toNat - 'a'.toNat + 10)
    else if 'A' ≤ c ∧ c ≤ 'Z' then some (c.toNat - 'A'.toNat + 10)
    else none
  value.filter (· < radix)

def isDigit (radix : Nat) (c : Char) : Bool := (digitValue? radix c).isSome

/-- The number that digits to the base `radix` stand for. -/
def digitsValue (radix : Nat) (digits : List Char) : Nat :=
  digits.foldl (fun n c => radix * n + (digitValue? radix c).getD 0) 0

/-- The number that `cs` starts with, to the base `radix`: of all leading digits.  There is none
without a digit, and none if the digits do not stand for a 64-bit word. -/
def leadingNumber (radix : Nat) (cs : List Char) : Option Nat :=
  let digits := cs.takeWhile (isDigit radix)
  if digits.isEmpty then none
  else
    let n := digitsValue radix digits
    if n < UInt64.size then some n else none

/-! ## Parts of a text -/

/-- Whether `needle` occurs in a text. -/
def contains (needle : List Char) : List Char → Bool
  | [] => needle.isEmpty
  | c :: cs => needle.isPrefixOf (c :: cs) || contains needle cs

def byteLength (cs : List Char) : Nat := cs.foldr (fun c n => c.utf8Size + n) 0

/-- A text cut after `n` bytes, if a character ends there. -/
def cutBytes : Nat → List Char → Option (List Char × List Char)
  | 0, cs => some ([], cs)
  | _ + 1, [] => none
  | n + 1, c :: cs =>
    if c.utf8Size ≤ n + 1 then
      (cutBytes (n + 1 - c.utf8Size) cs).map fun (front, back) => (c :: front, back)
    else none
termination_by _ cs => cs.length

end Passthrough.Text
