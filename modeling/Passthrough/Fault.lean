import Passthrough.Failure

/-!
# Passthrough — faults and checked 64-bit arithmetic

Addresses and sizes are 64-bit words, and the sums, differences and products formed from them never
wrap: leaving the range ends the computation.  A *fault* is that kind of ending.  It is kept apart from
the errors of the domain (`DriverError`, `SegmentError`, …), which are answers.

* `Fault` — the three ways a computation can end without an answer.
* `Checked α` — a computation that answers `α` or faults (`Checked.ok_bind`, `bind_eq_ok_iff`,
  `error_of_bind`, `exists_ok_of_any`).
* `checkRange` — whether a range of bytes lies within others.
* `addChecked`, `subChecked`, `mulChecked` — the arithmetic, with one lemma each that says when it
  answers and what (`addChecked_eq_ok_iff`, …).
-/

namespace Passthrough

/-- The ways a computation can end without an answer. -/
inductive Fault where
  /-- A sum, difference or product of 64-bit words leaves the range of words. -/
  | overflow
  /-- A slice reaches past the end of the bytes it is taken from. -/
  | outOfBounds
  /-- A stated precondition does not hold. -/
  | assertion
deriving DecidableEq

/-- The name that all faults share in programs. -/
def Fault.name (_ : Fault) : String := "panic"

def Fault.message : Fault → String
  | .overflow => "arithmetic overflow"
  | .outOfBounds => "out of bounds"
  | .assertion => "assertion failed"

instance : Failure Fault := ⟨Fault.name, Fault.message⟩

/-- A computation that answers or faults. -/
abbrev Checked (α : Type) : Type := Except Fault α

theorem Checked.ok_bind {α β : Type} (a : α) (f : α → Checked β) : (Except.ok a >>= f) = f a := rfl

/-- A sequence of two computations answers exactly if both do, one after the other. -/
theorem bind_eq_ok_iff {ε α β : Type} {x : Except ε α} {f : α → Except ε β} {b : β} :
    (x >>= f) = .ok b ↔ ∃ a, x = .ok a ∧ f a = .ok b := by
  cases x with
  | error e =>
    constructor
    · intro h
      cases h
    · rintro ⟨a, h, _⟩
      cases h
  | ok a =>
    constructor
    · intro h
      exact ⟨a, rfl, h⟩
    · rintro ⟨a', h, h'⟩
      cases h
      exact h'

/-- The error of a sequence is that of its first part, or of the rest. -/
theorem error_of_bind {ε α β : Type} {x : Except ε α} {f : α → Except ε β} {e : ε}
    (failed : (x >>= f) = .error e) : x = .error e ∨ ∃ a, x = .ok a ∧ f a = .error e := by
  cases x with
  | error e' =>
    cases failed
    exact .inl rfl
  | ok a => exact .inr ⟨a, rfl, failed⟩

theorem Checked.bind_eq_ok_iff {α β : Type} {x : Checked α} {f : α → Checked β} {b : β} :
    (x >>= f) = .ok b ↔ ∃ a, x = .ok a ∧ f a = .ok b :=
  Passthrough.bind_eq_ok_iff

/-- A result that passes a test is an answer. -/
theorem exists_ok_of_any {ε α : Type} {x : Except ε α} {p : α → Bool}
    (h : x.toOption.any p = true) : ∃ a, x = .ok a ∧ p a = true := by
  cases x with
  | error e => cases h
  | ok a => exact ⟨a, rfl, h⟩

theorem eq_ok_of_toOption {ε α : Type} {x : Except ε α} {a : α} (h : x.toOption = some a) :
    x = .ok a := by
  cases x with
  | error e => cases h
  | ok b =>
    cases h
    rfl

/-! ## Checked ranges -/

/-- Nothing, if the `length` bytes from `offset` on are among `size` bytes.  The end of the range is
formed first, and it must be a word. -/
def checkRange (offset length size : Nat) : Checked Unit :=
  if UInt64.size ≤ offset + length then .error .overflow
  else if size < offset + length then .error .outOfBounds
  else .ok ()

/-! ## Checked words -/

def addChecked (a b : UInt64) : Checked UInt64 :=
  if a.toNat + b.toNat < UInt64.size then .ok (a + b) else .error .overflow

def subChecked (a b : UInt64) : Checked UInt64 :=
  if b ≤ a then .ok (a - b) else .error .overflow

def mulChecked (a b : UInt64) : Checked UInt64 :=
  if a.toNat * b.toNat < UInt64.size then .ok (a * b) else .error .overflow

theorem addChecked_eq_ok_iff {a b c : UInt64} :
    addChecked a b = .ok c ↔ c.toNat = a.toNat + b.toNat := by
  unfold addChecked
  split
  · next h =>
    simp only [Except.ok.injEq, ← UInt64.toNat_inj, UInt64.toNat_add]
    simp only [UInt64.size] at h
    omega
  · next h =>
    have hc := c.toNat_lt
    simp only [UInt64.size] at h
    simp only [reduceCtorEq, false_iff]
    omega

theorem subChecked_eq_ok_iff {a b c : UInt64} :
    subChecked a b = .ok c ↔ a.toNat = b.toNat + c.toNat := by
  unfold subChecked
  split
  · next h =>
    have h' := UInt64.le_iff_toNat_le.1 h
    simp only [Except.ok.injEq, ← UInt64.toNat_inj, UInt64.toNat_sub_of_le _ _ h]
    omega
  · next h =>
    rw [UInt64.le_iff_toNat_le] at h
    simp only [reduceCtorEq, false_iff]
    omega

theorem mulChecked_eq_ok_iff {a b c : UInt64} :
    mulChecked a b = .ok c ↔ c.toNat = a.toNat * b.toNat := by
  unfold mulChecked
  split
  · next h =>
    simp only [Except.ok.injEq, ← UInt64.toNat_inj, UInt64.toNat_mul]
    simp only [UInt64.size] at h
    rw [Nat.mod_eq_of_lt (by omega)]
    exact eq_comm
  · next h =>
    have hc := c.toNat_lt
    simp only [UInt64.size] at h
    simp only [reduceCtorEq, false_iff]
    omega

end Passthrough
