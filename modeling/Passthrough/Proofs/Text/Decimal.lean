import Mathlib.Algebra.Group.Nat.Defs
import Mathlib.Data.List.Basic
import Mathlib.Data.List.Induction
import Passthrough.Text.Digits

/-!
# Passthrough — decimal numbers

A number in a name has a least width: it is filled up with zeros, and takes more digits than that only if
it has to.

```text
 width 4      42  ↦  0042      9999  ↦  9999      10000  ↦  10000
```

Of texts of one length each stands for another number, so a number has one such text.

* `ofDigitChars_lt_pow`, `eq_of_ofDigitChars_eq` — the numbers that texts of a length stand for.
* `IsDecimal` — a text that is a number in decimal, filled up to a width.
* `IsDecimal.length_le` — how many digits it takes.
* `isDecimal_iff` — the text is the one that is written.
-/

namespace Passthrough.Text

variable {width n : Nat} {t t' : List Char}

/-! ## What digits stand for -/

theorem ofDigitChars_concat (t : List Char) (c : Char) :
    Nat.ofDigitChars 10 (t ++ [c]) 0 = 10 * Nat.ofDigitChars 10 t 0 + (c.toNat - '0'.toNat) := by
  rw [Nat.ofDigitChars_append, Nat.ofDigitChars_cons, Nat.ofDigitChars_nil]

theorem exists_toNat_of_isDigit {c : Char} (digit : c.isDigit = true) :
    ∃ k < 10, c.toNat = '0'.toNat + k := by
  obtain ⟨low, high⟩ := Char.isDigit_iff_toNat.1 digit
  have nine : '9'.toNat = '0'.toNat + 9 := rfl
  exact ⟨c.toNat - '0'.toNat, by omega, by omega⟩

/-- Digits stand for less than a one with as many zeros. -/
theorem ofDigitChars_lt_pow (digits : ∀ c ∈ t, c.isDigit = true) :
    Nat.ofDigitChars 10 t 0 < 10 ^ t.length := by
  induction t using List.reverseRecOn with
  | nil => decide
  | append_singleton t c ih =>
    rw [List.forall_mem_append, List.forall_mem_singleton] at digits
    have bound := ih digits.1
    obtain ⟨k, hk, hc⟩ := exists_toNat_of_isDigit digits.2
    rw [ofDigitChars_concat, hc, List.length_append, List.length_singleton, Nat.pow_succ]
    omega

/-- Digits are known by how many they are and what they stand for. -/
theorem eq_of_ofDigitChars_eq (digits : ∀ c ∈ t, c.isDigit = true)
    (digits' : ∀ c ∈ t', c.isDigit = true) (length : t.length = t'.length)
    (value : Nat.ofDigitChars 10 t 0 = Nat.ofDigitChars 10 t' 0) : t = t' := by
  induction t using List.reverseRecOn generalizing t' with
  | nil => exact (List.length_eq_zero_iff.1 length.symm).symm
  | append_singleton t c ih =>
    obtain rfl | ⟨u, d, rfl⟩ := List.eq_nil_or_concat' t'
    · simp at length
    rw [List.forall_mem_append, List.forall_mem_singleton] at digits digits'
    obtain ⟨k, hk, hc⟩ := exists_toNat_of_isDigit digits.2
    obtain ⟨k', hk', hd⟩ := exists_toNat_of_isDigit digits'.2
    -- The last digit is the remainder of what the digits stand for, and those before it the quotient.
    rw [ofDigitChars_concat, ofDigitChars_concat, hc, hd] at value
    have lasts : c = d := Char.toNat_inj.1 (by omega)
    have fronts : t = u := ih digits.1 digits'.1 (by simpa using length) (by omega)
    rw [fronts, lasts]

/-! ## Written numbers -/

/-- The text is `n` in decimal, at least `width` digits, and more only as far as `n` takes them. -/
structure IsDecimal (width n : Nat) (t : List Char) : Prop where
  isDigit : ∀ c ∈ t, c.isDigit = true
  value_eq : Nat.ofDigitChars 10 t 0 = n
  width_le : width ≤ t.length
  taken : width < t.length → 10 ^ (t.length - 1) ≤ n

theorem toList_decimal (width n : Nat) :
    (decimal width n).toList = padZeros width (Nat.toDigits 10 n) := String.toList_ofList

theorem isDigit_of_mem_padZeros {c : Char} (hc : c ∈ padZeros width (Nat.toDigits 10 n)) :
    c.isDigit = true := by
  rcases List.mem_append.1 hc with hc | hc
  · rw [List.eq_of_mem_replicate hc]
    rfl
  · exact Nat.isDigit_of_mem_toDigits (by decide) (by decide) hc

theorem ofDigitChars_padZeros (width n : Nat) :
    Nat.ofDigitChars 10 (padZeros width (Nat.toDigits 10 n)) 0 = n := by
  rw [padZeros, Nat.ofDigitChars_append, Nat.ofDigitChars_replicate_zero, Nat.mul_zero,
    Nat.ofDigitChars_ten_toDigits]

/-- A number has no more digits than it takes. -/
theorem pow_le_of_lt_length {k : Nat} (wide : 0 < k) (long : k < (Nat.toDigits 10 n).length) :
    10 ^ k ≤ n := by
  by_contra small
  exact absurd ((Nat.length_toDigits_le_iff (by decide) wide).2 (Nat.lt_of_not_le small)) (by omega)

theorem isDecimal_decimal (wide : 0 < width) (n : Nat) :
    IsDecimal width n (decimal width n).toList := by
  rw [toList_decimal]
  refine ⟨fun c => isDigit_of_mem_padZeros, ofDigitChars_padZeros width n, ?_, ?_⟩
  · rw [length_padZeros]
    omega
  · rw [length_padZeros]
    intro long
    exact pow_le_of_lt_length (by omega) (by omega)

namespace IsDecimal

theorem lt_pow (h : IsDecimal width n t) : n < 10 ^ t.length := by
  rw [← h.value_eq]
  exact ofDigitChars_lt_pow h.isDigit

/-- A number below `10 ^ k` is written with `k` digits at most, unless more are asked for. -/
theorem length_le (h : IsDecimal width n t) {k : Nat} (wide : width ≤ k) (small : n < 10 ^ k) :
    t.length ≤ k := by
  by_contra long
  have taken := Nat.lt_of_le_of_lt (h.taken (by omega)) small
  have few := (Nat.pow_lt_pow_iff_right (by decide)).1 taken
  omega

theorem length_eq (h : IsDecimal width n t) (small : n < 10 ^ width) : t.length = width :=
  Nat.le_antisymm (h.length_le (Nat.le_refl width) small) h.width_le

theorem unique (h : IsDecimal width n t) (h' : IsDecimal width n t') : t = t' := by
  have length : t.length = t'.length :=
    Nat.le_antisymm (h.length_le h'.width_le h'.lt_pow) (h'.length_le h.width_le h.lt_pow)
  exact eq_of_ofDigitChars_eq h.isDigit h'.isDigit length (h.value_eq.trans h'.value_eq.symm)

end IsDecimal

/-- **A number is written in one way.** -/
theorem isDecimal_iff (wide : 0 < width) : IsDecimal width n t ↔ t = (decimal width n).toList := by
  constructor
  · intro h
    exact h.unique (isDecimal_decimal wide n)
  · rintro rfl
    exact isDecimal_decimal wide n

end Passthrough.Text
