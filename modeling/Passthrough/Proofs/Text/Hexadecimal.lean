import Mathlib.Algebra.Group.Nat.Defs
import Passthrough.Proofs.Text.Numbers
import Passthrough.Text.Digits

/-!
# Passthrough — hexadecimal numbers

Numbers are written in hexadecimal with small or with capital letters and read back from either.

* `digitValue?_hexadecimal_iff` — the digits to the base sixteen, and what each stands for.
* `IsHex` — a text that is a number in hexadecimal (`isHex_hexLower`, `isHex_hexUpper`).
* `IsHex.digitsValue_eq` — it stands for the number.
-/

namespace Passthrough.Text

/-! ## Digits -/

theorem toNat_digitChar {k : Nat} (small : k < 16) :
    (Nat.digitChar k).toNat = if k < 10 then 48 + k else 87 + k := by
  have table : ∀ k < 16, (Nat.digitChar k).toNat = if k < 10 then 48 + k else 87 + k := by decide
  exact table k small

theorem toNat_toLower (c : Char) :
    c.toLower.toNat = if 65 ≤ c.toNat ∧ c.toNat ≤ 90 then c.toNat + 32 else c.toNat := by
  have range : (c.val ≥ 'A'.val ∧ c.val ≤ 'Z'.val) ↔ 65 ≤ c.toNat ∧ c.toNat ≤ 90 := by
    simp only [ge_iff_le, UInt32.le_iff_toNat_le, Char.toNat_val]
    rfl
  unfold Char.toLower
  by_cases capital : 65 ≤ c.toNat ∧ c.toNat ≤ 90
  · rw [dif_pos (range.2 capital), if_pos capital]
    show (c.val + 32).toNat = c.toNat + 32
    rw [UInt32.toNat_add, Char.toNat_val]
    show (c.toNat + 32) % 2 ^ 32 = c.toNat + 32
    omega
  · rw [dif_neg (mt range.1 capital), if_neg capital]

theorem toLower_toLower (c : Char) : c.toLower.toLower = c.toLower := by
  rw [← Char.toNat_inj, toNat_toLower, toNat_toLower]
  grind

theorem digitValue?_eq (radix : Nat) (c : Char) : digitValue? radix c
    = (if 48 ≤ c.toNat ∧ c.toNat ≤ 57 then some (c.toNat - 48)
      else if 97 ≤ c.toNat ∧ c.toNat ≤ 122 then some (c.toNat - 97 + 10)
      else if 65 ≤ c.toNat ∧ c.toNat ≤ 90 then some (c.toNat - 65 + 10)
      else none).filter (· < radix) := rfl

/-- To the base sixteen the digits are those that numbers are written with, in either case. -/
theorem digitValue?_hexadecimal_iff {c : Char} {k : Nat} :
    digitValue? 16 c = some k ↔ k < 16 ∧ c.toLower = Nat.digitChar k := by
  rw [digitValue?_eq, Option.filter_eq_some_iff, decide_eq_true_eq, and_comm]
  refine and_congr_right fun hk => ?_
  rw [← Char.toNat_inj, toNat_digitChar hk, toNat_toLower]
  grind

/-- The case of a letter does not change what it stands for. -/
theorem digitValue?_toLower (c : Char) : digitValue? 16 c.toLower = digitValue? 16 c := by
  refine Option.ext fun k => ?_
  rw [digitValue?_hexadecimal_iff, digitValue?_hexadecimal_iff, toLower_toLower]

theorem digitValue?_digitChar {k : Nat} (small : k < 16) :
    digitValue? 16 (Nat.digitChar k) = some k := by
  have lower : ∀ k < 16, (Nat.digitChar k).toLower = Nat.digitChar k := by decide
  exact digitValue?_hexadecimal_iff.2 ⟨small, lower k small⟩

/-! ## Numbers -/

theorem digitsValue_concat (radix : Nat) (digits : List Char) (c : Char) :
    digitsValue radix (digits ++ [c])
      = radix * digitsValue radix digits + (digitValue? radix c).getD 0 := by
  simp [digitsValue]

theorem digitsValue_zeros_append (zeros : Nat) (digits : List Char) :
    digitsValue 16 (List.replicate zeros '0' ++ digits) = digitsValue 16 digits := by
  induction zeros with
  | zero => rfl
  | succ zeros ih => exact ih

theorem digitsValue_map_toLower (digits : List Char) :
    digitsValue 16 (digits.map Char.toLower) = digitsValue 16 digits := by
  unfold digitsValue
  simp only [List.foldl_map, digitValue?_toLower]

/-- What a number is written with stands for the number. -/
theorem digitsValue_toDigits (n : Nat) : digitsValue 16 (Nat.toDigits 16 n) = n := by
  induction n using Nat.strongRecOn with
  | ind n ih =>
    rw [Nat.toDigits_eq_if (by decide)]
    by_cases small : n < 16
    · rw [if_pos small]
      simp [digitsValue, digitValue?_digitChar small]
    · rw [if_neg small, digitsValue_concat, ih (n / 16) (by omega),
        digitValue?_digitChar (Nat.mod_lt n (by decide))]
      exact Nat.div_add_mod n 16

theorem exists_digitChar_of_mem_toDigits {n : Nat} {c : Char} (hc : c ∈ Nat.toDigits 16 n) :
    ∃ k < 16, c = Nat.digitChar k := by
  induction n using Nat.strongRecOn with
  | ind n ih =>
    rw [Nat.toDigits_eq_if (by decide)] at hc
    by_cases small : n < 16
    · rw [if_pos small, List.mem_singleton] at hc
      exact ⟨n, small, hc⟩
    · rw [if_neg small, List.mem_append, List.mem_singleton] at hc
      rcases hc with hc | hc
      · exact ih (n / 16) (by omega) hc
      · exact ⟨n % 16, Nat.mod_lt n (by decide), hc⟩

theorem exists_digitChar_of_mem_padZeros {width n : Nat} {c : Char}
    (hc : c ∈ padZeros width (Nat.toDigits 16 n)) : ∃ k < 16, c = Nat.digitChar k := by
  rcases List.mem_append.1 hc with hc | hc
  · exact ⟨0, by decide, List.eq_of_mem_replicate hc⟩
  · exact exists_digitChar_of_mem_toDigits hc

/-! ## Written numbers -/

/-- The text is `n` in hexadecimal, at least `width` digits, whose letters may be of either case. -/
def IsHex (width n : Nat) (t : List Char) : Prop :=
  t.map Char.toLower = (hexLower width n).toList

variable {width n : Nat} {t : List Char}

theorem toList_hexLower (width n : Nat) :
    (hexLower width n).toList = padZeros width (Nat.toDigits 16 n) := String.toList_ofList

/-- What a digit is changed to does not matter, if it is changed back. -/
theorem map_padZeros {f : Char → Char} (table : ∀ k < 16, f (Nat.digitChar k) = Nat.digitChar k)
    (width n : Nat) :
    (padZeros width (Nat.toDigits 16 n)).map f = padZeros width (Nat.toDigits 16 n) := by
  refine (List.map_congr_left fun c hc => ?_).trans (List.map_id _)
  obtain ⟨k, hk, rfl⟩ := exists_digitChar_of_mem_padZeros hc
  exact table k hk

theorem isHex_hexLower (width n : Nat) : IsHex width n (hexLower width n).toList := by
  show (hexLower width n).toList.map Char.toLower = (hexLower width n).toList
  rw [toList_hexLower]
  exact map_padZeros (by decide) width n

theorem isHex_hexUpper (width n : Nat) : IsHex width n (hexUpper width n).toList := by
  have capitals : (hexUpper width n).toList
      = (padZeros width (Nat.toDigits 16 n)).map Char.toUpper := by
    rw [hexUpper, String.toList_ofList]
    simp [padZeros]
  show (hexUpper width n).toList.map Char.toLower = (hexLower width n).toList
  rw [capitals, toList_hexLower, List.map_map]
  exact map_padZeros (by decide) width n

namespace IsHex

theorem digitsValue_eq (h : IsHex width n t) : digitsValue 16 t = n := by
  rw [← digitsValue_map_toLower, h, toList_hexLower, padZeros, digitsValue_zeros_append,
    digitsValue_toDigits]

theorem isDigit (h : IsHex width n t) : ∀ c ∈ t, isDigit 16 c = true := by
  intro c hc
  have hlower : c.toLower ∈ padZeros width (Nat.toDigits 16 n) := by
    rw [← toList_hexLower, ← h]
    exact List.mem_map_of_mem hc
  obtain ⟨k, hk, hdigit⟩ := exists_digitChar_of_mem_padZeros hlower
  rw [Text.isDigit, digitValue?_hexadecimal_iff.2 ⟨hk, hdigit⟩]
  rfl

/-- A number that has no more digits than are asked for is written with as many as are asked for. -/
theorem length_eq (h : IsHex width n t) (wide : 0 < width) (small : n < 16 ^ width) :
    t.length = width := by
  have hlength := congrArg List.length h
  rw [List.length_map, toList_hexLower, length_padZeros] at hlength
  have hdigits := (Nat.length_toDigits_le_iff (by decide) wide).2 small
  omega

end IsHex

theorem utf8Size_of_isDigit {c : Char} (digit : isDigit 16 c = true) : c.utf8Size = 1 := by
  obtain ⟨k, hk⟩ := Option.isSome_iff_exists.1 digit
  obtain ⟨small, hlower⟩ := digitValue?_hexadecimal_iff.1 hk
  have hcode := congrArg Char.toNat hlower
  rw [toNat_digitChar small, toNat_toLower] at hcode
  have ascii : c.toNat ≤ 127 := by grind
  exact Char.utf8Size_eq_one_iff.2 (UInt32.le_iff_toNat_le.2 ascii)

/-- Every digit is one byte. -/
theorem byteLength_of_isDigit (digits : ∀ c ∈ t, isDigit 16 c = true) : byteLength t = t.length := by
  induction t with
  | nil => rfl
  | cons c t ih =>
    rw [byteLength_cons, utf8Size_of_isDigit (digits c List.mem_cons_self),
      ih fun d hd => digits d (List.mem_cons_of_mem c hd), List.length_cons, Nat.add_comm]

end Passthrough.Text
