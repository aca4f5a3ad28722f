/-!
# Passthrough — bitmaps

A set of indexes as the bits of 64-bit words.  The last word may reach past the indexes in use.

```text
 index    0              63 64            127 128    n-1
          ├── word 0 ─────┤ ├── word 1 ────┤ ├── word 2 ──┤
          bit 0 ... bit 63                        └─ absent
```

* `Bitmap.contains`, `Bitmap.insert` — members (`contains_insert`).
* `Bitmap.firstAbsent` — the search for the lowest index that is not a member, word by word and then by
  the ones that a word ends with (`firstAbsent_eq_some_iff`, `firstAbsent_eq_none_iff`).
-/

namespace Passthrough

/-! ## Words of bits -/

/-- The word in which bit `j` alone is set. -/
def mask (j : Nat) : UInt64 := 1 <<< UInt64.ofNat j

def bit (w : UInt64) (j : Nat) : Bool := w &&& mask j ≠ 0

/-- The word in which every bit is set. -/
def allOnes : UInt64 := 0xFFFFFFFFFFFFFFFF

/-- How many ones a word ends with. -/
def trailingOnes (w : UInt64) : Nat := (List.range 64).findIdx fun j => !bit w j

theorem testBit_mask {i : Nat} (hi : i < 64) (j : Nat) : (mask i).toNat.testBit j = decide (i = j) := by
  have shift : (UInt64.ofNat i).toNat = i :=
    UInt64.toNat_ofNat_of_lt' (by simp only [UInt64.size]; omega)
  have small : 2 ^ i < 2 ^ 64 := Nat.pow_lt_pow_right (by decide) hi
  rw [mask, UInt64.toNat_shiftLeft, shift, Nat.mod_eq_of_lt hi]
  show (1 <<< i % 2 ^ 64).testBit j = _
  rw [Nat.one_shiftLeft, Nat.mod_eq_of_lt small, Nat.testBit_two_pow]

theorem bit_eq_testBit (w : UInt64) {j : Nat} (hj : j < 64) : bit w j = w.toNat.testBit j := by
  have both (k : Nat) : (w &&& mask j).toNat.testBit k = (w.toNat.testBit k && decide (j = k)) := by
    rw [UInt64.toNat_and, Nat.testBit_and, testBit_mask hj]
  cases set : w.toNat.testBit j with
  | true =>
    refine decide_eq_true fun none => ?_
    have here := both j
    rw [none, set] at here
    simp at here
  | false =>
    refine decide_eq_false fun some => some (UInt64.toNat_inj.1 (Nat.eq_of_testBit_eq fun k => ?_))
    rw [both]
    by_cases here : j = k
    · subst here
      simp [set]
    · simp [here]

@[simp] theorem bit_zero (j : Nat) : bit 0 j = false := by
  simp [bit]

theorem bit_allOnes {j : Nat} (hj : j < 64) : bit allOnes j = true := by
  rw [bit_eq_testBit _ hj]
  show (2 ^ 64 - 1).testBit j = true
  rw [Nat.testBit_two_pow_sub_one]
  exact decide_eq_true hj

theorem bit_or_mask (w : UInt64) {i j : Nat} (hi : i < 64) (hj : j < 64) :
    bit (w ||| mask i) j = (bit w j || decide (i = j)) := by
  rw [bit_eq_testBit _ hj, bit_eq_testBit _ hj, UInt64.toNat_or, Nat.testBit_or,
    testBit_mask hi]

theorem eq_of_bits {v w : UInt64} (h : ∀ j, j < 64 → bit v j = bit w j) : v = w := by
  refine UInt64.toNat_inj.1 (Nat.eq_of_testBit_eq fun j => ?_)
  by_cases hj : j < 64
  · rw [← bit_eq_testBit v hj, ← bit_eq_testBit w hj, h j hj]
  · have beyond (w : UInt64) : w.toNat.testBit j = false :=
      Nat.testBit_lt_two_pow (Nat.lt_of_lt_of_le w.toNat_lt
        (Nat.pow_le_pow_right (by decide) (Nat.le_of_not_lt hj)))
    rw [beyond v, beyond w]

theorem bit_of_lt_trailingOnes {w : UInt64} {j : Nat} (h : j < trailingOnes w) : bit w j = true := by
  have inside : j < (List.range 64).length := Nat.lt_of_lt_of_le h List.findIdx_le_length
  have one := List.not_of_lt_findIdx h
  rw [List.getElem_range inside] at one
  simpa using one

theorem bit_trailingOnes {w : UInt64} (h : trailingOnes w < 64) :
    bit w (trailingOnes w) = false := by
  have inside : (List.range 64).findIdx (fun j => !bit w j) < (List.range 64).length := by
    rwa [List.length_range]
  have zero : (!bit w (List.range 64)[(List.range 64).findIdx fun j => !bit w j]) = true :=
    List.findIdx_getElem (p := fun j => !bit w j)
  rw [List.getElem_range] at zero
  simpa [trailingOnes] using zero

/-- A word in which a bit is clear ends with fewer ones than it has bits. -/
theorem trailingOnes_lt {w : UInt64} (h : w ≠ allOnes) : trailingOnes w < 64 := by
  refine Nat.lt_of_not_le fun all => h (eq_of_bits fun j hj => ?_)
  rw [bit_of_lt_trailingOnes (by omega), bit_allOnes hj]

/-! ## Bitmaps -/

/-- A set of indexes. -/
structure Bitmap where
  words : Array UInt64

namespace Bitmap

/-- The words that `n` bits take. -/
def wordsFor (n : Nat) : Nat := (n + 63) / 64

/-- The set without members, with bits for the indexes below `n`. -/
def clear (n : Nat) : Bitmap := ⟨Array.replicate (wordsFor n) 0⟩

def word (b : Bitmap) (k : Nat) : UInt64 := b.words.getD k 0

def contains (b : Bitmap) (i : Nat) : Bool := bit (b.word (i / 64)) (i % 64)

def insert (b : Bitmap) (i : Nat) : Bitmap := ⟨b.words.modify (i / 64) (· ||| mask (i % 64))⟩

/-- The lowest absent index below `bound` in the `n` words from word `k` on. -/
def absentFrom (b : Bitmap) (bound k : Nat) : Nat → Option Nat
  | 0 => none
  | n + 1 =>
    let bits := b.word k
    -- A full word is passed over without counting its ones.
    if bits = allOnes then b.absentFrom bound (k + 1) n
    else
      let i := k * 64 + trailingOnes bits
      if i < bound then some i else b.absentFrom bound (k + 1) n

/-- The lowest absent index below `bound`. -/
def firstAbsent (b : Bitmap) (bound : Nat) : Option Nat := b.absentFrom bound 0 b.words.size

/-! ## Members -/

@[simp] theorem size_clear (n : Nat) : (clear n).words.size = wordsFor n := by
  simp [clear]

@[simp] theorem size_insert (b : Bitmap) (i : Nat) : (b.insert i).words.size = b.words.size := by
  simp [insert]

@[simp] theorem contains_clear (n i : Nat) : (clear n).contains i = false := by
  have zero : (clear n).word (i / 64) = 0 := by
    simp only [word, clear, Array.getD_eq_getD_getElem?, Array.getElem?_replicate]
    split <;> rfl
  rw [contains, zero, bit_zero]

theorem contains_insert {b : Bitmap} {i : Nat} (room : i < 64 * b.words.size) (j : Nat) :
    (b.insert i).contains j = (b.contains j || decide (i = j)) := by
  have inside : i / 64 < b.words.size := by omega
  by_cases same : i / 64 = j / 64
  · have changed : (b.insert i).word (j / 64) = b.word (j / 64) ||| mask (i % 64) := by
      rw [← same]
      simp [word, insert, inside, Array.getElem_modify]
    rw [contains, changed, bit_or_mask _ (by omega) (by omega), contains]
    congr 2
    exact propext ⟨fun h => by omega, fun h => by omega⟩
  · have kept : (b.insert i).word (j / 64) = b.word (j / 64) := by
      simp [word, insert, Array.getElem?_modify, same]
    have other : i ≠ j := fun h => same (by rw [h])
    rw [contains, kept, contains, decide_eq_false other, Bool.or_false]

/-- Sets with the same members, in equally many words, are the same. -/
theorem ext_contains {b c : Bitmap} (size : b.words.size = c.words.size)
    (h : ∀ i, b.contains i = c.contains i) : b = c := by
  obtain ⟨words⟩ := b
  obtain ⟨words'⟩ := c
  congr 1
  refine Array.ext size fun k hk hk' => eq_of_bits fun j hj => ?_
  have same := h (64 * k + j)
  simp only [contains, word] at same
  rw [show (64 * k + j) / 64 = k by omega, show (64 * k + j) % 64 = j by omega] at same
  simpa [hk, hk'] using same

/-! ## Searching -/

/-- What a search from word `k` on answers: an absent index with members only between the start of the
word and it, or nothing if there are members only. -/
theorem absentFrom_spec (b : Bitmap) (bound k n : Nat) :
    match b.absentFrom bound k n with
    | some i => i < bound ∧ k * 64 ≤ i ∧ b.contains i = false
        ∧ ∀ j, k * 64 ≤ j → j < i → b.contains j = true
    | none => ∀ j, k * 64 ≤ j → j < (k + n) * 64 → j < bound → b.contains j = true := by
  induction n generalizing k with
  | zero =>
    intro j low high
    omega
  | succ n ih =>
    -- The word itself: members up to the ones that it ends with.
    have ones (j : Nat) (low : k * 64 ≤ j) (high : j < k * 64 + trailingOnes (b.word k))
        (inside : j < k * 64 + 64) : b.contains j = true := by
      rw [contains, show j / 64 = k by omega]
      exact bit_of_lt_trailingOnes (by omega)
    have later := ih (k + 1)
    rw [absentFrom]
    dsimp only
    by_cases full : b.word k = allOnes
    · have members (j : Nat) (low : k * 64 ≤ j) (inside : j < k * 64 + 64) :
          b.contains j = true := by
        rw [contains, show j / 64 = k by omega, full]
        exact bit_allOnes (by omega)
      rw [if_pos full]
      split at later
      · obtain ⟨below, behind, absent, before⟩ := later
        refine ⟨below, by omega, absent, fun j low high => ?_⟩
        by_cases here : j < k * 64 + 64
        · exact members j low here
        · exact before j (by omega) high
      · intro j low high below
        by_cases here : j < k * 64 + 64
        · exact members j low here
        · exact later j (by omega) (by omega) below
    · have few := trailingOnes_lt full
      rw [if_neg full]
      by_cases below : k * 64 + trailingOnes (b.word k) < bound
      · rw [if_pos below]
        refine ⟨below, by omega, ?_, fun j low high => ones j low high (by omega)⟩
        rw [contains, show (k * 64 + trailingOnes (b.word k)) / 64 = k by omega,
          show (k * 64 + trailingOnes (b.word k)) % 64 = trailingOnes (b.word k) by omega]
        exact bit_trailingOnes few
      · -- The bound lies in this word, so that later words have nothing to say.
        rw [if_neg below]
        split at later
        · omega
        · intro j low high inside
          exact ones j low (by omega) (by omega)

theorem firstAbsent_eq_none_iff {b : Bitmap} {bound : Nat} (room : bound ≤ 64 * b.words.size) :
    b.firstAbsent bound = none ↔ ∀ j, j < bound → b.contains j = true := by
  have answer := b.absentFrom_spec bound 0 b.words.size
  change match b.firstAbsent bound with | some i => _ | none => _ at answer
  cases found : b.firstAbsent bound with
  | none =>
    rw [found] at answer
    exact iff_of_true rfl fun j hj => answer j (by omega) (by omega) hj
  | some i =>
    rw [found] at answer
    obtain ⟨below, -, absent, -⟩ := answer
    refine iff_of_false nofun fun all => ?_
    rw [all i below] at absent
    cases absent

theorem firstAbsent_eq_some_iff {b : Bitmap} {bound : Nat} (room : bound ≤ 64 * b.words.size)
    {i : Nat} : b.firstAbsent bound = some i ↔
      i < bound ∧ b.contains i = false ∧ ∀ j, j < i → b.contains j = true := by
  have answer := b.absentFrom_spec bound 0 b.words.size
  change match b.firstAbsent bound with | some i => _ | none => _ at answer
  constructor
  · intro found
    rw [found] at answer
    obtain ⟨below, -, absent, before⟩ := answer
    exact ⟨below, absent, fun j hj => before j (by omega) hj⟩
  · rintro ⟨below, absent, before⟩
    cases found : b.firstAbsent bound with
    | none =>
      rw [(firstAbsent_eq_none_iff room).1 found i below] at absent
      cases absent
    | some k =>
      rw [found] at answer
      obtain ⟨-, -, absent', before'⟩ := answer
      -- Neither lies before the other, which would make it a member.
      have notBefore : ¬k < i := fun lt => by simp [before k lt] at absent'
      have notBehind : ¬i < k := fun lt => by simp [before' i (by omega) lt] at absent
      rw [show k = i by omega]

end Bitmap

end Passthrough
