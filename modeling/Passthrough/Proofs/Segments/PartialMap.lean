import Mathlib.Data.Finset.Card
import Mathlib.Data.Fintype.Basic
import Passthrough.Segments.Arena

/-!
# Passthrough — arenas are partial maps

Whatever is claimed and written in an arena, it answers like a partial map from its indexes to values, and
shows at every moment what the map holds.

```text
 arena  slots, bitmap, count ──perform──▶ slots, bitmap, count ──▶ …
            │ Agrees                          │ Agrees
 map    Fin n → Option α     ──perform──▶ Fin n → Option α     ──▶ …
```

* `ArenaOp`, `Arena.perform`, `Arena.run` — what is done to an arena, as data.
* `PartialMap` — the map and what the same operations do to it.
* `Arena.Agrees` — everything that an arena shows is what the map holds.
* `Arena.Agrees.perform` — one operation, and `Arena.Agrees.run` — any number of them.
* `Arena.refines_partialMap` — all that starts from an arena without claims.
-/

namespace Passthrough

/-- Something that is done to an arena. -/
inductive ArenaOp (α : Type) where
  | claim (v : α)
  | claimAt (i : Nat) (v : α)
  /-- The value in slot `i` is changed. -/
  | write (i : Nat) (v : α)

/-- What it answers. -/
inductive ArenaAnswer where
  /-- The slot that was claimed, or why none was. -/
  | stored (result : Except ArenaError Nat)
  /-- Whether there was a value to change. -/
  | written (there : Bool)

/-- Whether nothing was claimed or changed. -/
def ArenaAnswer.isFailure : ArenaAnswer → Bool
  | .stored (.ok _) => false
  | .stored (.error _) => true
  | .written there => !there

namespace Arena

variable {α : Type} [Inhabited α]

def perform (a : Arena α) : ArenaOp α → ArenaAnswer × Arena α
  | .claim v =>
    match a.claim v with
    | .error e => (.stored (.error e), a)
    | .ok (i, b) => (.stored (.ok i), b)
  | .claimAt i v =>
    match a.claimAt i v with
    | .error e => (.stored (.error e), a)
    | .ok b => (.stored (.ok i), b)
  | .write i v => (.written (a.get? i).isSome, a.set i v)

/-- Operations in a row, with all that they answer. -/
def run (a : Arena α) : List (ArenaOp α) → List ArenaAnswer × Arena α
  | [] => ([], a)
  | op :: ops =>
    let (answer, b) := a.perform op
    let (answers, c) := b.run ops
    (answer :: answers, c)

end Arena

/-! ## Partial maps -/

/-- A partial map from the indexes below `n`. -/
abbrev PartialMap (n : Nat) (α : Type) : Type := Fin n → Option α

namespace PartialMap

variable {α : Type} {n : Nat}

def empty : PartialMap n α := fun _ => none

/-- What the map holds at `i`; nothing where it has no index. -/
def lookup (m : PartialMap n α) (i : Nat) : Option α := if h : i < n then m ⟨i, h⟩ else none

/-- The least index that is not used. -/
def leastUnused (m : PartialMap n α) : Option (Fin n) := Fin.find? fun i => (m i).isNone

def update (m : PartialMap n α) (i : Fin n) (v : α) : PartialMap n α := Function.update m i (some v)

def perform (m : PartialMap n α) : ArenaOp α → ArenaAnswer × PartialMap n α
  | .claim v =>
    match m.leastUnused with
    | none => (.stored (.error (.full n)), m)
    | some i => (.stored (.ok i), m.update i v)
  | .claimAt i v =>
    if h : i < n then
      if (m ⟨i, h⟩).isSome then (.stored (.error (.inUse i)), m)
      else (.stored (.ok i), m.update ⟨i, h⟩ v)
    else (.stored (.error (.outOfBounds i n)), m)
  | .write i v =>
    if h : i < n then
      if (m ⟨i, h⟩).isSome then (.written true, m.update ⟨i, h⟩ v) else (.written false, m)
    else (.written false, m)

def run (m : PartialMap n α) : List (ArenaOp α) → List ArenaAnswer × PartialMap n α
  | [] => ([], m)
  | op :: ops =>
    let (answer, m') := m.perform op
    let (answers, m'') := m'.run ops
    (answer :: answers, m'')

theorem lookup_of_lt (m : PartialMap n α) {i : Nat} (h : i < n) : m.lookup i = m ⟨i, h⟩ := dif_pos h

theorem lookup_update (m : PartialMap n α) (i : Fin n) (v : α) (j : Nat) :
    (m.update i v).lookup j = if j = i then some v else m.lookup j := by
  unfold lookup update
  by_cases inside : j < n
  · rw [dif_pos inside, dif_pos inside, Function.update_apply]
    exact if_congr Fin.ext_iff rfl rfl
  · rw [dif_neg inside, dif_neg inside, if_neg]
    rintro rfl
    exact inside i.isLt

end PartialMap

namespace Arena

variable {α : Type} [Inhabited α] {n : Nat} {a : Arena α} {m : PartialMap n α}

/-! ## Agreement -/

/-- What an arena shows, the map holds. -/
structure Agrees (a : Arena α) (m : PartialMap n α) : Prop where
  capacity : a.capacity = n
  get? : ∀ i, a.get? i = m.lookup i
  isUsed : ∀ i, a.isUsed i = (m.lookup i).isSome
  len : a.len = (Finset.univ.filter fun i => (m i).isSome).card
  /-- The used indexes with their values, from the lowest to the highest. -/
  entries : a.entries = (List.finRange n).filterMap fun i => (m i).map (i.val, ·)
  firstFree : a.firstFree = m.leastUnused.map Fin.val

theorem countP_range_eq_card {p : Fin n → Bool} {q : Nat → Bool} (same : ∀ i : Fin n, q i = p i) :
    (List.range n).countP q = (Finset.univ.filter fun i => p i).card := by
  have members : Finset.univ.filter (fun i => p i) = ((List.finRange n).filter p).toFinset := by
    ext i
    simp
  rw [members, List.toFinset_card_of_nodup ((List.nodup_finRange n).filter p),
    ← List.countP_eq_length_filter, ← List.map_coe_finRange_eq_range, List.countP_map]
  exact List.countP_congr fun i _ => by rw [Function.comp_apply, same]

theorem entries_eq_filterMap (a : Arena α) :
    a.entries = (List.finRange a.capacity).filterMap fun i : Fin a.capacity =>
      (a.get? i).map (i.val, ·) := by
  have slots : a.slots.toList.zipIdx
      = (List.finRange a.slots.size).map fun i => (a.slots[i], i.val) := by
    refine List.ext_getElem (by simp) fun i hi hi' => ?_
    simp
  rw [entries, slots, List.filter_map, List.map_map, ← List.filterMap_eq_map, ← List.filterMap_eq_filter,
    List.filterMap_filterMap]
  refine List.filterMap_congr fun i _ => ?_
  cases used : a.isUsed i with
  | false => simp [Arena.get?, used]
  | true => simp [Arena.get?, used]

/-- The view decides about everything else. -/
theorem agrees_of_view (capacity : a.capacity = n) (view : ∀ i, a.get? i = m.lookup i) :
    a.Agrees m := by
  subst capacity
  have there (i : Fin a.capacity) : a.get? i = m i := by rw [view, m.lookup_of_lt i.isLt]
  have used (i : Nat) : a.isUsed i = (m.lookup i).isSome := by rw [isUsed_eq_isSome, view]
  refine ⟨rfl, view, used, ?_, ?_, ?_⟩
  · have counted : a.len = (List.range a.capacity).countP a.used.contains := a.sound.counted
    rw [counted]
    refine countP_range_eq_card fun i => ?_
    rw [← isUsed_eq_contains, isUsed_eq_isSome, there]
  · rw [entries_eq_filterMap]
    simp only [there]
  · cases least : m.leastUnused with
    | none =>
      refine firstFree_eq_none_iff.2 fun i inside => ?_
      have taken := Fin.find?_eq_none_iff.1 least ⟨i, inside⟩
      rw [isUsed_eq_isSome, there ⟨i, inside⟩]
      simpa [Option.isSome_iff_ne_none] using taken
    | some i =>
      obtain ⟨unused, before⟩ := Fin.find?_eq_some_iff.1 least
      refine firstFree_eq_some_iff.2 ⟨i.isLt, ?_, fun j below => ?_⟩
      · rw [isUsed_eq_isSome, there]
        simpa using unused
      · have taken := before ⟨j, Nat.lt_trans below i.isLt⟩ below
        rw [isUsed_eq_isSome, there ⟨j, Nat.lt_trans below i.isLt⟩]
        simpa [Option.isSome_iff_ne_none] using taken

theorem agrees_empty (n : Nat) : (withCapacity n : Arena α).Agrees (PartialMap.empty : PartialMap n α) :=
  agrees_of_view (capacity_withCapacity n) fun i => by
    rw [get?_withCapacity, PartialMap.lookup]
    split <;> rfl

/-! ## One operation -/

theorem claimAt_eq_outOfBounds_iff {i : Nat} {v : α} :
    a.claimAt i v = .error (.outOfBounds i a.capacity) ↔ a.capacity ≤ i := by
  unfold claimAt
  split
  · next outside => exact iff_of_true rfl outside
  · next inside => split <;> simp [inside]

theorem claimAt_eq_inUse_iff {i : Nat} {v : α} :
    a.claimAt i v = .error (.inUse i) ↔ a.isUsed i = true := by
  unfold claimAt
  split
  · next outside =>
    refine iff_of_false (fun h => ?_) fun used => Nat.not_lt.2 outside (lt_size_of_isUsed used)
    cases h
  · split <;> simp [*]

theorem set_of_unused {i : Nat} {v : α} (unused : a.isUsed i = false) : a.set i v = a := by
  rw [set, dif_neg (by rw [unused]; decide)]

/-- What an operation can do: nothing, put a value into a free slot, or change one that is there. -/
theorem perform_cases (a : Arena α) (op : ArenaOp α) :
    ((a.perform op).1.isFailure = true ∧ (a.perform op).2 = a)
      ∨ (∃ i v, ∃ free : a.Free i, (op = .claim v ∨ op = .claimAt i v)
          ∧ a.perform op = (.stored (.ok i), a.put i v free))
      ∨ ∃ i v, op = .write i v ∧ a.isUsed i = true ∧ a.perform op = (.written true, a.set i v) := by
  cases op with
  | claim v =>
    cases found : a.firstFree with
    | none =>
      have failed : a.claim v = .error (.full a.capacity) := by rw [claim, found]
      refine .inl ?_
      rw [perform, failed]
      exact ⟨rfl, rfl⟩
    | some i =>
      have free := free_of_firstFree found
      have claimed : a.claim v = .ok (i, a.put i v free) := by
        rw [claim, found]
        dsimp only
        rw [claimAt_eq_ok free]
        rfl
      refine .inr (.inl ⟨i, v, free, .inl rfl, ?_⟩)
      rw [perform, claimed]
  | claimAt i v =>
    cases claimed : a.claimAt i v with
    | error e =>
      refine .inl ?_
      rw [perform, claimed]
      exact ⟨rfl, rfl⟩
    | ok b =>
      obtain ⟨free, rfl⟩ := claimAt_eq_ok_iff.1 claimed
      refine .inr (.inl ⟨i, v, free, .inr rfl, ?_⟩)
      rw [perform, claimed]
  | write i v =>
    cases used : a.isUsed i with
    | false =>
      refine .inl ?_
      rw [perform, ← isUsed_eq_isSome, used, set_of_unused used]
      exact ⟨rfl, rfl⟩
    | true =>
      refine .inr (.inr ⟨i, v, rfl, used, ?_⟩)
      rw [perform, ← isUsed_eq_isSome, used]

theorem Agrees.put (agrees : a.Agrees m) (i : Fin n) (v : α) (free : a.Free i) :
    (a.put i v free).Agrees (m.update i v) :=
  agrees_of_view (by rw [capacity_put, agrees.capacity]) fun j => by
    rw [get?_put, agrees.get?, PartialMap.lookup_update]

theorem Agrees.set (agrees : a.Agrees m) (i : Fin n) (v : α) (used : a.isUsed i = true) :
    (a.set i v).Agrees (m.update i v) :=
  agrees_of_view (by rw [capacity_set, agrees.capacity]) fun j => by
    simp only [get?_set, used, and_true, agrees.get?, PartialMap.lookup_update]

/-- **One operation.**  The arena answers as the map does, and they agree afterwards. -/
theorem Agrees.perform (agrees : a.Agrees m) (op : ArenaOp α) :
    (a.perform op).1 = (m.perform op).1 ∧ (a.perform op).2.Agrees (m.perform op).2 := by
  cases op with
  | claim v =>
    have found := agrees.firstFree
    rw [Arena.perform, PartialMap.perform, claim]
    cases least : m.leastUnused with
    | none =>
      rw [least] at found
      rw [found, agrees.capacity]
      exact ⟨rfl, agrees⟩
    | some i =>
      rw [least] at found
      have free := free_of_firstFree found
      rw [found]
      dsimp only [Option.map_some]
      rw [claimAt_eq_ok free]
      exact ⟨rfl, agrees.put i v free⟩
  | claimAt i v =>
    have used := agrees.isUsed i
    rw [Arena.perform, PartialMap.perform]
    by_cases inside : i < n
    · rw [m.lookup_of_lt inside] at used
      rw [dif_pos inside]
      cases taken : (m ⟨i, inside⟩).isSome with
      | true =>
        rw [claimAt_eq_inUse_iff.2 (used.trans taken)]
        exact ⟨rfl, agrees⟩
      | false =>
        have free : a.Free i := ⟨by rwa [agrees.capacity], used.trans taken⟩
        rw [claimAt_eq_ok free]
        exact ⟨rfl, agrees.put ⟨i, inside⟩ v free⟩
    · have outside : a.capacity ≤ i := by
        rw [agrees.capacity]
        exact Nat.le_of_not_lt inside
      rw [dif_neg inside, claimAt_eq_outOfBounds_iff.2 outside, agrees.capacity]
      exact ⟨rfl, agrees⟩
  | write i v =>
    have used := agrees.isUsed i
    rw [Arena.perform, PartialMap.perform, ← isUsed_eq_isSome]
    by_cases inside : i < n
    · rw [m.lookup_of_lt inside] at used
      rw [dif_pos inside]
      cases taken : (m ⟨i, inside⟩).isSome with
      | true =>
        rw [used.trans taken]
        exact ⟨rfl, agrees.set ⟨i, inside⟩ v (used.trans taken)⟩
      | false =>
        rw [set_of_unused (used.trans taken), used.trans taken]
        exact ⟨rfl, agrees⟩
    · have unused : a.isUsed i = false := by rw [used, PartialMap.lookup, dif_neg inside]; rfl
      rw [dif_neg inside, set_of_unused unused, unused]
      exact ⟨rfl, agrees⟩

/-! ## Any number of operations -/

theorem Agrees.run (agrees : a.Agrees m) (ops : List (ArenaOp α)) :
    (a.run ops).1 = (m.run ops).1 ∧ (a.run ops).2.Agrees (m.run ops).2 := by
  induction ops generalizing a m with
  | nil => exact ⟨rfl, agrees⟩
  | cons op ops ih =>
    obtain ⟨answer, agrees'⟩ := agrees.perform op
    obtain ⟨answers, agrees''⟩ := ih agrees'
    exact ⟨congrArg₂ List.cons answer answers, agrees''⟩

/-- A value stays, unless it is changed. -/
theorem get?_perform {i : Nat} {v : α} (there : a.get? i = some v) (op : ArenaOp α) :
    ∃ w, (a.perform op).2.get? i = some w ∧ ((∀ w', op ≠ .write i w') → w = v) := by
  obtain ⟨-, same⟩ | ⟨j, w, free, -, changed⟩ | ⟨j, w, rfl, used, changed⟩ := a.perform_cases op
  · exact ⟨v, by rw [same, there], fun _ => rfl⟩
  · -- The slot that is claimed was free, so it is another one.
    have other : i ≠ j := by
      rintro rfl
      rw [(free_iff.1 free).2] at there
      cases there
    refine ⟨v, ?_, fun _ => rfl⟩
    rw [changed, get?_put, if_neg other, there]
  · by_cases here : i = j
    · subst here
      refine ⟨w, ?_, fun kept => absurd rfl (kept w)⟩
      rw [changed, get?_set, if_pos ⟨rfl, used⟩]
    · refine ⟨v, ?_, fun _ => rfl⟩
      rw [changed, get?_set, if_neg fun h => here h.1, there]

theorem get?_run {i : Nat} {v : α} (there : a.get? i = some v) (ops : List (ArenaOp α)) :
    ∃ w, (a.run ops).2.get? i = some w ∧ ((∀ w', ArenaOp.write i w' ∉ ops) → w = v) := by
  induction ops generalizing a v with
  | nil => exact ⟨v, there, fun _ => rfl⟩
  | cons op ops ih =>
    obtain ⟨u, there', kept⟩ := get?_perform there op
    obtain ⟨w, there'', kept'⟩ := ih there'
    refine ⟨w, there'', fun unwritten => ?_⟩
    rw [kept' fun w' h => unwritten w' (List.mem_cons_of_mem _ h),
      kept fun w' h => unwritten w' (h ▸ List.mem_cons_self)]

/-- **An arena is a partial map.**  Take values of any type, an arena of any capacity, and anything that is
done to it from the start on.

* It answers what the partial map answers to which the same is done, and shows what the map holds: values,
  used indexes and their number, the entries in order, the least index that is free.
* The least free index is there unless all are used.  A claim at an index fails as out of bounds exactly
  from the capacity on, and as in use exactly if the index is used.
* What fails leaves the arena as it is.
* A used index stays used, and its value stays until it is written: no claim touches it. -/
theorem refines_partialMap (n : Nat) (ops : List (ArenaOp α)) :
    let a := ((withCapacity n : Arena α).run ops).2
    let m := ((PartialMap.empty : PartialMap n α).run ops).2
    ((withCapacity n : Arena α).run ops).1 = ((PartialMap.empty : PartialMap n α).run ops).1
      ∧ a.Agrees m
      ∧ (∀ i, a.firstFree = some i ↔
          i < n ∧ m.lookup i = none ∧ ∀ j, j < i → (m.lookup j).isSome = true)
      ∧ (a.firstFree = none ↔ ∀ i, i < n → (m.lookup i).isSome = true)
      ∧ (∀ i v, (a.claimAt i v = .error (.outOfBounds i n) ↔ n ≤ i)
          ∧ (a.claimAt i v = .error (.inUse i) ↔ (m.lookup i).isSome = true))
      ∧ (∀ op, (a.perform op).1.isFailure = true → (a.perform op).2 = a)
      ∧ ∀ later, (∀ i, a.isUsed i = true → (a.run later).2.isUsed i = true)
          ∧ ∀ i v, a.get? i = some v → (∀ w, ArenaOp.write i w ∉ later) →
              (a.run later).2.get? i = some v := by
  obtain ⟨answers, agrees⟩ := (agrees_empty (α := α) n).run ops
  refine ⟨answers, agrees, fun i => ?_, ?_, fun i v => ⟨?_, ?_⟩, fun op failed => ?_, fun later =>
    ⟨fun i used => ?_, fun i v there unwritten => ?_⟩⟩
  · have unused : ∀ l : Option α, l = none ↔ l.isSome = false := by simp
    rw [firstFree_eq_some_iff, agrees.capacity, unused]
    simp only [agrees.isUsed]
  · rw [firstFree_eq_none_iff, agrees.capacity]
    simp only [agrees.isUsed]
  · have outside := claimAt_eq_outOfBounds_iff (a := ((withCapacity n : Arena α).run ops).2) (i := i)
      (v := v)
    rwa [agrees.capacity] at outside
  · rw [claimAt_eq_inUse_iff, agrees.isUsed]
  · obtain ⟨-, same⟩ | ⟨_, _, _, -, done⟩ | ⟨_, _, -, -, done⟩ := perform_cases _ op
    · exact same
    · rw [done] at failed
      cases failed
    · rw [done] at failed
      cases failed
  · rw [isUsed_eq_isSome, Option.isSome_iff_exists] at used
    obtain ⟨v, there⟩ := used
    obtain ⟨w, there', -⟩ := get?_run there later
    rw [isUsed_eq_isSome, there']
    rfl
  · obtain ⟨w, there', kept⟩ := get?_run there later
    rw [there', kept unwritten]

end Arena

end Passthrough
