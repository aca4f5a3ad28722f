import Passthrough.Fault
import Passthrough.Segments.Bitmap

/-!
# Passthrough — arenas

An arena has a fixed number of slots.  A slot is claimed once, with a value, and never given back, so an
index stays good for as long as the arena lives; the value in a claimed slot may change.

```text
 slots   ┌─────┬─────┬─────┬─────┐
         │  v  │ ... │  w  │ ... │   a slot that is not claimed holds the default value
         └─────┴─────┴─────┴─────┘
 used       1     0     1     0      count = 2
```

* `Arena.Sound` — what slots, bitmap and count say about each other, in every arena.
* `Arena.get?` — the view: a partial map from indexes to values, all that arenas differ in (`ext_get?`).
* `Arena.claimAt`, `Arena.claim`, `Arena.set` — the operations, each with the lemma that says what it does
  to the view (`get?_claimAt`, `get?_set`).
* `Arena.firstFree` — the search for a free slot (`firstFree_eq_some_iff`).
* `Arena.tabulate`, `Arena.mapUsed` — an arena of given values, and a computation on each value.
-/

namespace Passthrough

/-- What the slots, the bitmap and the count of an arena say about each other. -/
structure Arena.Sound {α : Type} [Inhabited α] (slots : Array α) (used : Bitmap) (count : Nat) :
    Prop where
  /-- There are just enough words. -/
  words : used.words.size = Bitmap.wordsFor slots.size
  /-- The bits behind the last slot are clear. -/
  inside : ∀ i, used.contains i = true → i < slots.size
  counted : count = (List.range slots.size).countP used.contains
  /-- The slots that are free hold the default value. -/
  rest : ∀ i (h : i < slots.size), used.contains i = false → slots[i] = default

/-- Slots, which of them are claimed, and how many. -/
structure Arena (α : Type) [Inhabited α] where
  slots : Array α
  used : Bitmap
  count : Nat
  sound : Arena.Sound slots used count

/-- Why a slot could not be claimed. -/
inductive ArenaError where
  /-- No slot is free. -/
  | full (capacity : Nat)
  /-- There is no such slot. -/
  | outOfBounds (index capacity : Nat)
  /-- The slot is claimed. -/
  | inUse (index : Nat)
deriving DecidableEq

def ArenaError.name : ArenaError → String
  | .full _ => "Full"
  | .outOfBounds .. => "OutOfBounds"
  | .inUse _ => "InUse"

def ArenaError.message : ArenaError → String
  | .full capacity => "all " ++ toString capacity ++ " slots are in use"
  | .outOfBounds index capacity =>
    "slot " ++ toString index ++ " is out of bounds (capacity " ++ toString capacity ++ ")"
  | .inUse index => "slot " ++ toString index ++ " is already in use"

instance : Failure ArenaError := ⟨ArenaError.name, ArenaError.message⟩

namespace Arena

variable {α : Type} [Inhabited α]

def withCapacity (n : Nat) : Arena α where
  slots := Array.replicate n default
  used := .clear n
  count := 0
  sound := {
    words := by simp
    inside := by simp
    counted := (List.countP_eq_zero.2 (by simp)).symm
    rest := by simp }

instance : Inhabited (Arena α) := ⟨withCapacity 0⟩

def capacity (a : Arena α) : Nat := a.slots.size

def isUsed (a : Arena α) (i : Nat) : Bool := i < a.capacity && a.used.contains i

def get? (a : Arena α) (i : Nat) : Option α := if a.isUsed i then a.slots[i]? else none

def len (a : Arena α) : Nat := a.count

def isEmpty (a : Arena α) : Bool := a.len = 0

def firstFree (a : Arena α) : Option Nat := a.used.firstAbsent a.capacity

/-- The claimed slots with their values, in order. -/
def entries (a : Arena α) : List (Nat × α) :=
  (a.slots.toList.zipIdx.filter fun (_, i) => a.isUsed i).map Prod.swap

/-! ## Soundness -/

theorem room (a : Arena α) : a.capacity ≤ 64 * a.used.words.size := by
  have words := a.sound.words
  rw [Bitmap.wordsFor] at words
  rw [capacity]
  omega

/-- Below the capacity, and nowhere else, the bitmap tells which slots are claimed. -/
theorem isUsed_eq_contains (a : Arena α) (i : Nat) : a.isUsed i = a.used.contains i := by
  rw [isUsed]
  cases member : a.used.contains i with
  | false => exact Bool.and_false _
  | true => rw [Bool.and_true, capacity, decide_eq_true (a.sound.inside i member)]

theorem lt_size_of_isUsed {a : Arena α} {i : Nat} (h : a.isUsed i = true) : i < a.slots.size :=
  a.sound.inside i (by rwa [← isUsed_eq_contains])

/-- One member more is one more to count. -/
theorem countP_insert {p q : Nat → Bool} {i n : Nat} (hi : i < n) (out : p i = false)
    (more : ∀ j, q j = (p j || decide (i = j))) :
    (List.range n).countP q = (List.range n).countP p + 1 := by
  induction n with
  | zero => omega
  | succ n ih =>
    rw [List.range_succ, List.countP_append, List.countP_append]
    by_cases last : i = n
    · subst last
      have before : (List.range i).countP q = (List.range i).countP p :=
        List.countP_congr fun j hj => by
          have below := List.mem_range.1 hj
          rw [more, decide_eq_false (by omega), Bool.or_false]
      simp [before, out, more]
    · rw [ih (by omega)]
      simp only [List.countP_singleton, more n, decide_eq_false last, Bool.or_false]
      omega

theorem Sound.put {slots : Array α} {used : Bitmap} {count : Nat} (sound : Sound slots used count)
    {i : Nat} (hi : i < slots.size) (free : used.contains i = false) (v : α) :
    Sound (slots.set i v) (used.insert i) (count + 1) := by
  have fits : i < 64 * used.words.size := by
    rw [sound.words, Bitmap.wordsFor]
    omega
  have members := Bitmap.contains_insert (b := used) fits
  refine ⟨?_, fun j member => ?_, ?_, fun j hj out => ?_⟩
  · rw [Bitmap.size_insert, Array.size_set]
    exact sound.words
  · rw [Array.size_set]
    rw [members, Bool.or_eq_true, decide_eq_true_iff] at member
    rcases member with member | rfl
    · exact sound.inside j member
    · exact hi
  · rw [Array.size_set, sound.counted]
    exact (countP_insert hi free members).symm
  · rw [members, Bool.or_eq_false_iff, decide_eq_false_iff_not] at out
    rw [Array.size_set] at hj
    rw [Array.getElem_set_ne _ _ out.2]
    exact sound.rest j hj out.1

theorem Sound.set {slots : Array α} {used : Bitmap} {count : Nat} (sound : Sound slots used count)
    {i : Nat} (hi : i < slots.size) (member : used.contains i = true) (v : α) :
    Sound (slots.set i v) used count := by
  have size : (slots.set i v).size = slots.size := Array.size_set ..
  refine ⟨by rw [size]; exact sound.words, fun j hj => by rw [size]; exact sound.inside j hj,
    by rw [size]; exact sound.counted, fun j hj out => ?_⟩
  rw [size] at hj
  have other : i ≠ j := by
    rintro rfl
    rw [member] at out
    cases out
  rw [Array.getElem_set_ne _ _ other]
  exact sound.rest j hj out

/-! ## Searching -/

/-- The slot found is free, and all slots before it are claimed. -/
theorem firstFree_eq_some_iff {a : Arena α} {i : Nat} :
    a.firstFree = some i ↔
      i < a.capacity ∧ a.isUsed i = false ∧ ∀ j, j < i → a.isUsed j = true := by
  simp only [firstFree, Bitmap.firstAbsent_eq_some_iff a.room, isUsed_eq_contains]

theorem firstFree_eq_none_iff {a : Arena α} :
    a.firstFree = none ↔ ∀ i, i < a.capacity → a.isUsed i = true := by
  simp only [firstFree, Bitmap.firstAbsent_eq_none_iff a.room, isUsed_eq_contains]

/-- A slot that can be claimed. -/
structure Free (a : Arena α) (i : Nat) : Prop where
  inside : i < a.capacity
  unused : a.isUsed i = false

theorem Free.lt_size {a : Arena α} {i : Nat} (free : a.Free i) : i < a.slots.size := free.inside

theorem free_of_firstFree {a : Arena α} {i : Nat} (h : a.firstFree = some i) : a.Free i :=
  have ⟨inside, unused, _⟩ := firstFree_eq_some_iff.1 h
  ⟨inside, unused⟩

/-! ## Claiming -/

/-- The arena with `v` in the free slot `i`. -/
def put (a : Arena α) (i : Nat) (v : α) (free : a.Free i) : Arena α where
  slots := a.slots.set i v free.lt_size
  used := a.used.insert i
  count := a.count + 1
  sound := a.sound.put free.lt_size (by rw [← isUsed_eq_contains]; exact free.unused) v

/-- Put `v` into slot `i`, which must be free. -/
def claimAt (a : Arena α) (i : Nat) (v : α) : Except ArenaError (Arena α) :=
  if outside : a.capacity ≤ i then .error (.outOfBounds i a.capacity)
  else if taken : a.isUsed i then .error (.inUse i)
  else .ok (a.put i v ⟨Nat.lt_of_not_le outside, Bool.eq_false_iff.2 taken⟩)

/-- Put `v` into the lowest free slot; the answer is its index. -/
def claim (a : Arena α) (v : α) : Except ArenaError (Nat × Arena α) :=
  match a.firstFree with
  | none => .error (.full a.capacity)
  | some i => (a.claimAt i v).map (i, ·)

/-- Change the value in slot `i` to `v`, if the slot is claimed. -/
def set (a : Arena α) (i : Nat) (v : α) : Arena α :=
  if taken : a.isUsed i then
    ⟨a.slots.set i v (lt_size_of_isUsed taken), a.used, a.count,
      a.sound.set (lt_size_of_isUsed taken) (by rwa [← isUsed_eq_contains]) v⟩
  else a

theorem claimAt_eq_ok {a : Arena α} {i : Nat} (free : a.Free i) (v : α) :
    a.claimAt i v = .ok (a.put i v free) := by
  unfold claimAt
  rw [dif_neg (Nat.not_le.2 free.inside), dif_neg (Bool.eq_false_iff.1 free.unused)]

/-- A slot is claimed exactly if it is free. -/
theorem claimAt_eq_ok_iff {a b : Arena α} {i : Nat} {v : α} :
    a.claimAt i v = .ok b ↔ ∃ free : a.Free i, b = a.put i v free := by
  constructor
  · intro h
    unfold claimAt at h
    split at h
    · cases h
    · next inside =>
      split at h
      · cases h
      · next unused =>
        cases h
        exact ⟨⟨Nat.lt_of_not_le inside, Bool.eq_false_iff.2 unused⟩, rfl⟩
  · rintro ⟨free, rfl⟩
    exact claimAt_eq_ok free v

/-! ## The view -/

theorem isUsed_eq_isSome (a : Arena α) (i : Nat) : a.isUsed i = (a.get? i).isSome := by
  rw [get?]
  cases used : a.isUsed i with
  | false => rfl
  | true =>
    rw [if_pos rfl, Array.getElem?_eq_getElem (lt_size_of_isUsed used)]
    rfl

theorem lt_of_get? {a : Arena α} {i : Nat} {v : α} (h : a.get? i = some v) : i < a.capacity :=
  lt_size_of_isUsed (by rw [isUsed_eq_isSome, h]; rfl)

theorem get?_of_capacity_le {a : Arena α} {i : Nat} (h : a.capacity ≤ i) : a.get? i = none :=
  Option.eq_none_iff_forall_ne_some.2 fun _ there => Nat.not_lt.2 h (lt_of_get? there)

theorem free_iff {a : Arena α} {i : Nat} : a.Free i ↔ i < a.capacity ∧ a.get? i = none := by
  constructor
  · rintro ⟨inside, unused⟩
    rw [isUsed_eq_isSome, Option.isSome_eq_false_iff, Option.isNone_iff_eq_none] at unused
    exact ⟨inside, unused⟩
  · rintro ⟨inside, none⟩
    exact ⟨inside, by rw [isUsed_eq_isSome, none]; rfl⟩

@[simp] theorem capacity_withCapacity (n : Nat) : (withCapacity n : Arena α).capacity = n := by
  simp [capacity, withCapacity]

@[simp] theorem get?_withCapacity (n i : Nat) : (withCapacity n : Arena α).get? i = none := by
  have unused : (withCapacity n : Arena α).isUsed i = false := by
    rw [isUsed_eq_contains]
    exact Bitmap.contains_clear n i
  rw [get?, unused]
  rfl

@[simp] theorem capacity_put (a : Arena α) (i : Nat) (v : α) (free : a.Free i) :
    (a.put i v free).capacity = a.capacity := by
  simp [capacity, put]

theorem get?_put (a : Arena α) (i : Nat) (v : α) (free : a.Free i) (j : Nat) :
    (a.put i v free).get? j = if j = i then some v else a.get? j := by
  have members : (a.put i v free).isUsed j = (a.isUsed j || decide (i = j)) := by
    rw [isUsed_eq_contains, isUsed_eq_contains]
    exact Bitmap.contains_insert (Nat.lt_of_lt_of_le free.inside a.room) j
  by_cases here : j = i
  · subst here
    rw [get?, members, decide_eq_true rfl, Bool.or_true, if_pos rfl, if_pos rfl]
    simp [put]
  · rw [get?, members, decide_eq_false (Ne.symm here), Bool.or_false, if_neg here, get?]
    simp [put, Ne.symm here]

theorem get?_claimAt {a b : Arena α} {i : Nat} {v : α} (h : a.claimAt i v = .ok b) (j : Nat) :
    b.get? j = if j = i then some v else a.get? j := by
  obtain ⟨free, rfl⟩ := claimAt_eq_ok_iff.1 h
  exact get?_put a i v free j

theorem capacity_claimAt {a b : Arena α} {i : Nat} {v : α} (h : a.claimAt i v = .ok b) :
    b.capacity = a.capacity := by
  obtain ⟨free, rfl⟩ := claimAt_eq_ok_iff.1 h
  exact capacity_put a i v free

@[simp] theorem capacity_set (a : Arena α) (i : Nat) (v : α) :
    (a.set i v).capacity = a.capacity := by
  unfold set
  split <;> simp [capacity]

theorem get?_set (a : Arena α) (i : Nat) (v : α) (j : Nat) :
    (a.set i v).get? j = if j = i ∧ a.isUsed i then some v else a.get? j := by
  unfold set
  split
  · next taken =>
    simp only [get?, isUsed_eq_contains] at taken ⊢
    by_cases here : j = i
    · subst here
      simp [taken]
    · simp [here, Ne.symm here]
  · next free => rw [if_neg fun h => free h.2]

/-- Arenas of the same capacity that hold the same values are the same. -/
theorem ext_get? {a b : Arena α} (capacity : a.capacity = b.capacity)
    (h : ∀ i, i < a.capacity → a.get? i = b.get? i) : a = b := by
  have members (i : Nat) : a.used.contains i = b.used.contains i := by
    rw [← isUsed_eq_contains, ← isUsed_eq_contains, isUsed_eq_isSome, isUsed_eq_isSome]
    by_cases inside : i < a.capacity
    · rw [h i inside]
    · rw [get?_of_capacity_le (by omega), get?_of_capacity_le (by omega)]
  have size : a.slots.size = b.slots.size := capacity
  have used : a.used = b.used :=
    Bitmap.ext_contains (by rw [a.sound.words, b.sound.words, size]) members
  have slots : a.slots = b.slots := by
    refine Array.ext size fun i hi hi' => ?_
    cases member : a.used.contains i with
    | true =>
      have same := h i hi
      rw [get?, get?, isUsed_eq_contains, isUsed_eq_contains, ← members, member] at same
      simpa [hi, hi'] using same
    | false => rw [a.sound.rest i hi member, b.sound.rest i hi' (by rwa [← members])]
  have count : a.count = b.count := by
    rw [a.sound.counted, b.sound.counted, size, used]
  obtain ⟨slots', used', count', _⟩ := a
  obtain ⟨slots'', used'', count'', _⟩ := b
  cases slots
  cases used
  cases count
  rfl

/-! ## Many values at once -/

/-- The arena with `v`, if that is a value, in slot `i`, if that is free. -/
def fill (a : Arena α) (i : Nat) : Option α → Arena α
  | none => a
  | some v => if free : i < a.capacity ∧ a.isUsed i = false then a.put i v ⟨free.1, free.2⟩ else a

/-- The arena of `n` slots in which slot `i` holds `value i`, or is free if that is none. -/
def tabulate (n : Nat) (value : Nat → Option α) : Arena α :=
  (List.range n).foldl (fun a i => a.fill i (value i)) (withCapacity n)

/-- The arena with what `f` makes of the value in slot `i`, if there is one, in its place. -/
def mapAt (f : α → Checked α) (a : Arena α) (i : Nat) : Checked (Arena α) :=
  match a.get? i with
  | none => .ok a
  | some v => (f v).map (a.set i)

/-- The arena in which each value is replaced by what `f` makes of it, slot by slot. -/
def mapUsed (a : Arena α) (f : α → Checked α) : Checked (Arena α) :=
  (List.range a.capacity).foldlM (mapAt f) a

@[simp] theorem capacity_fill (a : Arena α) (i : Nat) (v : Option α) :
    (a.fill i v).capacity = a.capacity := by
  unfold fill
  split
  · rfl
  · split
    · exact capacity_put ..
    · rfl

theorem get?_fill {a : Arena α} {i : Nat} (free : a.Free i) (v : Option α) (j : Nat) :
    (a.fill i v).get? j = if j = i then v else a.get? j := by
  cases v with
  | none =>
    split
    · next here => rw [here]; exact (free_iff.1 free).2
    · rfl
  | some v =>
    rw [fill, dif_pos ⟨free.inside, free.unused⟩]
    exact get?_put a i v free j

/-- After the first `k` slots, these hold their values and the others are free. -/
theorem of_foldl_fill (n : Nat) (value : Nat → Option α) {k : Nat} (hk : k ≤ n) :
    let a : Arena α := (List.range k).foldl (fun a i => a.fill i (value i)) (withCapacity n)
    a.capacity = n ∧ ∀ i, a.get? i = if i < k then value i else none := by
  induction k with
  | zero => exact ⟨capacity_withCapacity n, fun i => get?_withCapacity n i⟩
  | succ k ih =>
    obtain ⟨capacity, view⟩ := ih (by omega)
    simp only [List.range_succ, List.foldl_append, List.foldl_cons, List.foldl_nil]
    generalize List.foldl (fun a i => a.fill i (value i)) (withCapacity n) (List.range k) = a
      at capacity view
    have free : a.Free k := free_iff.2 ⟨by omega, by rw [view, if_neg (Nat.lt_irrefl k)]⟩
    refine ⟨by rw [capacity_fill, capacity], fun i => ?_⟩
    rw [get?_fill free, view]
    by_cases here : i = k
    · rw [if_pos here, if_pos (by omega), here]
    · rw [if_neg here]
      by_cases before : i < k
      · rw [if_pos before, if_pos (by omega)]
      · rw [if_neg before, if_neg (by omega)]

@[simp] theorem capacity_tabulate (n : Nat) (value : Nat → Option α) :
    (tabulate n value).capacity = n := (of_foldl_fill n value (Nat.le_refl n)).1

theorem get?_tabulate (n : Nat) (value : Nat → Option α) (i : Nat) :
    (tabulate n value).get? i = if i < n then value i else none :=
  (of_foldl_fill n value (Nat.le_refl n)).2 i

theorem of_mapAt {f : α → Checked α} {a b : Arena α} {i : Nat} (h : mapAt f a i = .ok b) :
    b.capacity = a.capacity ∧ (a.get? i).mapM f = .ok (b.get? i)
      ∧ ∀ j, j ≠ i → b.get? j = a.get? j := by
  unfold mapAt at h
  cases there : a.get? i with
  | none =>
    rw [there] at h
    cases h
    exact ⟨rfl, by rw [there]; rfl, fun _ _ => rfl⟩
  | some v =>
    rw [there] at h
    dsimp only at h
    have used : a.isUsed i = true := by rw [isUsed_eq_isSome, there]; rfl
    cases made : f v with
    | error fault =>
      rw [made] at h
      cases h
    | ok w =>
      rw [made] at h
      cases h
      refine ⟨capacity_set a i w, ?_, fun j other => ?_⟩
      · rw [get?_set, if_pos ⟨rfl, used⟩, Option.mapM_some, made]
        rfl
      · rw [get?_set, if_neg fun here => other here.1]

theorem exists_mapAt_iff {f : α → Checked α} {a : Arena α} {i : Nat} :
    (∃ b, mapAt f a i = .ok b) ↔ ∀ v, a.get? i = some v → ∃ w, f v = .ok w := by
  unfold mapAt
  cases a.get? i with
  | none => exact iff_of_true ⟨a, rfl⟩ nofun
  | some v =>
    simp only [Option.some.injEq, forall_eq']
    cases f v with
    | error fault => exact iff_of_false nofun nofun
    | ok w => exact iff_of_true ⟨_, rfl⟩ ⟨w, rfl⟩

/-- After the first `k` slots, these hold what was made of their values and the others what they held. -/
theorem of_foldlM_mapAt {f : α → Checked α} {a : Arena α} {k : Nat} {b : Arena α}
    (h : (List.range k).foldlM (mapAt f) a = .ok b) :
    b.capacity = a.capacity ∧ (∀ i, i < k → (a.get? i).mapM f = .ok (b.get? i))
      ∧ ∀ i, k ≤ i → b.get? i = a.get? i := by
  induction k generalizing b with
  | zero =>
    cases h
    exact ⟨rfl, fun i hi => by omega, fun _ _ => rfl⟩
  | succ k ih =>
    rw [List.range_succ, List.foldlM_append] at h
    obtain ⟨c, first, last⟩ := Checked.bind_eq_ok_iff.1 h
    rw [List.foldlM_cons] at last
    obtain ⟨_, last, done⟩ := Checked.bind_eq_ok_iff.1 last
    cases done
    obtain ⟨capacity, made, kept⟩ := ih first
    obtain ⟨capacity', here, others⟩ := of_mapAt last
    rw [kept k (Nat.le_refl k)] at here
    refine ⟨capacity'.trans capacity, fun i hi => ?_, fun i hi => ?_⟩
    · by_cases last : i = k
      · rw [last]
        exact here
      · rw [others i last]
        exact made i (by omega)
    · rw [others i (by omega), kept i (by omega)]

theorem exists_foldlM_mapAt_iff {f : α → Checked α} {a : Arena α} {k : Nat} :
    (∃ b, (List.range k).foldlM (mapAt f) a = .ok b)
      ↔ ∀ i v, i < k → a.get? i = some v → ∃ w, f v = .ok w := by
  induction k with
  | zero => exact iff_of_true ⟨a, rfl⟩ fun i v hi => by omega
  | succ k ih =>
    rw [List.range_succ, List.foldlM_append]
    constructor
    · rintro ⟨b, h⟩ i v hi there
      obtain ⟨c, first, last⟩ := Checked.bind_eq_ok_iff.1 h
      by_cases here : i = k
      · subst here
        rw [List.foldlM_cons] at last
        obtain ⟨c', last, -⟩ := Checked.bind_eq_ok_iff.1 last
        refine exists_mapAt_iff.1 ⟨c', last⟩ v ?_
        rw [(of_foldlM_mapAt first).2.2 i (Nat.le_refl i), there]
      · exact ih.1 ⟨c, first⟩ i v (by omega) there
    · intro answers
      obtain ⟨c, first⟩ := ih.2 fun i v hi => answers i v (by omega)
      obtain ⟨b, last⟩ : ∃ b, mapAt f c k = .ok b := exists_mapAt_iff.2 fun v there => by
        rw [(of_foldlM_mapAt first).2.2 k (Nat.le_refl k)] at there
        exact answers k v (by omega) there
      refine ⟨b, Checked.bind_eq_ok_iff.2 ⟨c, first, ?_⟩⟩
      rw [List.foldlM_cons, last]
      rfl

/-- A computation on each value answers exactly if it does for each value. -/
theorem exists_mapUsed_iff {f : α → Checked α} {a : Arena α} :
    (∃ b, a.mapUsed f = .ok b) ↔ ∀ i v, a.get? i = some v → ∃ w, f v = .ok w := by
  rw [mapUsed, exists_foldlM_mapAt_iff]
  exact ⟨fun h i v there => h i v (lt_of_get? there) there, fun h i v _ there => h i v there⟩

/-- What it answers holds what was made of each value. -/
theorem mapUsed_eq_ok_iff {f : α → Checked α} {a b : Arena α} :
    a.mapUsed f = .ok b
      ↔ b.capacity = a.capacity ∧ ∀ i, (a.get? i).mapM f = .ok (b.get? i) := by
  have forward {c : Arena α} (h : a.mapUsed f = .ok c) :
      c.capacity = a.capacity ∧ ∀ i, (a.get? i).mapM f = .ok (c.get? i) := by
    obtain ⟨capacity, made, kept⟩ := of_foldlM_mapAt h
    refine ⟨capacity, fun i => ?_⟩
    by_cases inside : i < a.capacity
    · exact made i inside
    · rw [kept i (Nat.le_of_not_lt inside), get?_of_capacity_le (Nat.le_of_not_lt inside)]
      rfl
  refine ⟨forward, fun ⟨capacity, made⟩ => ?_⟩
  obtain ⟨c, h⟩ : ∃ c, a.mapUsed f = .ok c := exists_mapUsed_iff.2 fun i v there => by
    have answer := made i
    rw [there, Option.mapM_some] at answer
    cases result : f v with
    | error fault =>
      rw [result] at answer
      cases answer
    | ok w => exact ⟨w, rfl⟩
  -- An arena is determined by its view.
  obtain ⟨capacity', made'⟩ := forward h
  have same : c = b := ext_get? (capacity'.trans capacity.symm) fun i _ =>
    Except.ok.inj ((made' i).symm.trans (made i))
  rw [h, same]

end Arena

end Passthrough
