import Passthrough.Discovery.DeviceList

/-!
# Passthrough — searches in a device list

The records of a device list are in order, so an address is found by halving.  Where the search ends a
record with that address is, or it belongs there.

* `DeviceList.search` — the place of an address, by halving.
* `Sorted.isPlace_search` — in a list in order the search ends at the right place.
* `Sorted.lookUp_eq`, `Sorted.insertFound_eq` — looking up and inserting at that place are `get?` and
  `insert`.
-/

namespace Passthrough

namespace FunctionAddress

theorem lt_irrefl (a : FunctionAddress) : ¬ a < a := Nat.lt_irrefl a.key

theorem lt_trans {a b c : FunctionAddress} (h : a < b) (h' : b < c) : a < c :=
  Nat.lt_trans (m := b.key) h h'

theorem lt_asymm {a b : FunctionAddress} (h : a < b) : ¬ b < a := Nat.lt_asymm (a := a.key) h

theorem ne_of_lt {a b : FunctionAddress} (h : a < b) : a ≠ b := by
  rintro rfl
  exact lt_irrefl a h

theorem lt_of_not_lt_of_ne {a b : FunctionAddress} (h : ¬ a < b) (ne : a ≠ b) : b < a :=
  Nat.lt_of_le_of_ne (Nat.le_of_not_lt (a := a.key) h) fun same => ne (key_inj same.symm)

end FunctionAddress

namespace DeviceList

variable {Channel : Type} {ds front back : List (DeviceRecord Channel)} {l : DeviceList Channel}
  {a : FunctionAddress} {d r : DeviceRecord Channel}

/-- Where an address belongs among `n` records. -/
inductive Place (n : Nat) where
  | found (index : Fin n)
  /-- There is no record with it, and one would go in front of the record with this number. -/
  | gap (index : Nat)

/-- Search the records from `low` up to `high`, and halve them at each step. -/
def searchFrom (ds : List (DeviceRecord Channel)) (a : FunctionAddress) (low high : Nat)
    (inside : high ≤ ds.length) : Place ds.length :=
  if some : low < high then
    let middle : Fin ds.length := ⟨(low + high) / 2, by omega⟩
    if ds[middle].address = a then .found middle
    else if ds[middle].address < a then searchFrom ds a (middle + 1) high inside
    else searchFrom ds a low middle (Nat.le_of_lt middle.isLt)
  else .gap low
termination_by high - low

def search (l : DeviceList Channel) (a : FunctionAddress) : Place l.records.length :=
  searchFrom l.records a 0 l.records.length (Nat.le_refl _)

/-- The record at the place of an address. -/
def lookUp (l : DeviceList Channel) (a : FunctionAddress) : Option (DeviceRecord Channel) :=
  match l.search a with
  | .found i => some l.records[i]
  | .gap _ => none

/-- Fold a record into the one at its place, or put it there. -/
def insertFound (l : DeviceList Channel) (r : DeviceRecord Channel) : Insertion Channel :=
  match l.search r.address with
  | .found i => ⟨.merged, (l.records[i].merge r).2, ⟨l.records.set i (l.records[i].merge r).1⟩⟩
  | .gap i => ⟨.new, none, ⟨l.records.take i ++ r :: l.records.drop i⟩⟩

/-! ## The right place -/

/-- The records come before or behind the place as their addresses do. -/
inductive IsPlace (ds : List (DeviceRecord Channel)) (a : FunctionAddress) :
    Place ds.length → Prop where
  | found (i : Fin ds.length) (same : ds[i].address = a) : IsPlace ds a (.found i)
  | gap (i : Nat) (inside : i ≤ ds.length) (before : ∀ d ∈ ds.take i, d.address < a)
      (behind : ∀ d ∈ ds.drop i, a < d.address) : IsPlace ds a (.gap i)

theorem isPlace_searchFrom (sorted : Sorted ⟨ds⟩) {low high : Nat} (inside : high ≤ ds.length)
    (order : low ≤ high) (before : ∀ d ∈ ds.take low, d.address < a)
    (behind : ∀ d ∈ ds.drop high, a < d.address) : IsPlace ds a (searchFrom ds a low high inside) := by
  have increasing : ∀ (i j : Nat) (hi : i < ds.length) (hj : j < ds.length), i < j →
      ds[i].address < ds[j].address := List.pairwise_iff_getElem.1 sorted
  fun_induction searchFrom ds a low high inside with
  | case1 low high inside some middle same => exact .found middle same
  | case2 low high inside some middle other smaller ih =>
    -- Everything up to the middle comes before the address.
    refine ih (by simp only [middle]; omega) ?_ behind
    intro d hd
    obtain ⟨j, hj, rfl⟩ := List.mem_take_iff_getElem.1 hd
    rcases Nat.lt_or_ge j middle with less | rest
    · exact FunctionAddress.lt_trans (increasing j middle (by omega) middle.isLt less) smaller
    · have same : j = middle := by omega
      subst same
      exact smaller
  | case3 low high inside some middle other larger ih =>
    -- Everything from the middle on comes behind it.
    refine ih (by simp only [middle]; omega) before ?_
    have behind_middle := FunctionAddress.lt_of_not_lt_of_ne larger other
    intro d hd
    obtain ⟨j, hj, rfl⟩ := List.mem_drop_iff_getElem.1 hd
    rcases Nat.eq_zero_or_pos j with rfl | more
    · exact behind_middle
    · exact FunctionAddress.lt_trans behind_middle
        (increasing middle (middle + j) middle.isLt (by omega) (by omega))
  | case4 low high inside none =>
    have same : low = high := by omega
    subst same
    exact .gap low inside before behind

/-- **In a list in order the search ends at the right place.** -/
theorem Sorted.isPlace_search (sorted : l.Sorted) (a : FunctionAddress) :
    IsPlace l.records a (l.search a) :=
  isPlace_searchFrom sorted (Nat.le_refl _) (Nat.zero_le _) (by simp) (by simp)

/-! ## The records before a place and behind it -/

theorem address_ne_of_before (before : ∀ e ∈ front, e.address < a) : ∀ e ∈ front, e.address ≠ a :=
  fun e he => FunctionAddress.ne_of_lt (before e he)

theorem address_ne_of_behind (behind : ∀ e ∈ back, a < e.address) : ∀ e ∈ back, e.address ≠ a :=
  fun e he => (FunctionAddress.ne_of_lt (behind e he)).symm

/-- An insertion passes over what comes before the record. -/
theorem insertInto_append (before : ∀ e ∈ front, e.address < r.address) :
    insertInto r (front ++ back)
      = { insertInto r back with list := ⟨front ++ (insertInto r back).list.records⟩ } := by
  induction front with
  | nil => rfl
  | cons e front ih =>
    have first := before e List.mem_cons_self
    rw [List.cons_append, insertInto, if_neg (FunctionAddress.ne_of_lt first),
      if_neg (FunctionAddress.lt_asymm first), ih fun e' he' => before e' (List.mem_cons_of_mem e he')]
    rfl

theorem insertInto_of_found (before : ∀ e ∈ front, e.address < r.address)
    (same : d.address = r.address) :
    insertInto r (front ++ d :: back) = ⟨.merged, (d.merge r).2, ⟨front ++ (d.merge r).1 :: back⟩⟩ := by
  rw [insertInto_append before, insertInto, if_pos same]

theorem insertInto_of_gap (before : ∀ e ∈ front, e.address < r.address)
    (behind : ∀ e ∈ back, r.address < e.address) :
    insertInto r (front ++ back) = ⟨.new, none, ⟨front ++ r :: back⟩⟩ := by
  rw [insertInto_append before]
  cases back with
  | nil => rfl
  | cons e back =>
    have first := behind e List.mem_cons_self
    rw [insertInto, if_neg (FunctionAddress.ne_of_lt first).symm, if_pos first]

theorem find?_of_found (others : ∀ e ∈ front, e.address ≠ a) (same : d.address = a) :
    (front ++ d :: back).find? (·.address = a) = some d := by
  have missing : front.find? (·.address = a) = none := by simpa using others
  rw [List.find?_append, missing, Option.none_or, List.find?_cons_of_pos (by simpa using same)]

theorem find?_of_gap (others : ∀ e ∈ front, e.address ≠ a) (others' : ∀ e ∈ back, e.address ≠ a) :
    (front ++ back).find? (·.address = a) = none := by
  rw [List.find?_eq_none]
  intro e he
  rcases List.mem_append.1 he with he | he
  · simpa using others e he
  · simpa using others' e he

/-- The records of a list in order, around an address. -/
inductive Around (a : FunctionAddress) : List (DeviceRecord Channel) → Prop where
  | found {front back : List (DeviceRecord Channel)} {d : DeviceRecord Channel} (same : d.address = a)
      (before : ∀ e ∈ front, e.address < a) (behind : ∀ e ∈ back, a < e.address) :
      Around a (front ++ d :: back)
  | gap {front back : List (DeviceRecord Channel)} (before : ∀ e ∈ front, e.address < a)
      (behind : ∀ e ∈ back, a < e.address) : Around a (front ++ back)

theorem Sorted.split (sorted : l.Sorted) (i : Fin l.records.length) :
    l.records = l.records.take i ++ l.records[i] :: l.records.drop (i + 1)
      ∧ (∀ e ∈ l.records.take i, e.address < l.records[i].address)
      ∧ ∀ e ∈ l.records.drop (i + 1), l.records[i].address < e.address := by
  have increasing := List.pairwise_iff_getElem.1 sorted
  refine ⟨?_, ?_, ?_⟩
  · have pieces := List.take_append_drop i.val l.records
    rw [List.drop_eq_getElem_cons i.isLt] at pieces
    exact pieces.symm
  · intro e he
    obtain ⟨j, hj, rfl⟩ := List.mem_take_iff_getElem.1 he
    exact increasing j i (by omega) i.isLt (by omega)
  · intro e he
    obtain ⟨j, hj, rfl⟩ := List.mem_drop_iff_getElem.1 he
    exact increasing i (i + 1 + j) i.isLt (by omega) (by omega)

theorem Sorted.around (sorted : l.Sorted) (a : FunctionAddress) : Around a l.records := by
  have place := sorted.isPlace_search a
  generalize l.search a = found at place
  cases place with
  | found i same =>
    obtain ⟨pieces, before, behind⟩ := sorted.split i
    rw [same] at before behind
    rw [pieces]
    exact .found same before behind
  | gap i inside before behind =>
    rw [← List.take_append_drop i l.records]
    exact .gap before behind

/-! ## Looking up and inserting -/

/-- Looking up where the search ends finds the record of an address. -/
theorem Sorted.lookUp_eq (sorted : l.Sorted) (a : FunctionAddress) : l.lookUp a = l.get? a := by
  have place := sorted.isPlace_search a
  unfold lookUp get?
  generalize l.search a = found at place
  cases place with
  | found i same =>
    obtain ⟨pieces, before, -⟩ := sorted.split i
    rw [same] at before
    have found : (l.records.take i ++ l.records[i] :: l.records.drop (i + 1)).find? (·.address = a)
        = some l.records[i] := find?_of_found (address_ne_of_before before) same
    rw [← pieces] at found
    exact found.symm
  | gap i inside before behind =>
    have missing := find?_of_gap (address_ne_of_before before) (address_ne_of_behind behind)
    rw [List.take_append_drop] at missing
    exact missing.symm

/-- Inserting where the search ends is insertion. -/
theorem Sorted.insertFound_eq (sorted : l.Sorted) (r : DeviceRecord Channel) :
    l.insertFound r = l.insert r := by
  have place := sorted.isPlace_search r.address
  unfold insertFound insert
  generalize l.search r.address = found at place
  cases place with
  | found i same =>
    obtain ⟨pieces, before, -⟩ := sorted.split i
    rw [same] at before
    have inserted : insertInto r (l.records.take i ++ l.records[i] :: l.records.drop (i + 1)) = _ :=
      insertInto_of_found before same
    rw [← pieces] at inserted
    rw [inserted]
    dsimp only
    rw [List.set_eq_take_append_cons_drop, if_pos i.isLt]
  | gap i inside before behind =>
    have inserted := insertInto_of_gap before behind
    rw [List.take_append_drop] at inserted
    rw [inserted]

end DeviceList

end Passthrough
