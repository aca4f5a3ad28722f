import Passthrough.Discovery.DeviceRecord

/-!
# Passthrough — device lists

The functions that a process knows, in the order of their addresses and at most one record for each.

* `DeviceList.get?` — the view: a partial map from addresses to records.
* `DeviceList.insert` — a record is added, or folded into the one that is there.
* `DeviceList.Sorted` — strictly increasing addresses, which `insert` keeps (`sorted_insert`).
-/

namespace Passthrough

/-- Records in the order of their addresses. -/
structure DeviceList (Channel : Type) where
  records : List (DeviceRecord Channel)
deriving DecidableEq

/-- What an insertion did. -/
inductive Inserted where
  | new
  /-- The record was folded into one that was there. -/
  | merged
deriving DecidableEq

def Inserted.name : Inserted → String
  | .new => "New"
  | .merged => "Merged"

/-- An insertion: what it did, the channel left over, and the list after it. -/
structure Insertion (Channel : Type) where
  inserted : Inserted
  leftOver : Option Channel
  list : DeviceList Channel

/-- The insertion with `r` in front of the list. -/
def Insertion.behind {Channel : Type} (i : Insertion Channel) (r : DeviceRecord Channel) :
    Insertion Channel :=
  { i with list := ⟨r :: i.list.records⟩ }

namespace DeviceList

variable {Channel : Type}

def empty : DeviceList Channel := ⟨[]⟩

def len (l : DeviceList Channel) : Nat := l.records.length

def isEmpty (l : DeviceList Channel) : Bool := l.records.isEmpty

def get? (l : DeviceList Channel) (a : FunctionAddress) : Option (DeviceRecord Channel) :=
  l.records.find? fun r => r.address = a

def isBound (l : DeviceList Channel) (a : FunctionAddress) : Bool :=
  (l.get? a).any DeviceRecord.isBound

/-- The open channels, in the order of the records. -/
def channels (l : DeviceList Channel) : List Channel := l.records.filterMap (·.channel)

/-- Add `r` to records in order. -/
def insertInto (r : DeviceRecord Channel) : List (DeviceRecord Channel) → Insertion Channel
  | [] => ⟨.new, none, ⟨[r]⟩⟩
  | d :: ds =>
    if d.address = r.address then ⟨.merged, (d.merge r).2, ⟨(d.merge r).1 :: ds⟩⟩
    else if r.address < d.address then ⟨.new, none, ⟨r :: d :: ds⟩⟩
    else (insertInto r ds).behind d

/-- Add `r`, or fold it into the record of its function. -/
def insert (l : DeviceList Channel) (r : DeviceRecord Channel) : Insertion Channel :=
  insertInto r l.records

/-! ## Order -/

def Sorted (l : DeviceList Channel) : Prop := l.records.Pairwise fun a b => a.address < b.address

/-- An insertion brings in no address but that of the record. -/
theorem address_mem_insertInto {r d : DeviceRecord Channel} {ds : List (DeviceRecord Channel)}
    (h : d ∈ (insertInto r ds).list.records) :
    d.address = r.address ∨ ∃ e ∈ ds, d.address = e.address := by
  induction ds with
  | nil => simp_all [insertInto]
  | cons e es ih =>
    rw [insertInto] at h
    split at h
    · next he =>
      rcases List.mem_cons.1 h with rfl | h
      · exact .inl ((DeviceRecord.address_merge e r).trans he)
      · exact .inr ⟨d, .tail _ h, rfl⟩
    · split at h
      · rcases List.mem_cons.1 h with rfl | h
        · exact .inl rfl
        · exact .inr ⟨d, h, rfl⟩
      · rcases List.mem_cons.1 h with rfl | h
        · exact .inr ⟨d, .head _, rfl⟩
        · rcases ih h with h | ⟨e', he', h⟩
          · exact .inl h
          · exact .inr ⟨e', .tail _ he', h⟩

theorem sorted_insert {l : DeviceList Channel} (h : l.Sorted) (r : DeviceRecord Channel) :
    (l.insert r).list.Sorted := by
  obtain ⟨ds⟩ := l
  simp only [Sorted, insert] at h ⊢
  induction ds with
  | nil => simp [insertInto]
  | cons d ds ih =>
    obtain ⟨hd, hds⟩ := List.pairwise_cons.1 h
    rw [insertInto]
    split
    · exact List.pairwise_cons.2
        ⟨fun e he => by rw [DeviceRecord.address_merge]; exact hd e he, hds⟩
    · next hne =>
      split
      · next hlt =>
        refine List.pairwise_cons.2 ⟨fun e he => ?_, h⟩
        rcases List.mem_cons.1 he with rfl | he
        · exact hlt
        · exact Nat.lt_trans hlt (hd e he)
      · next hge =>
        have hlt : d.address < r.address :=
          Nat.lt_of_le_of_ne (Nat.not_lt.1 hge) fun hk => hne (FunctionAddress.key_inj hk)
        refine List.pairwise_cons.2 ⟨fun e he => ?_, ih hds⟩
        rcases address_mem_insertInto he with he | ⟨e', he', he⟩
        · rw [he]; exact hlt
        · rw [he]; exact hd e' he'

end DeviceList

end Passthrough
