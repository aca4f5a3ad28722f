import Mathlib.Data.List.Dedup
import Passthrough.Proofs.Discovery.Bystanders
import Passthrough.Proofs.Discovery.Merging

/-!
# Passthrough — what a scan counts

A scan answers how many of the nodes count.  A node counts if its function is acquired, and also if the
function was mapped already, be it by an earlier scan or through an earlier node of the same one.  The
records are one for each function.

```text
 node            A: 05:00.0     B: 06:00.0     C: 05:00.0     D: no interface
 visit           acquired       acquired       known          passed over
 counted         1              2              3              3
 records         1              2              2              2
```

* `Survey.Counted`, `visit_eq_true_iff` — why a node counts.
* `Survey.Counts`, `visitAll_eq_ok_iff` — the functions that a pass counts, one after the other.
* `DeviceList.Settled`, `Survey.Counts.addresses` — every record is bound, and the records after a pass are
  those of the functions that it counted and of those that were there.
* `Survey.scan_count_iff` — a scan that starts with no devices counts nodes, and leaves a record for each
  function that they stand for.
-/

namespace Passthrough

/-! ## Lists of bound records -/

namespace DeviceList

variable {Channel : Type} {l : DeviceList Channel} {a : FunctionAddress}

/-- The functions that there are records of. -/
def addresses (l : DeviceList Channel) : List FunctionAddress := l.records.map (·.address)

/-- The records are in order, and each holds a channel. -/
structure Settled (l : DeviceList Channel) : Prop where
  sorted : l.Sorted
  bound : ∀ r ∈ l.records, r.isBound = true

theorem settled_empty : (empty : DeviceList Channel).Settled where
  sorted := sorted_empty
  bound _ hr := absurd hr List.not_mem_nil

theorem Settled.nodup (h : l.Settled) : l.addresses.Nodup := by
  have hdistinct : l.records.Pairwise fun d e => d.address ≠ e.address :=
    h.sorted.imp fun hlt => FunctionAddress.ne_of_lt hlt
  exact List.pairwise_map.2 hdistinct

theorem Settled.isBound_iff (h : l.Settled) : l.isBound a = true ↔ a ∈ l.addresses := by
  constructor
  · intro hbound
    by_contra habsent
    have hnone : l.get? a = none := by
      rw [get?, List.find?_eq_none]
      intro r hr hsame
      exact habsent (List.mem_map.2 ⟨r, hr, of_decide_eq_true hsame⟩)
    rw [isBound, hnone] at hbound
    cases hbound
  · intro hmember
    obtain ⟨r, hr, hsame⟩ := List.mem_map.1 hmember
    by_contra hunbound
    exact address_ne_of_unbound h.bound (Bool.eq_false_iff.2 hunbound) r hr hsame

/-- A bound record of a function that is not there yet joins the others. -/
theorem Settled.insert (h : l.Settled) {r : DeviceRecord Channel} (hbound : r.isBound = true)
    (hnew : l.isBound r.address = false) :
    (l.insert r).list.Settled
      ∧ ∀ a, a ∈ (l.insert r).list.addresses ↔ a = r.address ∨ a ∈ l.addresses := by
  have hmem := fun e => mem_insert_iff (e := e) (address_ne_of_unbound h.bound hnew)
  refine ⟨⟨sorted_insert h.sorted r, fun e he => ?_⟩, fun a => ?_⟩
  · rcases (hmem e).1 he with rfl | he
    · exact hbound
    · exact h.bound e he
  · simp only [addresses, List.mem_map, hmem]
    constructor
    · rintro ⟨e, rfl | he, rfl⟩
      · exact .inl rfl
      · exact .inr ⟨e, he, rfl⟩
    · rintro (rfl | ⟨e, he, rfl⟩)
      · exact ⟨r, .inl rfl, rfl⟩
      · exact ⟨e, .inr he, rfl⟩

end DeviceList

/-- The function that a node stands for. -/
def DeviceNode.address? (node : DeviceNode) : Option FunctionAddress :=
  node.identify.toOption.map (·.1)

theorem DeviceNode.address?_of_identify {node : DeviceNode} {address : FunctionAddress}
    {id : HardwareId} (hidentified : node.identify = .ok (address, id)) :
    node.address? = some address := by
  rw [address?, hidentified]
  rfl

/-! ## Nodes that count -/

namespace Survey

variable {s s' t u : Survey} {tree : DeviceTree} {node : DeviceNode} {nodes : List DeviceNode}
  {address : FunctionAddress} {found : List FunctionAddress}

/-- The node counts for the function at an address: the process has mapped that already, or it is
acquired. -/
inductive Counted (s : Survey) (tree : DeviceTree) (node : DeviceNode) : FunctionAddress → Survey → Prop where
  | known {address : FunctionAddress} {id : HardwareId} (identified : node.identify = .ok (address, id))
      (bound : s.devices.isBound address = true) :
      Counted s tree node address
        (s.say .debug (node.id ++ ": " ++ address.toText ++ " is already mapped"))
  | acquired {address : FunctionAddress} {id : HardwareId} {r : DeviceRecord Channel} {s' : Survey}
      (identified : node.identify = .ok (address, id)) (unbound : s.devices.isBound address = false)
      (opened : s.openNode tree node address id = .ok (.ok r, s')) :
      Counted s tree node address
        ({ s' with host := s'.host.tell [foundMessage node r] }.insert r).2

theorem visit_eq_true_iff :
    s.visit tree node = .ok (true, t) ↔ ∃ address, s.Counted tree node address t := by
  constructor
  · intro hvisited
    unfold visit at hvisited
    split at hvisited
    · cases hvisited
    · next address id hidentified =>
      split at hvisited
      · next hbound =>
        cases hvisited
        exact ⟨address, .known hidentified hbound⟩
      · next hunbound =>
        obtain ⟨⟨result, s₁⟩, hopened, hvisited⟩ := Checked.bind_eq_ok_iff.1 hvisited
        cases result with
        | error skip => cases hvisited
        | ok r =>
          cases hvisited
          exact ⟨address, .acquired hidentified (Bool.eq_false_iff.2 hunbound) hopened⟩
  · rintro ⟨address, hcounted⟩
    cases hcounted with
    | known hidentified hbound => exact visit_of_bound hidentified hbound
    | acquired hidentified hunbound hopened =>
      unfold visit
      rw [hidentified]
      dsimp only
      rw [hunbound, hopened]
      rfl

theorem Counted.address?_eq (hcounted : s.Counted tree node address t) :
    node.address? = some address := by
  cases hcounted with
  | known hidentified _ => exact DeviceNode.address?_of_identify hidentified
  | acquired hidentified _ _ => exact DeviceNode.address?_of_identify hidentified

/-- Whichever way the node counts, its function has a record then, and no other has come. -/
theorem Counted.addresses (hcounted : s.Counted tree node address t) (hsettled : s.devices.Settled) :
    t.devices.Settled
      ∧ ∀ a, a ∈ t.devices.addresses ↔ a = address ∨ a ∈ s.devices.addresses := by
  cases hcounted with
  | known _ hbound =>
    refine ⟨hsettled, fun a => ⟨.inr, ?_⟩⟩
    rintro (rfl | hmember)
    · exact hsettled.isBound_iff.1 hbound
    · exact hmember
  | acquired _ hunbound hopened =>
    -- The record is the one that was made for the node, and is bound.
    cases opening_of_openNode hopened with
    | acquired opens maps => exact hsettled.insert rfl hunbound

/-! ## Passes -/

/-- The functions that a pass counts, one for each node that counts and in the order of the nodes. -/
inductive Counts (tree : DeviceTree) :
    Survey → List DeviceNode → List FunctionAddress → Survey → Prop where
  | done (s : Survey) : Counts tree s [] [] s
  | passed {s t u : Survey} {node : DeviceNode} {skip : Skip} {nodes : List DeviceNode}
      {found : List FunctionAddress} (drops : s.Drops tree node skip t)
      (rest : Counts tree t nodes found u) : Counts tree s (node :: nodes) found u
  | counted {s t u : Survey} {node : DeviceNode} {address : FunctionAddress} {nodes : List DeviceNode}
      {found : List FunctionAddress} (counted : s.Counted tree node address t)
      (rest : Counts tree t nodes found u) : Counts tree s (node :: nodes) (address :: found) u

theorem visitAll_eq_ok_iff {n : Nat} :
    s.visitAll tree nodes = .ok (n, t) ↔ ∃ found, Counts tree s nodes found t ∧ found.length = n := by
  induction nodes generalizing s n with
  | nil =>
    constructor
    · intro hvisited
      cases hvisited
      exact ⟨[], .done _, rfl⟩
    · rintro ⟨found, ⟨⟩, rfl⟩
      rfl
  | cons node nodes ih =>
    constructor
    · intro hvisited
      obtain ⟨⟨counts, t₁⟩, hfirst, hvisited⟩ := Checked.bind_eq_ok_iff.1 hvisited
      obtain ⟨⟨more, t₂⟩, hrest, hvisited⟩ := Checked.bind_eq_ok_iff.1 hvisited
      cases hvisited
      obtain ⟨found, hcounts, rfl⟩ := ih.1 hrest
      cases counts with
      | false =>
        obtain ⟨skip, hdrops⟩ := visit_eq_false_iff.1 hfirst
        exact ⟨found, .passed hdrops hcounts, rfl⟩
      | true =>
        obtain ⟨address, hcounted⟩ := visit_eq_true_iff.1 hfirst
        exact ⟨address :: found, .counted hcounted hcounts, rfl⟩
    · rintro ⟨found, hcounts, rfl⟩
      cases hcounts with
      | passed hdrops hrest =>
        rw [visitAll_of_drops hdrops]
        exact ih.2 ⟨found, hrest, rfl⟩
      | counted hcounted hrest =>
        rw [visitAll, visit_eq_true_iff.2 ⟨_, hcounted⟩]
        show (visitAll _ tree nodes >>= _) = _
        rw [ih.2 ⟨_, hrest, rfl⟩]
        rfl

/-- Every function that is counted is one that a node stands for. -/
theorem Counts.sublist (hcounts : Counts tree s nodes found t) :
    found.Sublist (nodes.filterMap DeviceNode.address?) := by
  induction hcounts with
  | done s => exact List.Sublist.refl []
  | @passed s t u node skip nodes found hdrops hrest ih =>
    cases hnode : node.address? with
    | none =>
      rw [List.filterMap_cons_none hnode]
      exact ih
    | some address =>
      rw [List.filterMap_cons_some hnode]
      exact ih.cons address
  | counted hcounted hrest ih =>
    rw [List.filterMap_cons_some hcounted.address?_eq]
    exact ih.cons_cons _

/-- The records after a pass are those of the functions that it counted and of those that were there. -/
theorem Counts.addresses (hcounts : Counts tree s nodes found t) (hsettled : s.devices.Settled) :
    t.devices.Settled
      ∧ ∀ a, a ∈ t.devices.addresses ↔ a ∈ found ∨ a ∈ s.devices.addresses := by
  induction hcounts with
  | done s => exact ⟨hsettled, fun a => by simp⟩
  | passed hdrops hrest ih =>
    rw [hdrops.kept.1] at ih
    exact ih hsettled
  | counted hcounted hrest ih =>
    obtain ⟨hsettled₁, hfirst⟩ := hcounted.addresses hsettled
    obtain ⟨hsettled₂, hrest⟩ := ih hsettled₁
    refine ⟨hsettled₂, fun a => ?_⟩
    rw [hrest, hfirst, List.mem_cons]
    exact or_left_comm.trans or_assoc.symm

/-- A pass that starts with no devices leaves one record for each function that it counted. -/
theorem Counts.perm (hcounts : Counts tree s nodes found t) (hempty : s.devices = .empty) :
    t.devices.Settled ∧ t.devices.addresses.Perm found.dedup := by
  have hsettled : s.devices.Settled := hempty ▸ DeviceList.settled_empty
  obtain ⟨hsettled', hmem⟩ := hcounts.addresses hsettled
  have hnone : ∀ a, a ∉ s.devices.addresses := by
    rw [hempty]
    exact fun a => List.not_mem_nil
  refine ⟨hsettled', (List.perm_ext_iff_of_nodup hsettled'.nodup found.nodup_dedup).2 fun a => ?_⟩
  rw [hmem, List.mem_dedup]
  exact or_iff_left (hnone a)

/-! ## Scans -/

/-- A scan that finds something is a pass that counts some nodes. -/
theorem scan_eq_ok_iff {classFilter : Option String} {n : Nat}
    (hlisted : tree.list classFilter = .ok nodes) :
    s.scan tree classFilter = .ok (.ok n, s') ↔
      ∃ found u, Counts tree (s.begun classFilter) nodes found u ∧ found.length = n ∧ n ≠ 0
        ∧ s' = u.say .info ("PCI scan found " ++ toString n ++ " devices") := by
  rw [scan_of_listed hlisted]
  constructor
  · intro hscanned
    obtain ⟨⟨k, u⟩, hvisited, hscanned⟩ := Checked.bind_eq_ok_iff.1 hscanned
    obtain ⟨hanswer, rfl⟩ := Prod.mk.inj (Except.ok.inj hscanned)
    dsimp only at hanswer
    split at hanswer
    · cases hanswer
    · next hsome =>
      obtain rfl := Except.ok.inj hanswer
      obtain ⟨found, hcounts, hlength⟩ := visitAll_eq_ok_iff.1 hvisited
      exact ⟨found, u, hcounts, hlength, hsome, rfl⟩
  · rintro ⟨found, u, hcounts, hlength, hsome, rfl⟩
    rw [visitAll_eq_ok_iff.2 ⟨found, hcounts, hlength⟩, Checked.ok_bind, if_neg hsome]

/-- **A scan counts nodes, and leaves a record for each function.**  Take a scan that starts with no
devices, of any tree and with drivers in any state, and that answers `n`.  It comes by the nodes of the
tree one after the other, and those that count stand for the functions `found`, in this order.

* `n` is the number of nodes that count.
* The records are in order and bound, one for each function among `found`.
* So `n` is the number of records exactly if no two of the nodes that count stand for the same function.
  That holds in particular if no two nodes of the tree do. -/
theorem scan_count_iff {classFilter : Option String} {n : Nat} (hempty : s.devices = .empty)
    (hscanned : s.scan tree classFilter = .ok (.ok n, s')) :
    ∃ nodes found u, tree.list classFilter = .ok nodes
      ∧ Counts tree (s.begun classFilter) nodes found u
      ∧ s' = u.say .info ("PCI scan found " ++ toString n ++ " devices")
      ∧ n = found.length
      ∧ s'.devices.Sorted ∧ (∀ r ∈ s'.devices.records, r.isBound = true)
      ∧ (s'.devices.records.map (·.address)).Perm found.dedup
      ∧ (s'.devices.len = n ↔ found.Nodup)
      ∧ ((nodes.filterMap DeviceNode.address?).Nodup → s'.devices.len = n) := by
  cases hlisted : tree.list classFilter with
  | error e =>
    unfold scan at hscanned
    rw [hlisted] at hscanned
    cases hscanned
  | ok nodes =>
    obtain ⟨found, u, hcounts, rfl, -, rfl⟩ := (scan_eq_ok_iff hlisted).1 hscanned
    obtain ⟨hsettled, hperm⟩ := hcounts.perm hempty
    have hlen : u.devices.len = found.dedup.length := by
      rw [← hperm.length_eq]
      exact (List.length_map _).symm
    have hiff : u.devices.len = found.length ↔ found.Nodup := by
      rw [hlen, ← List.dedup_eq_self]
      exact ⟨fun hsame => found.dedup_sublist.eq_of_length hsame, fun hself => by rw [hself]⟩
    exact ⟨nodes, found, u, rfl, hcounts, rfl, rfl, hsettled.sorted, hsettled.bound, hperm, hiff,
      fun hdistinct => hiff.2 (hcounts.sublist.nodup hdistinct)⟩

/-- With the right node alone one node counts, and there is one record. -/
theorem scan_count_iff_rightNode : ∃ s₀ s', (start ⟨7⟩).run preparedCard = .ok s₀
    ∧ s₀.devices = .empty ∧ s₀.scan (.leadingTo (some (.driver 0)) [rightNode]) none = .ok (.ok 1, s')
    ∧ s'.devices.len = 1 := by
  obtain ⟨s₀, s₁, hprepared, hempty, -, -, hacquired⟩ := exists_acquired_card
  let tree : DeviceTree := .leadingTo (some (.driver 0)) [rightNode]
  have hlisted : tree.list none = .ok [rightNode] := rfl
  obtain ⟨address, hcounted⟩ := visit_eq_true_iff.1 (hacquired tree rfl)
  have hscanned := (scan_eq_ok_iff hlisted).2
    ⟨_, _, .counted hcounted (.done _), rfl, Nat.one_ne_zero, rfl⟩
  obtain ⟨nodes, found, u, hlisted', -, -, -, -, -, -, -, hdistinct⟩ := scan_count_iff hempty hscanned
  obtain rfl := Except.ok.inj (hlisted.symm.trans hlisted')
  exact ⟨s₀, _, hprepared, hempty, hscanned, hdistinct (by decide +kernel)⟩

/-- With two nodes for the same function two are counted, and there is one record. -/
theorem exists_counted_twice : ∃ s₀ s', (start ⟨7⟩).run preparedCard = .ok s₀
    ∧ s₀.devices = .empty
    ∧ s₀.scan (.leadingTo (some (.driver 0))
        [rightNode, cardNode "C" "PCI bus 3, device 0, function 0"]) none = .ok (.ok 2, s')
    ∧ s'.devices.len = 1 := by
  obtain ⟨s₀, s₁, hprepared, hempty, hone, hbound, hacquired⟩ := exists_acquired_card
  let again : DeviceNode := cardNode "C" "PCI bus 3, device 0, function 0"
  let tree : DeviceTree := .leadingTo (some (.driver 0)) [rightNode, again]
  have hlisted : tree.list none = .ok [rightNode, again] := rfl
  obtain ⟨address, hfirst⟩ := visit_eq_true_iff.1 (hacquired tree rfl)
  -- The second node tells the same as the first, and comes to a function that is mapped by now.
  have hidentified : again.identify = .ok (cardAddress, cardId) := identify_rightNode
  have hsecond : s₁.Counted tree again cardAddress _ := .known hidentified hbound
  have hscanned := (scan_eq_ok_iff hlisted).2
    ⟨_, _, .counted hfirst (.counted hsecond (.done _)), rfl, Nat.succ_ne_zero 1, rfl⟩
  exact ⟨s₀, _, hprepared, hempty, hscanned, hone⟩

end Survey

end Passthrough
