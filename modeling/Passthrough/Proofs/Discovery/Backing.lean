import Mathlib.Data.Set.Function
import Passthrough.Discovery.Run
import Passthrough.Proofs.Discovery.Visits

/-!
# Passthrough — every segment list lies in a live mapping

A process publishes the segment lists that its scans made.  Each of them must lie in a pool mapping that
is still there, and what a scan gave up half-way must be given back, although nothing but the end of a
handle does it.

* `Survey.Backs` — a record backs a segment list: the pool that its handle was lent is the list's.
* `Survey.Paired` — records and lists belong together one to one, whatever was on the host before.
* `Survey.Backed` — what scans and the actions of others preserve.
* `Survey.scans_backed` — records and lists belong together one to one, and every other handle is closed.
-/

namespace Passthrough

/-! ## Insertions -/

namespace DeviceList

/-- Some record holds the handle. -/
def Holds (l : DeviceList Channel) (handle : HandleId) : Prop :=
  ∃ r ∈ l.records, ∃ i, r.channel = some (.driver i handle)

variable {Channel : Type} {l : DeviceList Channel}

/-- A record of a function that is not there yet joins the others. -/
theorem mem_insert_iff {r e : DeviceRecord Channel} (new : ∀ e ∈ l.records, e.address ≠ r.address) :
    e ∈ (l.insert r).list.records ↔ e = r ∨ e ∈ l.records := by
  obtain ⟨ds⟩ := l
  show e ∈ (insertInto r ds).list.records ↔ e = r ∨ e ∈ ds
  induction ds with
  | nil => simp [insertInto]
  | cons d ds ih =>
    have ih := ih fun e he => new e (List.mem_cons_of_mem _ he)
    rw [insertInto, if_neg (new d List.mem_cons_self)]
    split
    · exact List.mem_cons
    · show e ∈ d :: (insertInto r ds).list.records ↔ _
      rw [List.mem_cons, ih, List.mem_cons]
      exact or_left_comm

theorem records_insert {r : DeviceRecord Channel} (new : ∀ e ∈ l.records, e.address ≠ r.address) :
    {e | e ∈ (l.insert r).list.records} = Insert.insert r {e | e ∈ l.records} :=
  Set.ext fun _ => mem_insert_iff new

theorem address_ne_of_unbound {a : FunctionAddress} (bound : ∀ e ∈ l.records, e.isBound = true)
    (unbound : l.isBound a = false) : ∀ e ∈ l.records, e.address ≠ a := by
  rintro e he rfl
  have found : (l.get? e.address).isSome := by
    rw [get?, List.find?_isSome]
    exact ⟨e, he, decide_eq_true rfl⟩
  obtain ⟨e', he'⟩ := Option.isSome_iff_exists.1 found
  rw [isBound, he'] at unbound
  have bound' := bound e' (List.mem_of_find?_eq_some he')
  rw [Option.any_some, bound'] at unbound
  cases unbound

end DeviceList

theorem DeviceList.holds_insert_iff {l : DeviceList Channel} {r : DeviceRecord Channel} {i : Nat}
    {handle other : HandleId} (new : ∀ e ∈ l.records, e.address ≠ r.address)
    (channel : r.channel = some (.driver i handle)) :
    (l.insert r).list.Holds other ↔ other = handle ∨ l.Holds other := by
  constructor
  · rintro ⟨e, he, j, held⟩
    rcases (mem_insert_iff new).1 he with rfl | he
    · rw [channel] at held
      cases held
      exact .inl rfl
    · exact .inr ⟨e, he, j, held⟩
  · rintro (rfl | ⟨e, he, j, held⟩)
    · exact ⟨r, (mem_insert_iff new).2 (.inl rfl), i, channel⟩
    · exact ⟨e, (mem_insert_iff new).2 (.inr he), j, held⟩

theorem MemConfig.used_of_stored {c c' : MemConfig} {index : Nat} {l : SegmentList}
    (stored : ∀ j, c'.list? j = if j = index then some l else c.list? j) :
    {j | c'.lists.isUsed j} = Insert.insert index {j | c.lists.isUsed j} := by
  ext j
  simp only [Set.mem_ofPred_eq, Set.mem_insert_iff, isUsed_eq_isSome]
  rw [stored]
  split <;> simp [*]

/-! ## Actions of others -/

/-- Whether the operation is one of the platform's on the life of the instance. -/
def Operation.isLifecycle : Operation → Bool
  | .prepare _ | .release | .remove => true
  | _ => false

theorem Operation.endsLoanOf_eq_false {operation : Operation} {caller : Caller}
    (calm : operation.isLifecycle = false) (other : operation.requester? ≠ some caller) :
    operation.endsLoanOf caller = false := by
  cases operation with
  | prepare | release | remove => cases calm
  | cleanUp closer =>
    apply decide_eq_false
    rintro rfl
    exact other rfl
  | _ => rfl

namespace SurveyAction

def isScan : SurveyAction → Bool
  | .scan .. => true
  | _ => false

def isLifecycle : SurveyAction → Bool
  | .operate _ operation => operation.isLifecycle
  | _ => false

/-- Drivers are attached on fresh memory managers, nobody else uses the first `n` handles that the
process opens, and the interfaces of trees are those of drivers. -/
def Proper (process : ProcessId) (n : Nat) : SurveyAction → Prop
  | .attach _ memory => memory.ledger = ⟨[], [], []⟩
  | .operate _ operation => ∀ k, 0 < k → k ≤ n → operation.requester? ≠ some ⟨process, .nth k⟩
  | .giveUp _ => True
  | .scan tree _ => tree.OnDrivers

end SurveyAction

namespace Survey

/-! ## The invariant -/

/-- The record backs list `j`: through its handle the driver has lent it the pool that the list cuts. -/
structure Backs (s : Survey) (r : DeviceRecord Channel) (j : Nat) : Prop where
  mapped : r.kernelDriver = .mapping
  backed : ∃ k i d l, 0 < k ∧ k ≤ s.host.opened ∧ r.channel = some (.driver i (.nth k))
    ∧ s.host.drivers[i]? = some d ∧ 0 < d.handles ∧ s.config.list? j = some l
    ∧ l.spanBytes = .ok poolSize ∧ d.Lends ⟨s.host.process, .nth k⟩ l.base poolSize

/-- Records and lists in use belong together one to one, and each record backs its list. -/
def Paired (s : Survey) : Prop :=
  ∃ place, Set.BijOn place {r | r ∈ s.devices.records} {j | s.config.lists.isUsed j}
    ∧ ∀ r ∈ s.devices.records, s.Backs r (place r)

/-- What scans preserve, as long as no more than `n` handles are opened and nobody else uses them. -/
structure Backed (n : Nat) (s : Survey) : Prop where
  sound : s.host.Sound
  few : s.host.opened ≤ n
  paired : s.Paired
  distinct : Set.InjOn DeviceRecord.channel {r | r ∈ s.devices.records}
  /-- What is lent to a handle of the process is lent to a record. -/
  lent : ∀ i d k, s.host.drivers[i]? = some d → 0 < k → k ≤ n →
    d.borrower? = some ⟨s.host.process, .nth k⟩ →
    ∃ r ∈ s.devices.records, r.channel = some (.driver i (.nth k))
  unclosed : ∀ k, 0 < k → k ≤ n → (s.host.opened < k ∨ s.devices.Holds (.nth k)) →
    s.host.closings (.nth k) = 0
  closed : ∀ k, 0 < k → k ≤ s.host.opened → ¬ s.devices.Holds (.nth k) →
    s.host.closings (.nth k) = 1

/-- The first `n` handles of the process. -/
def Own (s : Survey) (n : Nat) (caller : Caller) : Prop :=
  ∃ k, 0 < k ∧ k ≤ n ∧ caller = ⟨s.host.process, .nth k⟩

variable {s s' : Survey} {n : Nat} {callers : Caller → Prop}

theorem Backs.isBound {r : DeviceRecord Channel} {j : Nat} (backs : s.Backs r j) :
    r.isBound = true := by
  obtain ⟨-, k, i, d, l, -, -, channel, -⟩ := backs
  rw [DeviceRecord.isBound, channel]
  rfl

/-- A record backs its list for as long as its handle is spared and the list stays. -/
theorem Backs.later {r : DeviceRecord Channel} {j : Nat} (backs : s.Backs r j)
    (spares : s.host.Spares callers s'.host) (opened : s.host.opened ≤ s'.host.opened)
    (list : s'.config.list? j = s.config.list? j)
    (asked : ∀ k, 0 < k → k ≤ s.host.opened → callers ⟨s.host.process, .nth k⟩) : s'.Backs r j := by
  obtain ⟨mapped, k, i, d, l, positive, room, channel, there, handles, hlist, span, lends⟩ := backs
  obtain ⟨d', there', spares', handles'⟩ := spares.kept i d there
  have lends' := spares'.lends _ _ _ (asked k positive room) lends
  rw [← spares.process] at lends'
  exact ⟨mapped, k, i, d', l, positive, Nat.le_trans room opened, channel, there',
    Nat.lt_of_lt_of_le handles handles', list.trans hlist, span, lends'⟩

/-- Records that were there keep what backs their lists when a handle is opened. -/
theorem Backs.opened {r : DeviceRecord Channel} {j : Nat} (backs : s.Backs r j)
    (room : s.host.opened + 1 < UInt64.size)
    (spared : s.host.Spares (· ≠ s.host.nextCaller) s'.host)
    (opened : s'.host.opened = s.host.opened + 1)
    (list : s'.config.list? j = s.config.list? j) : s'.Backs r j := by
  refine backs.later spared (by omega) list ?_
  intro k _ before
  exact s.host.ne_nextCaller room (Nat.lt_succ_self _) (by omega) (by omega)

/-! ## Records and lists -/

namespace Paired

theorem of_empty (host : Host) : Paired ⟨host, .empty, .empty⟩ := by
  refine ⟨fun _ => 0, ?_, by simp [DeviceList.empty]⟩
  have records : {r | r ∈ (DeviceList.empty : DeviceList Channel).records} = ∅ := by
    simp [DeviceList.empty]
  have used : {j | MemConfig.empty.lists.isUsed j} = ∅ := by
    simp [MemConfig.isUsed_eq_isSome]
  rw [records, used]
  exact Set.bijOn_empty _

theorem bound (h : s.Paired) : ∀ r ∈ s.devices.records, r.isBound = true := by
  obtain ⟨place, -, backs⟩ := h
  exact fun r hr => (backs r hr).isBound

/-- What changes neither records nor lists, nor takes a pool away, keeps them paired. -/
theorem later (h : s.Paired) {host : Host}
    (backs : ∀ r j, s.Backs r j → ({ s with host } : Survey).Backs r j) :
    ({ s with host } : Survey).Paired := by
  obtain ⟨place, paired, before⟩ := h
  exact ⟨place, paired, fun r hr => backs r _ (before r hr)⟩

theorem spared (h : s.Paired) {host : Host} (spares : s.host.Spares callers host)
    (opened : s.host.opened ≤ host.opened)
    (asked : ∀ k, 0 < k → k ≤ s.host.opened → callers ⟨s.host.process, .nth k⟩) :
    ({ s with host } : Survey).Paired :=
  h.later fun _ _ backs => backs.later spares opened rfl asked

theorem quiet (h : s.Paired) (sound : s.host.Sound) {host : Host} (quiet : s.host.Quiet host) :
    ({ s with host } : Survey).Paired := by
  have idle : s.host.Idle (fun _ => True) host := quiet.idle sound
  exact h.spared idle.spares (Nat.le_of_eq idle.opened.symm) fun _ _ _ => trivial

/-- An attempt that fails leaves records and lists with what backs them. -/
theorem skipped (h : s.Paired) (sound : s.host.Sound) {address : FunctionAddress} {skip : Skip}
    (attempt : s.Attempt address (.error skip) s') (room : s'.host.opened < UInt64.size) :
    s'.Paired := by
  obtain ⟨_, _, quiet⟩ | ⟨_, host, i, d, d', moves, spares, handles, -, opened, -⟩ := attempt
  · exact h.quiet sound quiet
  have room : host.opened < UInt64.size := room
  have spared := moves.spares sound spares (Nat.le_of_eq handles.symm)
  exact h.later fun r j backs => backs.opened (by omega) spared opened rfl

/-- A new record goes with a new list, the others with theirs. -/
theorem inserted (h : s.Paired) {host : Host} {config : MemConfig}
    {r : DeviceRecord Channel} {index : Nat} {l : SegmentList}
    (new : ∀ e ∈ s.devices.records, e.address ≠ r.address) (free : s.config.list? index = none)
    (stored : ∀ j, config.list? j = if j = index then some l else s.config.list? j)
    (backed : Backs ⟨host, (s.devices.insert r).list, config⟩ r index)
    (older : ∀ e j, s.Backs e j → config.list? j = s.config.list? j →
      Backs ⟨host, (s.devices.insert r).list, config⟩ e j) :
    Paired ⟨host, (s.devices.insert r).list, config⟩ := by
  obtain ⟨place, paired, backs⟩ := h
  have same : Set.EqOn place (Function.update place r index) {e | e ∈ s.devices.records} := by
    intro e he
    rw [Function.update_of_ne]
    rintro rfl
    exact new e he rfl
  have unused : Function.update place r index r ∉ {j | s.config.lists.isUsed j} := by
    rw [Function.update_self, Set.mem_ofPred_eq, MemConfig.isUsed_eq_isSome, free]
    decide
  have paired' := (paired.congr same).insert unused
  rw [Function.update_self, ← DeviceList.records_insert new,
    ← MemConfig.used_of_stored stored] at paired'
  refine ⟨_, paired', fun e he => ?_⟩
  rcases (DeviceList.mem_insert_iff new).1 he with rfl | he
  · rw [Function.update_self]
    exact backed
  · rw [← same he]
    refine older e _ (backs e he) ?_
    -- The list of an older record was in use, so it has another number than the new one.
    rw [stored, if_neg]
    intro same
    have taken : s.config.lists.isUsed (place e) = true := paired.mapsTo he
    rw [MemConfig.isUsed_eq_isSome, same, free] at taken
    cases taken

/-- An attempt that succeeds brings in a record and a list, and the record backs the list. -/
theorem found (h : s.Paired) (sound : s.host.Sound) {r : DeviceRecord Channel}
    (unbound : s.devices.isBound r.address = false) (attempt : s.Attempt r.address (.ok r) s')
    (room : s'.host.opened < UInt64.size) :
    ({ s' with devices := (s.devices.insert r).list } : Survey).Paired := by
  obtain - | - | ⟨_, host, config, i, d, d', index, l, moves, spares, handles, lends, opened,
    -, -, mapped, channel, free, span, stored, -⟩ := attempt
  have room : host.opened < UInt64.size := room
  have spared := moves.spares sound spares (by omega)
  have new := DeviceList.address_ne_of_unbound h.bound unbound
  refine h.inserted new free stored ⟨mapped, s.host.opened + 1, i, d', l, Nat.succ_pos _,
    Nat.le_of_eq opened.symm, channel, moves.getElem?_self, by omega, ?_, span, ?_⟩ ?_
  · show config.list? index = some l
    rw [stored, if_pos rfl]
  · show d'.Lends ⟨host.process, _⟩ _ _
    rw [moves.process]
    exact lends
  · intro e j backs list
    exact backs.opened (by omega) spared opened list

theorem visited {counts : Bool} (h : s.Paired) (sound : s.host.Sound)
    (visited : s.Visited counts s') (room : s'.host.opened < UInt64.size) : s'.Paired := by
  have onward := visited.onward sound
  cases visited with
  | passed _ host quiet => exact h.quiet sound quiet
  | skipped messages attempt =>
    have after := attempt.onward sound
    exact (h.skipped sound attempt room).quiet after.sound (Host.quiet_tell _ messages)
  | found messages unbound attempt =>
    have after := attempt.onward sound
    exact (h.found sound unbound attempt room).quiet after.sound (Host.quiet_tell _ messages)

/-- A walk from nothing, or from what earlier walks found, ends with one list for each record. -/
theorem walk {found : Nat} (h : s.Paired) (sound : s.host.Sound) (walk : s.Walk found s')
    (room : s'.host.opened < UInt64.size) : s'.Paired := by
  induction walk with
  | rest => exact h
  | step visited onward ih =>
    have after := (visited.onward sound).sound
    have le := (onward.onward after).opened
    exact ih (h.visited sound visited (Nat.lt_of_le_of_lt le room)) after room

end Paired

/-! ## What scans preserve -/

theorem backed_start (process : ProcessId) (n : Nat) : (start process).Backed n where
  sound := by simp [start, Host.start, Host.Sound]
  few := Nat.zero_le n
  paired := .of_empty _
  distinct := by simp [start, DeviceList.empty]
  lent := by simp [start, Host.start]
  unclosed := by simp [start, Host.start, Host.closings]
  closed k positive room := by
    have room : k ≤ 0 := room
    omega

namespace Backed

theorem le_of_channel (h : s.Backed n) (room : n < UInt64.size) {r : DeviceRecord Channel}
    (hr : r ∈ s.devices.records) {i k : Nat} (few : k ≤ n)
    (channel : r.channel = some (.driver i (.nth k))) : k ≤ s.host.opened := by
  obtain ⟨place, -, backs⟩ := h.paired
  obtain ⟨-, k', i', d, l, -, opened, channel', -⟩ := backs r hr
  have le := h.few
  rw [channel] at channel'
  simp only [Option.some.injEq, Channel.driver.injEq] at channel'
  have same := HandleId.nth_inj (by omega) (by omega) channel'.2
  omega

/-- Whatever leaves the own handles alone preserves the invariant. -/
theorem idle (h : s.Backed n) {host : Host} (idle : s.host.Idle (s.Own n) host) :
    ({ s with host } : Survey).Backed n where
  sound := idle.spares.sound
  few := by
    show host.opened ≤ n
    rw [idle.opened]
    exact h.few
  paired := by
    refine h.paired.spared idle.spares (Nat.le_of_eq idle.opened.symm) ?_
    intro k positive opened
    exact ⟨k, positive, Nat.le_trans opened h.few, rfl⟩
  distinct := h.distinct
  lent := by
    -- The own handles borrow nothing in the meantime, so what is lent to one was lent to it before.
    intro i d k there positive few borrowed
    rw [idle.spares.process] at borrowed
    obtain ⟨d', there', borrowed'⟩ :=
      idle.spares.borrowed i d _ there ⟨k, positive, few, rfl⟩ borrowed
    exact h.lent i d' k there' positive few borrowed'
  unclosed := by
    intro k positive few unclosed
    show host.closings _ = 0
    rw [idle.closings]
    refine h.unclosed k positive few (unclosed.imp_left fun later => ?_)
    rw [← idle.opened]
    exact later
  closed := by
    intro k positive opened unheld
    show host.closings _ = 1
    rw [idle.closings]
    refine h.closed k positive ?_ unheld
    rw [← idle.opened]
    exact opened

/-! ### A handle is opened -/

theorem le_of_holds (h : s.Backed n) (room : n < UInt64.size) {k : Nat} (few : k ≤ n)
    (holds : s.devices.Holds (.nth k)) : k ≤ s.host.opened := by
  obtain ⟨r, hr, i, channel⟩ := holds
  exact h.le_of_channel room hr few channel

/-- What is lent to the process once a handle is opened is lent to a record, or by the driver that the
handle was opened on. -/
theorem lent_of_moves (h : s.Backed n) (room : n < UInt64.size) (next : s.host.opened < n)
    {host : Host} {i j k : Nat} {d d' e : HostedDriver} (moves : s.host.Moves i d d' host)
    (spares : d.Spares (· ≠ s.host.nextCaller) d') (there : host.drivers[j]? = some e)
    (positive : 0 < k) (few : k ≤ n) (borrowed : e.borrower? = some ⟨host.process, .nth k⟩) :
    (k = s.host.opened + 1 ∧ j = i ∧ e = d')
      ∨ ∃ r ∈ s.devices.records, r.channel = some (.driver j (.nth k)) := by
  rw [moves.process] at borrowed
  by_cases same : j = i
  · subst same
    cases moves.getElem?_self.symm.trans there
    by_cases latest : k = s.host.opened + 1
    · exact .inl ⟨latest, rfl, rfl⟩
    · -- The driver has lent nothing to an older handle that it had not lent before.
      have before := spares.borrowed _ (s.host.ne_nextCaller room next few latest) borrowed
      exact .inr (h.lent j d k moves.there positive few before)
  · rw [moves.getElem?_ne same] at there
    exact .inr (h.lent j e k there positive few borrowed)

theorem tell (h : s.Backed n) (messages : List Message) :
    ({ s with host := s.host.tell messages } : Survey).Backed n :=
  h.idle ((s.host.quiet_tell messages).idle h.sound)

/-- An attempt that fails leaves no trace but a handle that is closed, if one was opened. -/
theorem skipped (h : s.Backed n) (room : n < UInt64.size) {address : FunctionAddress} {skip : Skip}
    (attempt : s.Attempt address (.error skip) s') (few : s'.host.opened ≤ n) : s'.Backed n := by
  have paired := h.paired.skipped h.sound attempt (Nat.lt_of_le_of_lt few room)
  obtain ⟨_, _, quiet⟩ | ⟨_, host, i, d, d', moves, spares, handles, returned, opened, closings⟩ :=
    attempt
  · exact h.idle (quiet.idle h.sound)
  have few : host.opened ≤ n := few
  have next : s.host.opened < n := by omega
  have spared := moves.spares h.sound spares (Nat.le_of_eq handles.symm)
  -- Only the closings of the new handle are counted up.
  have older : ∀ k, k ≤ n → k ≠ s.host.opened + 1 →
      host.closings (.nth k) = s.host.closings (.nth k) := by
    intro k few other
    have ne : s.host.nextCaller.handle ≠ .nth k := fun same =>
      s.host.ne_nextCaller room next few other (by rw [← same]; rfl)
    rw [closings, if_neg ne, Nat.add_zero]
  refine ⟨spared.sound, few, paired, h.distinct, ?_, ?_, ?_⟩
  · intro j e k there positive few' borrowed
    rcases h.lent_of_moves room next moves spares there positive few' borrowed with
      ⟨rfl, -, rfl⟩ | held
    · -- The new handle has given everything back.
      rw [show host.process = s.host.process from moves.process] at borrowed
      exact absurd borrowed returned
    · exact held
  · intro k positive few' unclosed
    have other : k ≠ s.host.opened + 1 ∧ (s.host.opened < k ∨ s.devices.Holds (.nth k)) := by
      rcases unclosed with later | holds
      · have later : host.opened < k := later
        exact ⟨by omega, .inl (by omega)⟩
      · have before := h.le_of_holds room few' holds
        exact ⟨by omega, .inr holds⟩
    show host.closings _ = 0
    rw [older k few' other.1]
    exact h.unclosed k positive few' other.2
  · intro k positive le unheld
    have le : k ≤ host.opened := le
    show host.closings _ = 1
    by_cases latest : k = s.host.opened + 1
    · subst latest
      have never := h.unclosed _ positive next (.inl (Nat.lt_succ_self _))
      simp [closings, never, Host.nextCaller]
    · rw [older k (by omega) latest]
      exact h.closed k positive (by omega) unheld

/-- An attempt that succeeds leaves one handle more open, and its record holds it. -/
theorem found (h : s.Backed n) (room : n < UInt64.size) {r : DeviceRecord Channel}
    (unbound : s.devices.isBound r.address = false) (attempt : s.Attempt r.address (.ok r) s')
    (few : s'.host.opened ≤ n) :
    ({ s' with devices := (s.devices.insert r).list } : Survey).Backed n := by
  have paired := h.paired.found h.sound unbound attempt (Nat.lt_of_le_of_lt few room)
  obtain - | - | ⟨_, host, config, i, d, d', index, l, moves, spares, handles, -, opened, closings,
    -, -, channel, -, -, -, -⟩ := attempt
  have few : host.opened ≤ n := few
  have next : s.host.opened < n := by omega
  have spared := moves.spares h.sound spares (by omega)
  have new := DeviceList.address_ne_of_unbound h.paired.bound unbound
  refine ⟨spared.sound, few, paired, ?_, ?_, ?_, ?_⟩
  · -- Older records hold handles that were opened before, so no two share one.
    have missing : r ∉ {e | e ∈ s.devices.records} := fun hr => new r hr rfl
    show Set.InjOn _ {e | e ∈ (s.devices.insert r).list.records}
    rw [DeviceList.records_insert new, Set.injOn_insert missing]
    refine ⟨h.distinct, ?_⟩
    rintro ⟨e, he, same⟩
    have before := h.le_of_channel room he next (same.trans channel)
    omega
  · intro j e k there positive few' borrowed
    rcases h.lent_of_moves room next moves spares there positive few' borrowed with
      ⟨rfl, rfl, -⟩ | ⟨older, holder, held⟩
    · exact ⟨r, (DeviceList.mem_insert_iff new).2 (.inl rfl), channel⟩
    · exact ⟨older, (DeviceList.mem_insert_iff new).2 (.inr holder), held⟩
  · intro k positive few' unclosed
    show host.closings _ = 0
    rw [closings]
    refine h.unclosed k positive few' ?_
    rcases unclosed with later | holds
    · have later : host.opened < k := later
      exact .inl (by omega)
    · rcases (DeviceList.holds_insert_iff new channel).1 holds with same | holds
      · have latest : k = s.host.opened + 1 := HandleId.nth_inj (by omega) (by omega) same
        exact .inl (by omega)
      · exact .inr holds
  · intro k positive le unheld
    have le : k ≤ host.opened := le
    have unheld := not_or.1 fun holds => unheld ((DeviceList.holds_insert_iff new channel).2 holds)
    have older : k ≠ s.host.opened + 1 := by
      rintro rfl
      exact unheld.1 rfl
    show host.closings _ = 1
    rw [closings]
    exact h.closed k positive (by omega) unheld.2

/-! ### Scans and actions -/

theorem visited {counts : Bool} (h : s.Backed n) (room : n < UInt64.size)
    (visited : s.Visited counts s') (few : s'.host.opened ≤ n) : s'.Backed n := by
  cases visited with
  | passed _ host quiet => exact h.idle (quiet.idle h.sound)
  | skipped messages attempt => exact (h.skipped room attempt few).tell messages
  | found messages unbound attempt => exact (h.found room unbound attempt few).tell messages

theorem walk {found : Nat} (h : s.Backed n) (room : n < UInt64.size) (walk : s.Walk found s')
    (few : s'.host.opened ≤ n) : s'.Backed n := by
  induction walk with
  | rest => exact h
  | step visited onward ih =>
    have sound := (visited.onward h.sound).sound
    have le := (onward.onward sound).opened
    exact ih (h.visited room visited (Nat.le_trans le few)) few

end Backed

theorem onward_of_step {action : SurveyAction} {outcome : SurveyOutcome} (sound : s.host.Sound)
    (proper : action.Proper s.host.process n)
    (stepped : s.step action = .ok (outcome, s')) :
    s.host.Onward s'.host ∧ (action.isScan = false → s'.devices = s.devices) := by
  cases action with
  | attach bus memory =>
    obtain ⟨⟨result, host⟩, attached, stepped⟩ := Checked.bind_eq_ok_iff.1 stepped
    cases stepped
    -- For the books alone it does not matter who is spared, so nobody need be.
    have idle : s.host.Idle (fun _ => False) host := Host.idle_of_attach sound proper attached
    exact ⟨idle.onward, fun _ => rfl⟩
  | operate i operation =>
    obtain ⟨⟨answer, host⟩, operated, stepped⟩ := Checked.bind_eq_ok_iff.1 stepped
    cases stepped
    have idle : s.host.Idle (fun _ => False) host :=
      Host.idle_of_operate sound operated (fun _ => False.elim) fun _ _ _ => False.elim
    exact ⟨idle.onward, fun _ => rfl⟩
  | giveUp i =>
    obtain ⟨⟨answer, host⟩, given, stepped⟩ := Checked.bind_eq_ok_iff.1 stepped
    cases stepped
    have idle : s.host.Idle (fun _ => False) host :=
      Host.idle_of_giveUp sound given fun _ _ _ => False.elim
    exact ⟨idle.onward, fun _ => rfl⟩
  | scan tree classFilter =>
    obtain ⟨⟨result, s₁⟩, scanned, stepped⟩ := Checked.bind_eq_ok_iff.1 stepped
    cases stepped
    obtain ⟨found, walk, -⟩ := walk_of_scan sound proper scanned
    exact ⟨walk.onward sound, by simp [SurveyAction.isScan]⟩

theorem onward_of_run {actions : List SurveyAction} (sound : s.host.Sound)
    (proper : ∀ action ∈ actions, action.Proper s.host.process n)
    (ran : s.run actions = .ok s') :
    s.host.Onward s'.host
      ∧ ((∀ action ∈ actions, action.isScan = false) → s'.devices = s.devices) := by
  induction actions generalizing s with
  | nil =>
    cases ran
    exact ⟨⟨sound, rfl, Nat.le_refl _⟩, fun _ => rfl⟩
  | cons action actions ih =>
    obtain ⟨⟨outcome, s₁⟩, stepped, ran⟩ := Checked.bind_eq_ok_iff.1 ran
    obtain ⟨first, same⟩ := onward_of_step sound (proper action List.mem_cons_self) stepped
    obtain ⟨rest, same'⟩ := ih first.sound (fun action' later => by
      rw [first.process]
      exact proper action' (List.mem_cons_of_mem _ later)) ran
    refine ⟨first.trans rest, fun unscanned => ?_⟩
    rw [same' fun action' later => unscanned action' (List.mem_cons_of_mem _ later)]
    exact same (unscanned action List.mem_cons_self)

namespace Backed

theorem handles_pos (h : s.Backed n) {r : DeviceRecord Channel} (hr : r ∈ s.devices.records)
    {i : Nat} {handle : HandleId} (channel : r.channel = some (.driver i handle)) {d : HostedDriver}
    (there : s.host.drivers[i]? = some d) : 0 < d.handles := by
  obtain ⟨place, -, backs⟩ := h.paired
  obtain ⟨-, k, i', d', l, -, -, channel', there', handles, -⟩ := backs r hr
  cases channel.symm.trans channel'
  cases there.symm.trans there'
  exact handles

/-- **One action preserves the invariant**, and a preparation, a release or a removal does as long as
there are no records. -/
theorem step {action : SurveyAction} {outcome : SurveyOutcome} (h : s.Backed n)
    (room : n < UInt64.size) (proper : action.Proper s.host.process n)
    (calm : action.isLifecycle = false ∨ s.devices.records = [])
    (stepped : s.step action = .ok (outcome, s')) (few : s'.host.opened ≤ n) : s'.Backed n := by
  cases action with
  | attach bus memory =>
    obtain ⟨⟨result, host⟩, attached, stepped⟩ := Checked.bind_eq_ok_iff.1 stepped
    cases stepped
    exact h.idle (Host.idle_of_attach h.sound proper attached)
  | operate i operation =>
    obtain ⟨⟨answer, host⟩, operated, stepped⟩ := Checked.bind_eq_ok_iff.1 stepped
    cases stepped
    refine h.idle (Host.idle_of_operate h.sound operated ?_ ?_)
    · rintro _ ⟨k, positive, few, rfl⟩
      exact proper k positive few
    · rintro d _ there ⟨k, positive, few, rfl⟩ borrowed
      rcases calm with calm | nothing
      · exact Operation.endsLoanOf_eq_false calm (proper k positive few)
      · -- Without a record nothing is lent to a handle of the process.
        obtain ⟨r, hr, -⟩ := h.lent i d k there positive few borrowed
        rw [nothing] at hr
        cases hr
  | giveUp i =>
    obtain ⟨⟨answer, host⟩, given, stepped⟩ := Checked.bind_eq_ok_iff.1 stepped
    cases stepped
    refine h.idle (Host.idle_of_giveUp h.sound given ?_)
    -- What an own handle has borrowed a record relies on, and its handle keeps the instance alive.
    rintro d _ there ⟨k, positive, few, rfl⟩ borrowed
    obtain ⟨r, hr, channel⟩ := h.lent i d k there positive few borrowed
    exact h.handles_pos hr channel there
  | scan tree classFilter =>
    obtain ⟨⟨result, s₁⟩, scanned, stepped⟩ := Checked.bind_eq_ok_iff.1 stepped
    cases stepped
    obtain ⟨found, walk, -⟩ := walk_of_scan h.sound proper scanned
    exact h.walk room walk few

/-- A run preserves the invariant, if the platform does nothing to the life of an instance or the
process scans nothing. -/
theorem run {actions : List SurveyAction} (h : s.Backed n) (room : n < UInt64.size)
    (proper : ∀ action ∈ actions, action.Proper s.host.process n)
    (calm : (∀ action ∈ actions, action.isLifecycle = false)
      ∨ s.devices.records = [] ∧ ∀ action ∈ actions, action.isScan = false)
    (ran : s.run actions = .ok s') (few : s'.host.opened ≤ n) : s'.Backed n := by
  induction actions generalizing s with
  | nil =>
    cases ran
    exact h
  | cons action actions ih =>
    obtain ⟨⟨outcome, s₁⟩, stepped, ran⟩ := Checked.bind_eq_ok_iff.1 ran
    have first := proper action List.mem_cons_self
    obtain ⟨onward, same⟩ := onward_of_step h.sound first stepped
    have proper' : ∀ action ∈ actions, action.Proper s₁.host.process n := by
      intro action' later
      rw [onward.process]
      exact proper action' (List.mem_cons_of_mem _ later)
    -- The bound on the handles opened holds at the end, so it holds after the first action.
    have le := (onward_of_run onward.sound proper' ran).1.opened
    have calm₁ : action.isLifecycle = false ∨ s.devices.records = [] :=
      calm.imp (fun calm => calm action List.mem_cons_self) And.left
    have h₁ := h.step room first calm₁ stepped (Nat.le_trans le few)
    refine ih h₁ proper' ?_ ran
    rcases calm with calm | ⟨nothing, unscanned⟩
    · exact .inl fun action' later => calm action' (List.mem_cons_of_mem _ later)
    · refine .inr ⟨?_, fun action' later => unscanned action' (List.mem_cons_of_mem _ later)⟩
      rw [same (unscanned action List.mem_cons_self)]
      exact nothing

end Backed

/-- **Every segment list lies in a live mapping.**  Let a process scan any trees of drivers, in any order,
on a host whose drivers were attached and prepared by anybody before, and let others use the drivers
meanwhile, attach more of them and give some up.  As long as nobody prepares, releases or removes an
instance after the first scan, and nobody else uses the handles that the process opens:

* Every record is bound, by the driver that maps.
* Records and segment lists in use belong together one to one, and no two records share a handle.  The
  list of a record starts where the pool of its driver is mapped for its handle and is as long, and that
  mapping is live.
* Every handle that was opened is that of a record and was never closed, or was closed once and has
  borrowed nothing; and whatever is mapped from a driver is mapped for its borrower.
* A scan that fails leaves records and lists as they are. -/
theorem scans_backed {process : ProcessId} {before later : List SurveyAction} {s₀ s : Survey}
    (prepared : (start process).run before = .ok s₀) (scanned : s₀.run later = .ok s)
    (unscanned : ∀ action ∈ before, action.isScan = false)
    (calm : ∀ action ∈ later, action.isLifecycle = false)
    (proper : ∀ action ∈ before ++ later, action.Proper process s.host.opened)
    (room : s.host.opened < UInt64.size) :
    (∀ r ∈ s.devices.records, r.isBound = true ∧ r.kernelDriver = .mapping)
      ∧ (∃ place, Set.BijOn place {r | r ∈ s.devices.records} {j | s.config.lists.isUsed j = true}
        ∧ ∀ r ∈ s.devices.records, ∃ k i d l size, 0 < k ∧ k ≤ s.host.opened
            ∧ r.channel = some (.driver i (.nth k)) ∧ s.host.drivers[i]? = some d
            ∧ s.config.list? (place r) = some l ∧ l.spanBytes = .ok size
            ∧ d.Lends ⟨process, .nth k⟩ l.base size)
      ∧ Set.InjOn DeviceRecord.channel {r | r ∈ s.devices.records}
      ∧ (∀ k, 0 < k → k ≤ s.host.opened →
          s.devices.Holds (.nth k) ∧ s.host.closings (.nth k) = 0
            ∨ ¬ s.devices.Holds (.nth k) ∧ s.host.closings (.nth k) = 1
              ∧ ∀ d ∈ s.host.drivers, d.borrower? ≠ some ⟨process, .nth k⟩)
      ∧ (∀ d ∈ s.host.drivers, ∀ m ∈ d.platform.memory.processMappings,
          ∃ caller, d.borrower? = some caller ∧ m.process = caller.process)
      ∧ ∀ tree classFilter e s', tree.OnDrivers →
          s.scan tree classFilter = .ok (.error e, s') →
          s'.devices = s.devices ∧ s'.config = s.config := by
  have proper₀ : ∀ action ∈ before, action.Proper process s.host.opened :=
    fun action h => proper action (List.mem_append_left _ h)
  have started := backed_start process s.host.opened
  obtain ⟨onward₀, same⟩ := onward_of_run started.sound proper₀ prepared
  have proper₁ : ∀ action ∈ later, action.Proper s₀.host.process s.host.opened := by
    intro action h
    rw [onward₀.process]
    exact proper action (List.mem_append_right _ h)
  have onward := (onward_of_run onward₀.sound proper₁ scanned).1
  have before_scans := started.run room proper₀ (.inr ⟨rfl, unscanned⟩) prepared onward.opened
  have backed := before_scans.run room proper₁ (.inl calm) scanned (Nat.le_refl _)
  -- The invariant speaks of the process of the host, the statement of the one that was started.
  have named : s.host.process = process := onward.process.trans onward₀.process
  obtain ⟨place, paired, backs⟩ := backed.paired
  refine ⟨fun r hr => ⟨(backs r hr).isBound, (backs r hr).mapped⟩, ⟨place, paired, ?_⟩,
    backed.distinct, ?_, fun d hd m => (backed.sound d hd).process_of_mem, ?_⟩
  · intro r hr
    obtain ⟨-, k, i, d, l, positive, opened, channel, there, -, list, span, lends⟩ := backs r hr
    rw [named] at lends
    exact ⟨k, i, d, l, poolSize, positive, opened, channel, there, list, span, lends⟩
  · intro k positive opened
    by_cases holds : s.devices.Holds (.nth k)
    · exact .inl ⟨holds, backed.unclosed k positive opened (.inr holds)⟩
    · refine .inr ⟨holds, backed.closed k positive opened holds, ?_⟩
      intro d hd borrowed
      obtain ⟨i, there⟩ := List.mem_iff_getElem?.1 hd
      rw [← named] at borrowed
      obtain ⟨r, hr, channel⟩ := backed.lent i d k there positive opened borrowed
      exact holds ⟨r, hr, i, channel⟩
  · intro tree classFilter e s' driven failed
    obtain ⟨found, walk, nothing⟩ := walk_of_scan backed.sound driven failed
    rw [nothing e rfl] at walk
    exact walk.unchanged

/-- A node that says it is the card at `location`. -/
def cardNode (id location : String) : DeviceNode where
  id := id
  location := some location
  hardwareId := some "PCI\\VEN_8086&DEV_1533&SUBSYS_00008086&REV_03"

def mistakenNode : DeviceNode := cardNode "A" "PCI bus 4, device 0, function 0"

def rightNode : DeviceNode := cardNode "B" "PCI bus 3, device 0, function 0"

/-- Two nodes for the same driver, the first of which is mistaken about the place. -/
def twoNodes : DeviceTree := .leadingTo (some (.driver 0)) [mistakenNode, rightNode]

def preparedCard : List SurveyAction :=
  [.attach card .fresh, .operate 0 (.prepare card.resources)]

def twoScans : List SurveyAction := [.scan twoNodes none, .scan twoNodes none]

theorem onDrivers_twoNodes : twoNodes.OnDrivers := by
  intro node interface hinterface
  exact ⟨0, (Option.some.inj hinterface).symm⟩

theorem proper_twoScans (n : Nat) :
    ∀ action ∈ preparedCard ++ twoScans, action.Proper ⟨7⟩ n := by
  intro action haction
  simp only [preparedCard, twoScans, List.cons_append, List.nil_append, List.mem_cons,
    List.not_mem_nil, or_false] at haction
  rcases haction with rfl | rfl | rfl | rfl
  · exact rfl
  · exact fun k _ _ => by simp [Operation.requester?]
  · exact onDrivers_twoNodes
  · exact onDrivers_twoNodes

/-- A node whose function is mapped for the first time and whose pool is stored counts, and leads to a
record. -/
theorem visit_of_stored {tree : DeviceTree} {node : DeviceNode} {address : FunctionAddress}
    {id : HardwareId} {channel : Channel} {host host' : Host} {info : HardwareInfo} {index : Nat}
    {config : MemConfig} {log : List Message} (identified : node.identify = .ok (address, id))
    (unbound : s.devices.isBound address = false)
    (opens : (tree.interface? node).bind (s.host.note (.interfaceSought node.id)).openInterface
      = some (channel, host))
    (maps : host.mapHardware channel address.toRequest id.device = .ok (.ok info, host'))
    (stores : s.config.storePool info.scratch info.numaNode.toUInt32.toInt32
      = .ok ⟨.ok index, config, log⟩) :
    let r := (DeviceRecord.new address id).bind info channel
    s.visit tree node = .ok (true, (insert ⟨(host'.tell log).tell [foundMessage node r], s.devices,
      config⟩ r).2) := by
  unfold visit openNode acquire
  rw [identified]
  dsimp only
  rw [unbound, opens]
  dsimp only
  rw [maps]
  show (if false = true then _ else (s.config.storePool _ _ >>= _) >>= _) = _
  rw [stores]
  rfl

/-- The survey after a node was acquired whose pool is stored as a whole.  This can be evaluated, while a
pool of many pages is too long to be cut page by page. -/
def acquiredWhole (s : Survey) (tree : DeviceTree) (node : DeviceNode) (address : FunctionAddress)
    (id : HardwareId) : Option Survey :=
  ((tree.interface? node).bind (s.host.note (.interfaceSought node.id)).openInterface).bind
    fun (channel, host) =>
  (host.mapHardware channel address.toRequest id.device).toOption.bind fun (answer, host) =>
  answer.toOption.bind fun info =>
  (s.config.storeWhole info.scratch info.numaNode.toUInt32.toInt32).toOption.bind fun stored =>
  stored.result.toOption.map fun _ =>
    let r := (DeviceRecord.new address id).bind info channel
    (insert ⟨(host.tell stored.log).tell [foundMessage node r], s.devices, stored.config⟩ r).2

theorem visit_of_acquiredWhole {tree : DeviceTree} {node : DeviceNode} {address : FunctionAddress}
    {id : HardwareId} {t : Survey} (identified : node.identify = .ok (address, id))
    (unbound : s.devices.isBound address = false)
    (acquired : s.acquiredWhole tree node address id = some t) :
    s.visit tree node = .ok (true, t) := by
  obtain ⟨⟨channel, host⟩, opens, acquired⟩ := Option.bind_eq_some_iff.1 acquired
  obtain ⟨⟨answer, host'⟩, maps, acquired⟩ := Option.bind_eq_some_iff.1 acquired
  obtain ⟨info, answers, acquired⟩ := Option.bind_eq_some_iff.1 acquired
  obtain ⟨⟨result, config, log⟩, whole, acquired⟩ := Option.bind_eq_some_iff.1 acquired
  obtain ⟨index, stores, rfl⟩ := Option.map_eq_some_iff.1 acquired
  obtain rfl := eq_ok_of_toOption answers
  obtain rfl := eq_ok_of_toOption stores
  exact visit_of_stored identified unbound opens (eq_ok_of_toOption maps)
    ((MemConfig.storePool_eq_storeWhole ..).trans (eq_ok_of_toOption whole))

def cardAddress : FunctionAddress := ⟨0, 3, 0, 0⟩

def cardId : HardwareId := ⟨0x8086, 0x1533, 0x8086, 0⟩

theorem identify_rightNode : rightNode.identify = .ok (cardAddress, cardId) :=
  eq_ok_of_toOption (by decide +kernel)

theorem exists_run_twoScans : ∃ s₀ s, (start ⟨7⟩).run preparedCard = .ok s₀
    ∧ s₀.run twoScans = .ok s ∧ s.devices.len = 1 ∧ s.host.opened = 3 := by
  have computed : (((start ⟨7⟩).run preparedCard).toOption.bind fun s₀ =>
      (visit { s₀ with host := s₀.host.note (.nodesListed none) } twoNodes mistakenNode).toOption.bind
        fun first =>
      (first.2.acquiredWhole twoNodes rightNode cardAddress cardId).bind fun s₁ =>
      (run (s₁.say .info "PCI scan found 1 devices") [.scan twoNodes none]).toOption.map fun s =>
      decide (first.1 = false ∧ first.2.devices.isBound cardAddress = false ∧ s.devices.len = 1
        ∧ s.host.opened = 3)) = some true := by
    decide +kernel
  obtain ⟨s₀, prepared, computed⟩ := Option.bind_eq_some_iff.1 computed
  obtain ⟨⟨counts, first⟩, visited, computed⟩ := Option.bind_eq_some_iff.1 computed
  obtain ⟨s₁, acquired, computed⟩ := Option.bind_eq_some_iff.1 computed
  obtain ⟨s, scanned, computed⟩ := Option.map_eq_some_iff.1 computed
  obtain ⟨rfl, unbound, one, three⟩ := of_decide_eq_true computed
  have found := visit_of_acquiredWhole identify_rightNode unbound acquired
  refine ⟨s₀, s, eq_ok_of_toOption prepared, ?_, one, three⟩
  rw [twoScans, run, step, scan]
  show ((visitAll _ twoNodes [mistakenNode, rightNode] >>= _) >>= _ >>= _) = _
  rw [visitAll, eq_ok_of_toOption visited]
  show (((visitAll first twoNodes [rightNode] >>= _) >>= _) >>= _ >>= _) = _
  rw [visitAll, found]
  exact eq_ok_of_toOption scanned

/-- The mistaken node is tried in both scans, and both times its handle is closed; the other is bound in
the first and found bound in the second. -/
theorem scans_backed_twoScans : ∃ s₀ s, (start ⟨7⟩).run preparedCard = .ok s₀
    ∧ s₀.run twoScans = .ok s ∧ s.devices.len = 1 ∧ s.host.opened = 3
    ∧ (∀ r ∈ s.devices.records, r.isBound = true ∧ r.kernelDriver = .mapping)
    ∧ ∃ place, Set.BijOn place {r | r ∈ s.devices.records} {j | s.config.lists.isUsed j = true}
      ∧ ∀ r ∈ s.devices.records, ∃ k i d l size, 0 < k ∧ k ≤ s.host.opened
          ∧ r.channel = some (.driver i (.nth k)) ∧ s.host.drivers[i]? = some d
          ∧ s.config.list? (place r) = some l ∧ l.spanBytes = .ok size
          ∧ d.Lends ⟨⟨7⟩, .nth k⟩ l.base size := by
  obtain ⟨s₀, s, prepared, scanned, one, three⟩ := exists_run_twoScans
  obtain ⟨bound, paired, -⟩ := scans_backed prepared scanned (by decide) (by decide)
    (proper_twoScans s.host.opened) (by rw [three]; decide)
  exact ⟨s₀, s, prepared, scanned, one, three, bound, paired⟩

end Survey

end Passthrough
