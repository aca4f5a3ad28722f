import Mathlib.Data.List.Induction
import Mathlib.Data.List.Perm.Basic
import Mathlib.Data.Prod.Lex
import Passthrough.Discovery.DeviceSearch
import Passthrough.Discovery.Run

/-!
# Passthrough — records of one function are merged

A process that finds a function again adds another record of it to its list.  The list keeps one record
for each function, made of what the records had, and of the channels it keeps the first.

* `DeviceList.get?_insert` — what one insertion does to the view of a list.
* `DeviceList.KeptFrom`, `kept_insertAll` — what is left of the records of a function.
* `DeviceList.perm_leftOvers` — no channel is lost, and none is there twice.
* `Survey.records_merge` — all of it, for any records in any order, and with the channels that are closed.
-/

namespace Passthrough

/-- Domain, bus, device and function, to be compared in this order. -/
def FunctionAddress.tuple (a : FunctionAddress) : UInt16 ×ₗ UInt8 ×ₗ UInt8 ×ₗ UInt8 :=
  toLex (a.domain, toLex (a.bus, toLex (a.device, a.function)))

theorem FunctionAddress.lt_iff_tuple {a b : FunctionAddress} : a < b ↔ a.tuple < b.tuple := by
  obtain ⟨d, b₁, v, f⟩ := a
  obtain ⟨d', b', v', f'⟩ := b
  have h₁ := b₁.toNat_lt
  have h₂ := v.toNat_lt
  have h₃ := f.toNat_lt
  have h₁' := b'.toNat_lt
  have h₂' := v'.toNat_lt
  have h₃' := f'.toNat_lt
  show key _ < key _ ↔ _
  simp only [key, tuple, Prod.Lex.toLex_lt_toLex, UInt16.lt_iff_toNat_lt, UInt8.lt_iff_toNat_lt,
    ← UInt16.toNat_inj, ← UInt8.toNat_inj]
  omega

/-! ## Two records -/

namespace DeviceRecord

variable {Channel : Type} {d r : DeviceRecord Channel}

theorem leftOver_merge (d r : DeviceRecord Channel) :
    (d.merge r).2 = if d.isBound then r.channel else none := by
  unfold DeviceRecord.merge
  cases d.isBound <;> cases r.isBound <;> rfl

/-- A merge loses no channel and makes none. -/
theorem channels_merge (d r : DeviceRecord Channel) :
    (d.merge r).2.toList ++ (d.merge r).1.channel.toList = r.channel.toList ++ d.channel.toList := by
  obtain ⟨_, _, _, _, _, _, _, older⟩ := d
  obtain ⟨_, _, _, _, _, _, _, newer⟩ := r
  cases older <;> cases newer <;> rfl

theorem merge_of_bound (bound : d.isBound = true) :
    (d.merge r).1 = { d with kernelDriver := r.kernelDriver, maxVfs := r.maxVfs } := by
  unfold DeviceRecord.merge
  rw [if_pos bound]

theorem merge_of_unbound (unbound : d.isBound = false) :
    (d.merge r).1 = { d with
      kernelDriver := r.kernelDriver
      maxVfs := r.maxVfs
      ranges := r.ranges
      numaNode := if r.isBound then r.numaNode else d.numaNode
      channel := r.channel } := by
  unfold DeviceRecord.merge
  rw [if_neg (by rw [unbound]; decide)]
  have older : d.channel = none := by simpa [DeviceRecord.isBound] using unbound
  cases newer : r.isBound with
  | true => rfl
  | false =>
    have missing : r.channel = none := by simpa [DeviceRecord.isBound] using newer
    rw [missing, ← older]
    rfl

end DeviceRecord

namespace DeviceList

variable {Channel : Type} {l : DeviceList Channel} {d first : DeviceRecord Channel}
  {later rs : List (DeviceRecord Channel)}

/-! ## One insertion -/

/-- **What an insertion does.**  The record of its address is the new one or the older one with the new
one folded in.  All other addresses keep what they have. -/
theorem get?_insert (sorted : l.Sorted) (r : DeviceRecord Channel) (a : FunctionAddress) :
    (l.insert r).list.get? a
      = if r.address = a then some ((l.get? a).elim r fun d => (d.merge r).1) else l.get? a := by
  obtain ⟨records⟩ := l
  have around : Around r.address records := sorted.around r.address
  unfold insert get?
  cases around with
  | @found front back d same before behind =>
    rw [insertInto_of_found before same]
    have merged : (d.merge r).1.address = r.address := by rw [DeviceRecord.address_merge, same]
    split
    · next here =>
      subst here
      rw [find?_of_found (address_ne_of_before before) merged,
        find?_of_found (address_ne_of_before before) same]
      rfl
    · next elsewhere =>
      rw [List.find?_append, List.find?_append, List.find?_cons_of_neg (by rw [merged]; simpa using elsewhere),
        List.find?_cons_of_neg (by rw [same]; simpa using elsewhere)]
  | @gap front back before behind =>
    rw [insertInto_of_gap before behind]
    split
    · next here =>
      subst here
      rw [find?_of_found (address_ne_of_before before) rfl,
        find?_of_gap (address_ne_of_before before) (address_ne_of_behind behind)]
      rfl
    · next elsewhere =>
      rw [List.find?_append, List.find?_append, List.find?_cons_of_neg (by simpa using elsewhere)]

/-- An insertion says whether the address was there, and the list grows by one exactly if it was not. -/
theorem inserted_insert (sorted : l.Sorted) (r : DeviceRecord Channel) :
    (l.insert r).inserted = (if (l.get? r.address).isSome then .merged else .new)
      ∧ (l.insert r).list.len = l.len + if (l.get? r.address).isSome then 0 else 1 := by
  obtain ⟨records⟩ := l
  have around : Around r.address records := sorted.around r.address
  unfold insert get? len
  cases around with
  | @found front back d same before behind =>
    rw [insertInto_of_found before same, find?_of_found (address_ne_of_before before) same]
    simp
  | @gap front back before behind =>
    rw [insertInto_of_gap before behind,
      find?_of_gap (address_ne_of_before before) (address_ne_of_behind behind)]
    simp [Nat.add_assoc]

/-- A channel is left over exactly if the function was bound already. -/
theorem leftOver_insert_eq (sorted : l.Sorted) (r : DeviceRecord Channel) :
    (l.insert r).leftOver = if l.isBound r.address then r.channel else none := by
  obtain ⟨records⟩ := l
  have around : Around r.address records := sorted.around r.address
  unfold insert isBound get?
  cases around with
  | @found front back d same before behind =>
    rw [insertInto_of_found before same, find?_of_found (address_ne_of_before before) same]
    exact DeviceRecord.leftOver_merge d r
  | @gap front back before behind =>
    rw [insertInto_of_gap before behind,
      find?_of_gap (address_ne_of_before before) (address_ne_of_behind behind)]
    rfl

/-- An insertion loses no channel and makes none. -/
theorem perm_channels_insert (sorted : l.Sorted) (r : DeviceRecord Channel) :
    ((l.insert r).leftOver.toList ++ (l.insert r).list.channels).Perm
      (r.channel.toList ++ l.channels) := by
  obtain ⟨records⟩ := l
  have around : Around r.address records := sorted.around r.address
  have single (d : DeviceRecord Channel) (ds : List (DeviceRecord Channel)) :
      (d :: ds).filterMap (·.channel) = d.channel.toList ++ ds.filterMap (·.channel) := by
    cases channel : d.channel <;> simp [channel]
  unfold insert channels
  cases around with
  | @found front back d same before behind =>
    rw [insertInto_of_found before same]
    dsimp only
    rw [List.filterMap_append, List.filterMap_append, single, single]
    -- The channels of the others stand in front, and those of the two records are brought there.
    refine (List.perm_append_comm_assoc _ _ _).trans ?_
    rw [← List.append_assoc (d.merge r).2.toList, DeviceRecord.channels_merge, List.append_assoc]
    exact List.perm_append_comm_assoc _ _ _
  | @gap front back before behind =>
    rw [insertInto_of_gap before behind]
    dsimp only
    rw [List.filterMap_append, List.filterMap_append, single, Option.toList_none, List.nil_append]
    exact List.perm_append_comm_assoc _ _ _

/-- The view of a list in order is its records. -/
theorem get?_eq_some_iff (sorted : l.Sorted) {a : FunctionAddress} :
    l.get? a = some d ↔ d ∈ l.records ∧ d.address = a := by
  obtain ⟨records⟩ := l
  have around : Around a records := sorted.around a
  unfold get?
  cases around with
  | @found front back e same before behind =>
    rw [find?_of_found (address_ne_of_before before) same, Option.some_inj]
    constructor
    · rintro rfl
      exact ⟨by simp, same⟩
    · rintro ⟨member, here⟩
      rcases List.mem_append.1 member with member | member
      · exact absurd here (address_ne_of_before before d member)
      · rcases List.mem_cons.1 member with rfl | member
        · rfl
        · exact absurd here (address_ne_of_behind behind d member)
  | gap before behind =>
    rw [find?_of_gap (address_ne_of_before before) (address_ne_of_behind behind)]
    constructor
    · intro none
      cases none
    · rintro ⟨member, here⟩
      rcases List.mem_append.1 member with member | member
      · exact absurd here (address_ne_of_before before d member)
      · exact absurd here (address_ne_of_behind behind d member)

/-! ## Many insertions -/

/-- Insert records one after the other. -/
def insertAll (l : DeviceList Channel) (rs : List (DeviceRecord Channel)) : DeviceList Channel :=
  rs.foldl (fun l r => (l.insert r).list) l

/-- The channels that are left over meanwhile. -/
def leftOvers (l : DeviceList Channel) : List (DeviceRecord Channel) → List Channel
  | [] => []
  | r :: rs => (l.insert r).leftOver.toList ++ (l.insert r).list.leftOvers rs

theorem insertAll_concat (l : DeviceList Channel) (rs : List (DeviceRecord Channel))
    (r : DeviceRecord Channel) : l.insertAll (rs ++ [r]) = ((l.insertAll rs).insert r).list := by
  simp only [insertAll, List.foldl_append, List.foldl_cons, List.foldl_nil]

theorem sorted_empty : (empty : DeviceList Channel).Sorted := List.Pairwise.nil

theorem sorted_insertAll (sorted : l.Sorted) (rs : List (DeviceRecord Channel)) :
    (l.insertAll rs).Sorted := by
  induction rs generalizing l with
  | nil => exact sorted
  | cons r rs ih => exact ih (sorted_insert sorted r)

/-- Of the channels that are there and that are brought along, each is left over or kept. -/
theorem perm_leftOvers (sorted : l.Sorted) (rs : List (DeviceRecord Channel)) :
    (l.leftOvers rs ++ (l.insertAll rs).channels).Perm (rs.filterMap (·.channel) ++ l.channels) := by
  induction rs generalizing l with
  | nil => exact List.Perm.refl _
  | cons r rs ih =>
    have first := perm_channels_insert sorted r
    have rest := ih (sorted_insert sorted r)
    have offered : (r :: rs).filterMap (·.channel) = r.channel.toList ++ rs.filterMap (·.channel) := by
      cases channel : r.channel <;> simp [channel]
    rw [offered, List.append_assoc]
    show ((l.insert r).leftOver.toList ++ (l.insert r).list.leftOvers rs
      ++ ((l.insert r).list.insertAll rs).channels).Perm _
    rw [List.append_assoc]
    refine (rest.append_left _).trans ?_
    refine (List.perm_append_comm_assoc _ _ _).trans ?_
    exact (first.append_left _).trans (List.perm_append_comm_assoc _ _ _)

/-! ## What is kept of a function -/

/-- `d` is what is kept of the records of a function, `first` and then those in `later`.  Who it is, is
said by the first, and which driver serves it by the last.  What comes with a channel is taken from the
first record that has one.  Without any the node is that of the first record and the ranges are those of
the last. -/
structure KeptFrom (first : DeviceRecord Channel) (later : List (DeviceRecord Channel))
    (d : DeviceRecord Channel) : Prop where
  address : d.address = first.address
  id : d.id = first.id
  name : d.name = first.name
  kernelDriver : d.kernelDriver = (later.getLastD first).kernelDriver
  maxVfs : d.maxVfs = (later.getLastD first).maxVfs
  bound : ∀ b, (first :: later).find? DeviceRecord.isBound = some b →
    d.channel = b.channel ∧ d.numaNode = b.numaNode ∧ d.ranges = b.ranges
  unbound : (∀ e ∈ first :: later, e.isBound = false) →
    d.channel = none ∧ d.numaNode = first.numaNode ∧ d.ranges = (later.getLastD first).ranges

theorem KeptFrom.refl (first : DeviceRecord Channel) : KeptFrom first [] first where
  address := rfl
  id := rfl
  name := rfl
  kernelDriver := rfl
  maxVfs := rfl
  bound := by
    intro b found
    have only : b ∈ [first] := List.mem_of_find?_eq_some found
    rw [List.mem_singleton.1 only]
    exact ⟨rfl, rfl, rfl⟩
  unbound := by
    intro none
    have idle := none first List.mem_cons_self
    exact ⟨by simpa [DeviceRecord.isBound] using idle, rfl, rfl⟩

/-- Another record of the function is folded into what is kept of those before it. -/
theorem KeptFrom.merge (kept : KeptFrom first later d) (r : DeviceRecord Channel) :
    KeptFrom first (later ++ [r]) (d.merge r).1 := by
  have last : (later ++ [r]).getLastD first = r := List.getLastD_concat
  have name : (d.merge r).1.name = first.name := (DeviceRecord.name_merge d r).trans kept.name
  have search : (first :: (later ++ [r])).find? DeviceRecord.isBound
      = ((first :: later).find? DeviceRecord.isBound).or (if r.isBound then some r else none) := by
    rw [← List.cons_append, List.find?_append]
    cases newer : r.isBound <;> simp [newer]
  cases found : (first :: later).find? DeviceRecord.isBound with
  | some b =>
    -- The channel is there already, so nothing that belongs to it changes.
    obtain ⟨channel, numaNode, ranges⟩ := kept.bound b found
    have holds : b.isBound = true := List.find?_some found
    have bound : d.isBound = true := by rwa [DeviceRecord.isBound, channel]
    rw [DeviceRecord.merge_of_bound bound] at name ⊢
    refine ⟨kept.address, kept.id, name, by rw [last], by rw [last], ?_, ?_⟩
    · intro b' found'
      rw [search, found, Option.some_or, Option.some_inj] at found'
      rw [← found']
      exact ⟨channel, numaNode, ranges⟩
    · intro none
      have idle := none b (List.mem_append_left [r] (List.mem_of_find?_eq_some found))
      rw [idle] at holds
      cases holds
  | none =>
    have idle : ∀ e ∈ first :: later, e.isBound = false := by simpa using found
    obtain ⟨channel, numaNode, ranges⟩ := kept.unbound idle
    have unbound : d.isBound = false := by rw [DeviceRecord.isBound, channel]; rfl
    rw [DeviceRecord.merge_of_unbound unbound] at name ⊢
    refine ⟨kept.address, kept.id, name, by rw [last], by rw [last], ?_, ?_⟩
    · intro b found'
      rw [search, found, Option.none_or] at found'
      split at found'
      · next newer =>
        cases found'
        exact ⟨rfl, if_pos newer, rfl⟩
      · cases found'
    · intro none
      have newer : r.isBound = false := none r (by simp)
      refine ⟨by simpa [DeviceRecord.isBound] using newer, ?_, by rw [last]⟩
      rw [← numaNode]
      exact if_neg (by rw [newer]; decide)

/-- What the list has of a function that the records in `rs` are of. -/
inductive Kept : List (DeviceRecord Channel) → Option (DeviceRecord Channel) → Prop where
  | nothing : Kept [] none
  | record {first d : DeviceRecord Channel} {later : List (DeviceRecord Channel)}
      (kept : KeptFrom first later d) : Kept (first :: later) (some d)

theorem Kept.merge {d? : Option (DeviceRecord Channel)} (kept : Kept rs d?) (r : DeviceRecord Channel) :
    Kept (rs ++ [r]) (some (d?.elim r fun d => (d.merge r).1)) := by
  cases kept with
  | nothing => exact .record (.refl r)
  | record kept => exact .record (kept.merge r)

theorem Kept.isSome_iff {d? : Option (DeviceRecord Channel)} (kept : Kept rs d?) :
    d?.isSome = true ↔ ∃ r, r ∈ rs := by
  cases kept with
  | nothing => simp
  | record kept => simp

theorem Kept.isBound_iff {d? : Option (DeviceRecord Channel)} (kept : Kept rs d?) :
    d?.any DeviceRecord.isBound = true ↔ ∃ r ∈ rs, r.isBound = true := by
  cases kept with
  | nothing => simp
  | @record first d later kept =>
    rw [Option.any_some]
    cases found : (first :: later).find? DeviceRecord.isBound with
    | some b =>
      have holds : b.isBound = true := List.find?_some found
      have bound : d.isBound = true := by rwa [DeviceRecord.isBound, (kept.bound b found).1]
      exact iff_of_true bound ⟨b, List.mem_of_find?_eq_some found, holds⟩
    | none =>
      have idle : ∀ e ∈ first :: later, e.isBound = false := by simpa using found
      have unbound : d.isBound = false := by rw [DeviceRecord.isBound, (kept.unbound idle).1]; rfl
      refine iff_of_false (by rw [unbound]; decide) ?_
      rintro ⟨e, he, holds⟩
      rw [idle e he] at holds
      cases holds

/-- **What is kept.**  For every address the list has what is kept of the records with it. -/
theorem kept_insertAll (rs : List (DeviceRecord Channel)) (a : FunctionAddress) :
    Kept (rs.filter (·.address = a)) ((empty.insertAll rs).get? a) := by
  induction rs using List.reverseRecOn with
  | nil => exact .nothing
  | append_singleton rs r ih =>
    rw [insertAll_concat, get?_insert (sorted_insertAll sorted_empty rs), List.filter_append]
    split
    · next here =>
      rw [List.filter_cons_of_pos (by simpa using here)]
      exact ih.merge r
    · next elsewhere =>
      rw [List.filter_cons_of_neg (by simpa using elsewhere)]
      simpa using ih

theorem isSome_get?_insertAll_iff {a : FunctionAddress} :
    ((empty.insertAll rs).get? a).isSome = true ↔ ∃ r ∈ rs, r.address = a := by
  rw [(kept_insertAll rs a).isSome_iff]
  simp [List.mem_filter]

theorem isBound_insertAll_iff {a : FunctionAddress} :
    (empty.insertAll rs).isBound a = true ↔ ∃ r ∈ rs, r.address = a ∧ r.isBound = true := by
  rw [isBound, (kept_insertAll rs a).isBound_iff]
  simp [List.mem_filter, and_assoc]

end DeviceList

/-! ## Channels that are closed -/

/-- What names a channel when it is closed. -/
inductive Closing where
  | handle (handle : HandleId)
  | standIn (label : String)

def Channel.closing : Channel → Closing
  | .driver _ handle => .handle handle
  | .standIn s => .standIn s.label

def HostEvent.closing? : HostEvent → Option Closing
  | .handleClosed handle _ => some (.handle handle)
  | .standInClosed label => some (.standIn label)
  | _ => none

namespace Host

/-- The channels closed so far, in order. -/
def closed (h : Host) : List Closing := h.events.filterMap HostEvent.closing?

/-- The channel leads somewhere on the host. -/
def Reaches (h : Host) : Channel → Prop
  | .driver i _ => i < h.drivers.length
  | .standIn _ => True

variable {h : Host}

@[simp] theorem closed_putDriver (h : Host) (i : Nat) (d : HostedDriver) :
    (h.putDriver i d).closed = h.closed := by
  have calls : (d.platform.calls.map (HostEvent.platform i)).filterMap HostEvent.closing? = [] := by
    rw [List.filterMap_eq_nil_iff]
    intro event hevent
    obtain ⟨call, -, rfl⟩ := List.mem_map.1 hevent
    rfl
  show (h.events ++ d.platform.calls.map (HostEvent.platform i)).filterMap HostEvent.closing? = _
  rw [List.filterMap_append, calls, List.append_nil]
  rfl

@[simp] theorem closed_note (h : Host) (event : HostEvent) :
    (h.note event).closed = h.closed ++ event.closing?.toList := by
  show (h.events ++ [event]).filterMap HostEvent.closing? = _
  rw [List.filterMap_append]
  cases known : event.closing? <;> simp [closed, known]

/-- To close a channel is one event, which names it. -/
theorem closed_closeChannel {channel : Channel} (reach : h.Reaches channel) :
    (h.closeChannel channel).closed = h.closed ++ [channel.closing] := by
  cases channel with
  | standIn s => exact closed_note h _
  | driver i handle =>
    have there : h.drivers[i]? = some h.drivers[i] := List.getElem?_eq_getElem reach
    simp only [closeChannel, there, closed_putDriver, closed_note]
    rfl

theorem length_drivers_closeChannel (h : Host) (channel : Channel) :
    (h.closeChannel channel).drivers.length = h.drivers.length := by
  cases channel with
  | standIn s => rfl
  | driver i handle =>
    unfold closeChannel
    dsimp only
    split
    · rfl
    · simp [putDriver, note]

theorem reaches_of_length {h' : Host} (same : h'.drivers.length = h.drivers.length) {channel : Channel}
    (reach : h.Reaches channel) : h'.Reaches channel := by
  cases channel with
  | standIn s => trivial
  | driver i handle =>
    show i < h'.drivers.length
    rw [same]
    exact reach

end Host

namespace Survey

variable {s : Survey} {rs : List (DeviceRecord Channel)}

/-- Insert records one after the other, and close what is left over. -/
def insertAll (s : Survey) (rs : List (DeviceRecord Channel)) : Survey :=
  rs.foldl (fun s r => (s.insert r).2) s

theorem devices_insertAll (s : Survey) (rs : List (DeviceRecord Channel)) :
    (s.insertAll rs).devices = s.devices.insertAll rs := by
  induction rs generalizing s with
  | nil => rfl
  | cons r rs ih => exact ih (s.insert r).2

theorem length_drivers_insert (s : Survey) (r : DeviceRecord Channel) :
    (s.insert r).2.host.drivers.length = s.host.drivers.length := by
  show (s.host.closeChannels (s.devices.insert r).leftOver.toList).drivers.length = _
  cases (s.devices.insert r).leftOver with
  | none => rfl
  | some channel => exact s.host.length_drivers_closeChannel channel

theorem length_drivers_insertAll (s : Survey) (rs : List (DeviceRecord Channel)) :
    (s.insertAll rs).host.drivers.length = s.host.drivers.length := by
  induction rs generalizing s with
  | nil => rfl
  | cons r rs ih => exact (ih (s.insert r).2).trans (s.length_drivers_insert r)

/-- An insertion closes the channel that is left over, and no other. -/
theorem closed_insert (sorted : s.devices.Sorted) {r : DeviceRecord Channel}
    (reach : ∀ channel, r.channel = some channel → s.host.Reaches channel) :
    (s.insert r).2.host.closed
      = s.host.closed ++ ((s.devices.insert r).leftOver.map Channel.closing).toList := by
  have whose := DeviceList.leftOver_insert_eq sorted r
  show (s.host.closeChannels (s.devices.insert r).leftOver.toList).closed = _
  cases left : (s.devices.insert r).leftOver with
  | none => exact (List.append_nil _).symm
  | some channel =>
    rw [left] at whose
    have offered : r.channel = some channel := by
      split at whose
      · exact whose.symm
      · cases whose
    exact Host.closed_closeChannel (reach channel offered)

theorem closed_insertAll (sorted : s.devices.Sorted)
    (reach : ∀ r ∈ rs, ∀ channel, r.channel = some channel → s.host.Reaches channel) :
    (s.insertAll rs).host.closed = s.host.closed ++ (s.devices.leftOvers rs).map Channel.closing := by
  induction rs generalizing s with
  | nil => exact (List.append_nil _).symm
  | cons r rs ih =>
    have first := closed_insert sorted (reach r List.mem_cons_self)
    have rest := ih (s := (s.insert r).2) (DeviceList.sorted_insert sorted r) fun r' hr' channel offered =>
      Host.reaches_of_length (s.length_drivers_insert r) (reach r' (List.mem_cons_of_mem r hr') channel offered)
    refine rest.trans ?_
    rw [first, List.append_assoc, DeviceList.leftOvers, List.map_append]
    cases (s.devices.insert r).leftOver <;> rfl

/-- **Records of one function are merged.**  A process that knows no device adds any records in any order,
bound and unbound.  Then

* its list is strictly increasing in domain, bus, device and function;
* it has a record for each address that was added, and for no other, and a search finds it;
* that record is what is kept of those with its address;
* a further record is new, and the list grows by one, exactly if its address was not added before, and the
  channel it brings is closed, there and then and as the only one, exactly if one of the records with its
  address was bound;
* every channel that was brought is closed or kept, as often as it was brought. -/
theorem records_merge (fresh : s.devices = .empty)
    (reach : ∀ r ∈ rs, ∀ channel, r.channel = some channel → s.host.Reaches channel) :
    let after := s.insertAll rs
    after.devices.records.Pairwise (fun d e => d.address.tuple < e.address.tuple)
      ∧ (∀ a, after.devices.lookUp a = after.devices.get? a
        ∧ (∀ d, after.devices.get? a = some d ↔ d ∈ after.devices.records ∧ d.address = a)
        ∧ ((∃ d, after.devices.get? a = some d) ↔ ∃ r ∈ rs, r.address = a))
      ∧ (∀ a first later, rs.filter (·.address = a) = first :: later →
        ∃ d, after.devices.get? a = some d ∧ DeviceList.KeptFrom first later d)
      ∧ (∀ r : DeviceRecord Channel, (∀ channel, r.channel = some channel → s.host.Reaches channel) →
        after.devices.insertFound r = after.devices.insert r
          ∧ (after.insert r).1 = (if ∃ q ∈ rs, q.address = r.address then .merged else .new)
          ∧ (after.insert r).2.devices.len
            = after.devices.len + (if ∃ q ∈ rs, q.address = r.address then 0 else 1)
          ∧ (after.insert r).2.host.closed = after.host.closed
            ++ (if ∃ q ∈ rs, q.address = r.address ∧ q.isBound = true
                then r.channel.map Channel.closing else none).toList)
      ∧ ∃ closed : List Channel, after.host.closed = s.host.closed ++ closed.map Channel.closing
        ∧ (closed ++ after.devices.channels).Perm (rs.filterMap (·.channel)) := by
  intro after
  have list : after.devices = DeviceList.empty.insertAll rs := by
    rw [← fresh]
    exact devices_insertAll s rs
  have order : s.devices.Sorted := by
    rw [fresh]
    exact DeviceList.sorted_empty
  have sorted : after.devices.Sorted := by
    rw [list]
    exact DeviceList.sorted_insertAll DeviceList.sorted_empty rs
  have known (a : FunctionAddress) : (after.devices.get? a).isSome = true ↔ ∃ r ∈ rs, r.address = a := by
    rw [list]
    exact DeviceList.isSome_get?_insertAll_iff
  refine ⟨?_, ?_, ?_, ?_, ?_⟩
  · exact sorted.imp FunctionAddress.lt_iff_tuple.1
  · intro a
    refine ⟨sorted.lookUp_eq a, fun d => DeviceList.get?_eq_some_iff sorted, ?_⟩
    rw [← known a, Option.isSome_iff_exists]
  · intro a first later those
    have kept := DeviceList.kept_insertAll rs a
    rw [those, ← list] at kept
    generalize after.devices.get? a = d? at kept
    cases kept with
    | record kept => exact ⟨_, rfl, kept⟩
  · intro r reaches
    obtain ⟨inserted, len⟩ := DeviceList.inserted_insert sorted r
    have bound : after.devices.isBound r.address = true
        ↔ ∃ q ∈ rs, q.address = r.address ∧ q.isBound = true := by
      rw [list]
      exact DeviceList.isBound_insertAll_iff
    refine ⟨sorted.insertFound_eq r, ?_, ?_, ?_⟩
    · refine inserted.trans ?_
      simp only [known]
    · refine len.trans ?_
      simp only [known]
    · have reaches' : ∀ channel, r.channel = some channel → after.host.Reaches channel :=
        fun channel offered =>
          Host.reaches_of_length (s.length_drivers_insertAll rs) (reaches channel offered)
      rw [closed_insert sorted reaches', DeviceList.leftOver_insert_eq sorted r]
      simp only [bound]
      split <;> rfl
  · refine ⟨DeviceList.empty.leftOvers rs, ?_, ?_⟩
    · rw [← fresh]
      exact closed_insertAll order reach
    · have none : (DeviceList.empty : DeviceList Channel).channels = [] := rfl
      have balance := DeviceList.perm_leftOvers DeviceList.sorted_empty rs
      rwa [none, List.append_nil, ← list] at balance

/-- A function is added without a channel, and twice with one, each time under another name.  It keeps its
first name, and the second channel is closed. -/
theorem records_merge_twoChannels :
    let one : Channel := .standIn ⟨"one", none, none, none, none⟩
    let two : Channel := .standIn ⟨"two", none, none, none, none⟩
    let record (name : String) (channel : Option Channel) : DeviceRecord Channel :=
      ⟨⟨0, 5, 0, 0⟩, .zero, 0, .unknown, 0, Vector.replicate 6 .empty, name, channel⟩
    let before := (Survey.start ⟨7⟩).insertAll [record "first" none, record "second" (some one)]
    (∃ d, before.devices.get? ⟨0, 5, 0, 0⟩ = some d ∧ d.name = "first" ∧ d.channel = some one)
      ∧ (before.insert (record "third" (some two))).1 = .merged
      ∧ (before.insert (record "third" (some two))).2.host.closed
        = before.host.closed ++ [.standIn "two"] := by
  intro one two record before
  have reach : ∀ r ∈ [record "first" none, record "second" (some one)],
      ∀ channel, r.channel = some channel →
      (Survey.start ⟨7⟩).host.Reaches channel := by
    intro r hr channel offered
    simp only [List.mem_cons, List.not_mem_nil, or_false] at hr
    rcases hr with rfl | rfl <;> cases offered
    trivial
  obtain ⟨-, -, kept, further, -⟩ := records_merge (s := Survey.start ⟨7⟩) rfl reach
  obtain ⟨d, found, whole⟩ := kept ⟨0, 5, 0, 0⟩ (record "first" none) [record "second" (some one)] rfl
  obtain ⟨-, inserted, -, closed⟩ := further (record "third" (some two)) (by rintro _ ⟨⟩; trivial)
  exact ⟨⟨d, found, whole.name, (whole.bound (record "second" (some one)) rfl).1⟩, inserted, closed⟩

end Survey

end Passthrough
