import Passthrough.Proofs.Segments.Paged
import Passthrough.Proofs.Sharing.Completion

/-!
# Passthrough — the same address for devices in every process

A process maps its pools, cuts them into lists and publishes them.  Another process reads the lists and
sets address space aside for them wherever the system puts it.  An address that is as far behind the base
of the first list in one process as in the other is the same address for devices.

```text
 primary    base ─────── base + x            secondary   base' ────── base' + x
              │             │                              │             │
 devices    first ────── first + x   ═══════════════════ first ────── first + x
```

* `MemConfig.Mirrors` — what the lists of the other process have of the first one's.
* `MemConfig.mirrors_of_follows` — lists that moved to their ranges.
* `Session.translations_agree` — storing, publishing, reading and reserving together.
-/

namespace Passthrough

namespace MemConfig

/-- `d` has the lists of `c` where address space was set aside for them, and translates as `c` does. -/
structure Mirrors (c d : MemConfig) (reservations : List Reservation) : Prop where
  /-- As far behind the base of the first list, the same address for devices. -/
  translate : ∀ l m span, c.list? 0 = some l → d.list? 0 = some m → l.spanBytes = .ok span →
    ∀ x, x < span → ∃ iova, c.translate ⟨l.base.val + x⟩ = .ok (some iova)
      ∧ d.translate ⟨m.base.val + x⟩ = .ok (some iova)
  /-- Nothing outside of the first list. -/
  outside : ∀ va : VirtAddr,
    (∀ m span, d.list? 0 = some m → m.spanBytes = .ok span →
      ¬(m.base.val.toNat ≤ va.val.toNat ∧ va.val.toNat < m.base.val.toNat + span.toNat)) →
    d.translate va = .ok none
  lists : ∀ i, (d.list? i).isSome = (c.list? i).isSome
  /-- Segment by segment: where it lies in the range of its list, and what it has of the first one. -/
  segments : ∀ i l m, c.list? i = some l → d.list? i = some m →
    ∃ r ∈ reservations, r.list = i ∧ r.range.base = m.base ∧ l.spanBytes = .ok r.range.length
      ∧ m.capacity = l.capacity
      ∧ ∀ k, k < l.capacity → ∃ p q, l.segments.get? k = some p ∧ m.segments.get? k = some q
        ∧ q.addr.val.toNat = r.range.base.val.toNat + k * 4096
        ∧ k * 4096 + 4096 ≤ r.range.length.toNat
        ∧ q.iova = p.iova ∧ q.length = p.length ∧ q.pageSize = p.pageSize ∧ q.socket = p.socket

/-- The range of a run, `x` bytes behind its base. -/
theorem inRun_add {l : SegmentList} {first : PhysAddr} {n : Nat} (run : l.Paged first n) {x : UInt64}
    (below : x.toNat < n * 4096) :
    SegmentList.InRun l.base n ⟨l.base.val + x⟩ ∧ l.base.val + x - l.base.val = x := by
  have process := run.process
  have sum : (l.base.val + x).toNat = l.base.val.toNat + x.toNat := by
    rw [UInt64.toNat_add]
    exact Nat.mod_eq_of_lt (by omega)
  refine ⟨⟨?_, ?_⟩, ?_⟩
  · show l.base.val.toNat ≤ (l.base.val + x).toNat
    omega
  · show (l.base.val + x).toNat < _
    omega
  · rw [UInt64.add_comm, UInt64.add_sub_cancel]

/-- Lists that moved to the ranges that were set aside for them mirror those they come from. -/
theorem mirrors_of_follows {c d : MemConfig} {numbers : List Nat} {reservations : List Reservation}
    (listed : ∀ i, i ∈ numbers ↔ (c.list? i).isSome) (follows : c.Follows d numbers reservations) :
    c.Mirrors d reservations where
  translate l m span hl hm spans x below := by
    have here : 0 ∈ numbers := (listed 0).2 (by rw [hl]; rfl)
    obtain ⟨l', m', first, n, -, hl', hm', run, run', -, -, -, -⟩ := follows.moved 0 here
    obtain rfl : l = l' := Option.some.inj (hl.symm.trans hl')
    obtain rfl : m = m' := Option.some.inj (hm.symm.trans hm')
    obtain rfl : spanOf n = span := Except.ok.inj (run.spanBytes.symm.trans spans)
    rw [UInt64.lt_iff_toNat_lt, toNat_spanOf run.few] at below
    obtain ⟨inside, distance⟩ := inRun_add run below
    obtain ⟨inside', distance'⟩ := inRun_add run' below
    have translated := run.translate hl inside
    have translated' := run'.translate hm inside'
    rw [distance] at translated
    rw [distance'] at translated'
    exact ⟨_, translated, translated'⟩
  outside va out := by
    by_cases here : 0 ∈ numbers
    · obtain ⟨-, m, first, n, -, -, hm, -, run, -, -, -, -⟩ := follows.moved 0 here
      have out := out m (spanOf n) hm run.spanBytes
      rw [toNat_spanOf run.few] at out
      exact run.translate_outside hm out
    · have none : d.list? 0 = none := by
        rw [follows.kept 0 here]
        simpa [listed] using here
      unfold translate
      rw [none]
  lists i := by
    by_cases here : i ∈ numbers
    · obtain ⟨l, m, -, -, -, hl, hm, -⟩ := follows.moved i here
      rw [hl, hm]
      rfl
    · rw [follows.kept i here]
  segments i l m hl hm := by
    have here : i ∈ numbers := (listed i).2 (by rw [hl]; rfl)
    obtain ⟨l', m', first, n, r, hl', hm', run, run', socket, there, rfl, range⟩ :=
      follows.moved i here
    obtain rfl : l = l' := Option.some.inj (hl.symm.trans hl')
    obtain rfl : m = m' := Option.some.inj (hm.symm.trans hm')
    have base : r.range.base = m.base := congrArg AddressRange.base range
    have length : r.range.length = spanOf n := congrArg AddressRange.length range
    refine ⟨r, there, rfl, base, ?_, run'.capacity.trans run.capacity.symm, fun k below => ?_⟩
    · rw [length]
      exact run.spanBytes
    · rw [run.capacity] at below
      have last : k * 4096 + 4096 ≤ n * 4096 := by omega
      refine ⟨_, _, run.segment k below, run'.segment k below, ?_, ?_, rfl, rfl, rfl, socket⟩
      · rw [base]
        exact run'.toNat_addr below
      · rwa [length, toNat_spanOf run.few]

end MemConfig

namespace Session

theorem filterMap_published_eq_nil {name : String} {actions : List SessionAction}
    (none : ∀ c, .publish name c ∉ actions) :
    actions.filterMap (SessionAction.published? name) = [] := by
  rw [List.filterMap_eq_nil_iff]
  intro action there
  rw [Option.eq_none_iff_forall_ne_some]
  intro c published
  rw [SessionAction.published?_eq_some_iff.1 published] at there
  exact none c there

/-- **The same address for devices.**  A process has stored pools, none of whose ranges wraps, is the
primary in a session that has come to any state, and publishes its configuration last.  Whoever has the
file open then reads that configuration and reserves address space for it, under any placement that puts
no range where it would wrap: that does not fault, and if nothing is refused the configuration that comes
of it mirrors the primary's. -/
theorem translations_agree {store : FileStore} (sound : store.Sound) (unlocked : store.locks = [])
    {path : String} {before later : List SessionAction} {name : String} {primary : SharedConfig}
    (held : ((start store).run path before).hold? name = some primary)
    (role : primary.role = .primary) {pools : List (Region × Int32)} {c : MemConfig}
    (stored : MemConfig.empty.storeAll pools = .ok (.ok c))
    (within : ∀ p ∈ pools, p.1.phys.val.toNat + p.1.size.toNat ≤ 2 ^ 64
      ∧ p.1.user.val.toNat + p.1.size.toNat ≤ 2 ^ 64)
    (last : ∀ c', .publish name c' ∉ later) {s : Session}
    (reached : (start store).run path (before ++ .publish name c :: later) = s)
    (lives : s.hold? name = some primary) {place : Placement} (inRange : place.InRange) :
    ∀ a ∈ s.holds, a.2.load s.store = .ok c
      ∧ ∃ reserved, reserveLists place c = .ok reserved
        ∧ ∀ reservations, reserved.result = .ok reservations →
          c.Mirrors reserved.config reservations := by
  intro a ha
  rw [run_append] at reached
  have orderly : Orderly path ((start store).run path before) :=
    orderly_run (.start sound unlocked) before
  have there := mem_of_hold? held
  have orderly' := (move_of_step path _ (.publish name c)).orderly orderly
  have final : Orderly path s := by
    rw [← reached]
    exact orderly_run orderly' later
  have lives : (name, primary) ∈ s.holds := mem_of_hold? lives
  rw [← reached] at lives
  -- The table is the primary's from the publication on.
  have fits := (MemConfig.Attainable.empty.storeAll stored).fits
  have offers := orderly.offers_publish there role fits
  have kept := orderly'.offers_reign (orderly.mem_step there lives) role
    (fun c' h => absurd h (last c')) lives offers
  rw [filterMap_published_eq_nil last] at kept
  have paged := MemConfig.paged_empty.storeAll stored within
  obtain ⟨reserved, done, ends⟩ := paged.exists_reserveLists inRange
  refine ⟨final.load (reached ▸ kept) a ha, reserved, done, fun reservations result => ?_⟩
  obtain ⟨numbers, listed, follows⟩ := ends reservations result
  exact MemConfig.mirrors_of_follows listed follows

/-- A page that a process has in the place of the pool of `MemConfig.twoPages`. -/
def crowded : AddressSpace := ⟨[⟨MemConfig.twoPages.user, 4096⟩]⟩

/-- A primary stores a pool of two pages, publishes and marks; a secondary that attached before has
something else at the pool's address, so that its list moves. -/
theorem translations_agree_crowded : ∃ c s primary reserved reservations,
    MemConfig.empty.storeAll [(MemConfig.twoPages, 0)] = .ok (.ok c)
      ∧ ((start .empty).run "/rte.config" (bothOpen .primary .secondary)).hold? "a" = some primary
      ∧ primary.role = .primary
      ∧ (start .empty).run "/rte.config" (bothOpen .primary .secondary
        ++ .publish "a" c :: [.markComplete "a"]) = s
      ∧ s.hold? "a" = some primary
      ∧ reserveLists crowded.placement c = .ok reserved ∧ reserved.result = .ok reservations
      ∧ c.movedLists reserved.config = [0] ∧ c.Mirrors reserved.config reservations
      ∧ ∀ a ∈ s.holds, a.2.load s.store = .ok c := by
  have first : ((start .empty).run "/rte.config" (bothOpen .primary .secondary)
      |>.hold? "a").any (·.role = .primary) = true := by
    decide +kernel
  have computed : ((MemConfig.empty.storeAll [(MemConfig.twoPages, 0)]).toOption.any fun stored =>
      stored.toOption.any fun c => (reserveLists crowded.placement c).toOption.any fun reserved =>
        reserved.result.toOption.any fun _ => c.movedLists reserved.config = [0]) = true := by
    decide +kernel
  obtain ⟨primary, held, role⟩ := (Option.any_eq_true _ _).1 first
  have role := of_decide_eq_true role
  obtain ⟨answer, stored, stores⟩ := exists_ok_of_any computed
  obtain ⟨c, rfl, reserves⟩ := exists_ok_of_any stores
  obtain ⟨reserved, reserving, answers⟩ := exists_ok_of_any reserves
  obtain ⟨reservations, result, moves⟩ := exists_ok_of_any answers
  have lives : ((start .empty).run "/rte.config" (bothOpen .primary .secondary
      ++ .publish "a" c :: [.markComplete "a"])).hold? "a" = some primary := by
    rw [run_append, run, run, run, hold?_step_markComplete, hold?_step_publish]
    exact held
  have within : ∀ p ∈ [(MemConfig.twoPages, (0 : Int32))],
      p.1.phys.val.toNat + p.1.size.toNat ≤ 2 ^ 64
        ∧ p.1.user.val.toNat + p.1.size.toNat ≤ 2 ^ 64 := by
    simp [MemConfig.twoPages]
  have last : ∀ c', SessionAction.publish "a" c' ∉ [SessionAction.markComplete "a"] := by simp
  have agree := translations_agree FileStore.sound_empty rfl held role stored within last rfl lives
    crowded.inRange_placement
  obtain ⟨-, reserved, done, mirrors⟩ := agree _ (mem_of_hold? lives)
  obtain rfl := Except.ok.inj (reserving.symm.trans done)
  exact ⟨c, _, primary, _, reservations, stored, held, role, rfl, lives, reserving, result,
    of_decide_eq_true moves, mirrors _ result, fun a ha => (agree a ha).1⟩

end Session

end Passthrough
