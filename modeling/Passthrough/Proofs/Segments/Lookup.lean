import Passthrough.Proofs.Segments.Paged

/-!
# Passthrough — translation without a look at the segments

Translating an address reads the base of the first list, its length and its first segment.  The answer is
that of the segment which the address lies in, since the segments of a list that was made of a pool follow
each other without a gap, for devices as for the process, and keep doing so when the list is published,
read and moved.

```text
 process   base      s.addr   va                base + n pages
           ├────┼────┼────●────┼────┼── … ──────┤
 devices   first     s.iova + (va - s.addr)  =  first + (va - base)
```

* `MemConfig.Assembled` — the configurations that are made of pools, published, read back and moved.
* `MemConfig.Assembled.paged` — all their lists are runs of pages.
* `SegmentList.Paged.covers_iff` — which segment of a run covers an address.
* `MemConfig.Assembled.translate_agrees` — translation and the segments of the first list.
-/

namespace Passthrough

/-- The configurations that storing pools, publishing and reading back, and reserving address space lead
to, when no range of a pool wraps and none that is granted. -/
inductive MemConfig.Assembled : MemConfig → Prop where
  | empty : Assembled .empty
  | stored {c c' : MemConfig} {pool : Region} {socket : Int32} {index : Nat} {log : List Message}
      (before : Assembled c) (devices : pool.phys.val.toNat + pool.size.toNat ≤ 2 ^ 64)
      (process : pool.user.val.toNat + pool.size.toNat ≤ 2 ^ 64)
      (stored : c.storePool pool socket = .ok ⟨.ok index, c', log⟩) : Assembled c'
  /-- The table of a configuration, with any marker, read back. -/
  | published {c c' : MemConfig} {region written marked : ByteArray} (before : Assembled c)
      (wrote : Layout.write region c = .ok written)
      (marking : Packed.DiffersIn (fun k => k < 4) written marked)
      (found : Layout.read marked = .ok c') : Assembled c'
  /-- Reserving moves lists, up to the first refusal. -/
  | moved {c : MemConfig} {place : Placement} {reserved : Reserved} (before : Assembled c)
      (inRange : place.InRange) (reserving : reserveLists place c = .ok reserved) :
      Assembled reserved.config

/-- The address lies in the segment. -/
def Segment.Covers (s : Segment) (va : VirtAddr) : Prop :=
  s.addr.val.toNat ≤ va.val.toNat ∧ va.val.toNat < s.addr.val.toNat + s.length.toNat

/-- Segment `k` of the list is in use and the address lies in it. -/
def SegmentList.CoveredBy (l : SegmentList) (va : VirtAddr) (k : Nat) (s : Segment) : Prop :=
  l.segments.get? k = some s ∧ s.Covers va

/-! ## Runs -/

namespace SegmentList.Paged

variable {l : SegmentList} {first : PhysAddr} {n : Nat}

/-- The segment of a run that covers an address is the page that the distance from the base leads to. -/
theorem covers_iff (paged : l.Paged first n) {va : VirtAddr} {k : Nat} {s : Segment} :
    l.CoveredBy va k s ↔ InRun l.base n va ∧ k = (va.val.toNat - l.base.val.toNat) / 4096
      ∧ s = page first l.base l.socket k := by
  have size : (page first l.base l.socket k).length.toNat = 4096 := rfl
  constructor
  · rintro ⟨there, low, high⟩
    have below := paged.lt_of_get? there
    obtain rfl := Option.some.inj (there.symm.trans (paged.segment k below))
    rw [paged.toNat_addr below] at low high
    rw [size] at high
    have page : k * 4096 + 4096 ≤ n * 4096 := by omega
    exact ⟨⟨by omega, by omega⟩, by omega, rfl⟩
  · rintro ⟨⟨low, high⟩, place, rfl⟩
    have below : k < n := by omega
    refine ⟨paged.segment k below, ?_⟩
    unfold Segment.Covers
    rw [paged.toNat_addr below, size]
    omega

/-- Behind the first address of a run, for devices, by the distance from the page as from the base. -/
theorem toNat_translated (paged : l.Paged first n) {va : VirtAddr} {k : Nat} {s : Segment}
    (covered : l.CoveredBy va k s) :
    (first.val + (va.val - l.base.val)).toNat
      = s.iova.val.toNat + (va.val.toNat - s.addr.val.toNat) := by
  obtain ⟨there, low, high⟩ := covered
  obtain ⟨⟨behind, within⟩, -, rfl⟩ := paged.covers_iff.1 ⟨there, low, high⟩
  have below := paged.lt_of_get? there
  have devices := paged.devices
  rw [paged.toNat_addr below] at low ⊢
  rw [UInt64.toNat_add, UInt64.toNat_sub_of_le _ _ (UInt64.le_iff_toNat_le.2 behind),
    Nat.mod_eq_of_lt (by omega), paged.toNat_iova below]
  omega

end SegmentList.Paged

/-! ## Configurations of runs -/

namespace Layout

theorem room_of_write {region written : ByteArray} {c : MemConfig}
    (wrote : write region c = .ok written) : regionSize ≤ region.size := by
  refine Nat.le_of_not_lt fun short => ?_
  rw [write_eq, init] at wrote
  rw [if_pos short] at wrote
  cases wrote

/-- What is read from the table of a configuration, whatever the marker. -/
theorem eq_of_read_write {region written marked : ByteArray} {c c' : MemConfig} (fits : c.Fits)
    (wrote : write region c = .ok written)
    (marking : Packed.DiffersIn (fun k => k < 4) written marked) (found : read marked = .ok c') :
    c' = c := by
  obtain ⟨written', wrote', -, tells⟩ := exists_write_tells fits (room_of_write wrote)
  obtain rfl := Except.ok.inj (wrote.symm.trans wrote')
  exact Except.ok.inj (found.symm.trans (tells.after marking).read)

end Layout

namespace MemConfig

theorem Paged.moveList {c c' : MemConfig} {i : Nat} {base : VirtAddr} {l : SegmentList} {span : UInt64}
    (paged : c.Paged) (there : c.list? i = some l) (spans : l.spanBytes = .ok span)
    (room : base.val.toNat + span.toNat ≤ 2 ^ 64) (moved : Passthrough.moveList c i base = .ok c') :
    c'.Paged := by
  obtain ⟨first, n, run⟩ := paged i l there
  obtain rfl := Except.ok.inj (spans.symm.trans run.spanBytes)
  rw [toNat_spanOf run.few] at room
  obtain ⟨c₁, m, moved', run', -, -, lists⟩ := exists_moveList there run room
  obtain rfl := Except.ok.inj (moved.symm.trans moved')
  intro j l' there'
  rw [lists] at there'
  split at there'
  · cases there'
    exact ⟨first, n, run'⟩
  · exact paged j l' there'

/-- Ranges that are reserved in a row, up to a refusal: the lists stay runs. -/
theorem Paged.reserveRanges {place : Placement} (inRange : place.InRange)
    {wanted : List (Nat × AddressRange)} {granted : List Reservation} {c : MemConfig}
    {reserved : Reserved} (paged : c.Paged) (nodup : (wanted.map Prod.fst).Nodup)
    (asked : ∀ i range, (i, range) ∈ wanted →
      ∃ l, c.list? i = some l ∧ l.spanBytes = .ok range.length)
    (h : Passthrough.reserveRanges place wanted granted c = .ok reserved) : reserved.config.Paged := by
  induction wanted generalizing granted c reserved with
  | nil =>
    cases h
    exact paged
  | cons entry wanted ih =>
    obtain ⟨i, range⟩ := entry
    obtain ⟨out, distinct⟩ := List.nodup_cons.1 nodup
    unfold Passthrough.reserveRanges at h
    split at h
    · -- A refusal leaves the lists that were moved before it where they are now.
      cases h
      exact paged
    · next base placed =>
      obtain ⟨c₁, moved, h⟩ := Checked.bind_eq_ok_iff.1 h
      obtain ⟨later, ran, h⟩ := Checked.bind_eq_ok_iff.1 h
      cases h
      obtain ⟨l, there, spans⟩ := asked i range List.mem_cons_self
      have paged₁ := paged.moveList there spans (inRange _ _ _ _ placed) moved
      have asked₁ : ∀ j range, (j, range) ∈ wanted →
          ∃ l, c₁.list? j = some l ∧ l.spanBytes = .ok range.length := by
        intro j range entry
        have number := List.mem_map_of_mem (f := Prod.fst) entry
        have other : j ≠ i := by
          rintro rfl
          exact out number
        rw [list?_of_moveList moved other]
        exact asked j range (List.mem_cons_of_mem _ entry)
      have rest := ih paged₁ distinct asked₁ ran
      exact rest

theorem Paged.reserveLists {place : Placement} (inRange : place.InRange) {c : MemConfig}
    {reserved : Reserved} (paged : c.Paged) (h : Passthrough.reserveLists place c = .ok reserved) :
    reserved.config.Paged := by
  obtain ⟨wanted, asking, reserving⟩ := Checked.bind_eq_ok_iff.1 h
  obtain ⟨nodup, entries⟩ := asked_of_wantedRanges asking
  refine paged.reserveRanges inRange nodup (fun i range entry => ?_) reserving
  obtain ⟨l, there, -, -, spans⟩ := (entries i range).1 entry
  exact ⟨l, there, spans⟩

namespace Assembled

theorem attainable {c : MemConfig} (assembled : c.Assembled) : c.Attainable := by
  induction assembled with
  | empty => exact .empty
  | stored _ _ _ stored ih => exact ih.stored stored
  | published _ _ _ found _ => exact .read found
  | moved _ _ reserving ih => exact ih.moved reserving

/-- **Lists stay runs of pages**, through storing, publishing, reading and moving. -/
theorem paged {c : MemConfig} (assembled : c.Assembled) : c.Paged := by
  induction assembled with
  | empty => exact paged_empty
  | stored _ devices process stored ih => exact ih.storePool stored devices process
  | published before wrote marking found ih =>
    rw [Layout.eq_of_read_write before.attainable.fits wrote marking found]
    exact ih
  | moved _ inRange reserving ih => exact ih.reserveLists inRange reserving

/-- **Translation agrees with the segments.**  Take a configuration that is made of pools, published, read
back and moved in any order, and any address.  Translation answers.

* It answers an address exactly if a segment of the first list covers the one asked for; the answer is as
  far behind the segment for devices as the address asked for is behind it for the process.
* There is one such segment only.
* It answers that there is none for all other addresses: if the first list is not there, and also where
  only another list covers the address. -/
theorem translate_agrees {c : MemConfig} (assembled : c.Assembled) (va : VirtAddr) :
    ∃ answer, c.translate va = .ok answer
      ∧ (∀ iova, answer = some iova ↔ ∃ l k s, c.list? 0 = some l ∧ l.CoveredBy va k s
          ∧ iova.val.toNat = s.iova.val.toNat + (va.val.toNat - s.addr.val.toNat))
      ∧ (∀ l k k' s s', c.list? 0 = some l → l.CoveredBy va k s → l.CoveredBy va k' s' →
          k' = k ∧ s' = s)
      ∧ (answer = none ↔ ∀ l k s, c.list? 0 = some l → ¬l.CoveredBy va k s) := by
  cases there : c.list? 0 with
  | none =>
    refine ⟨none, ?_, by simp, by simp, by simp⟩
    unfold translate
    rw [there]
  | some l =>
    obtain ⟨first, n, run⟩ := assembled.paged 0 l there
    have unique : ∀ l' k k' s s', some l = some l' → l'.CoveredBy va k s → l'.CoveredBy va k' s' →
        k' = k ∧ s' = s := by
      rintro _ k k' s s' ⟨⟩ covers covers'
      obtain ⟨-, rfl, rfl⟩ := run.covers_iff.1 covers
      obtain ⟨-, rfl, rfl⟩ := run.covers_iff.1 covers'
      exact ⟨rfl, rfl⟩
    by_cases inside : SegmentList.InRun l.base n va
    · have covered := run.covers_iff.2 ⟨inside, rfl, rfl⟩
      refine ⟨_, run.translate there inside, fun iova => ⟨?_, ?_⟩, unique, ?_⟩
      · rintro ⟨⟩
        exact ⟨l, _, _, rfl, covered, run.toNat_translated covered⟩
      · rintro ⟨_, k, s, ⟨⟩, covers, distance⟩
        rw [← run.toNat_translated covers, UInt64.toNat_inj] at distance
        exact congrArg (fun word => some (PhysAddr.mk word)) distance.symm
      · exact iff_of_false nofun fun uncovered => uncovered l _ _ rfl covered
    · have uncovered : ∀ k s, ¬l.CoveredBy va k s := fun k s covers =>
        inside (run.covers_iff.1 covers).1
      refine ⟨none, run.translate_outside there inside, fun iova => ?_, unique, ?_⟩
      · refine iff_of_false nofun ?_
        rintro ⟨_, k, s, ⟨⟩, covers, -⟩
        exact uncovered k s covers
      · refine iff_of_true rfl ?_
        rintro _ k s ⟨⟩
        exact uncovered k s

end Assembled

/-- A page that a process has in the place of the pool `twoPages`. -/
def otherPage : AddressSpace := ⟨[⟨twoPages.user, 4096⟩]⟩

/-- A pool of two pages is stored, published and read, and the list moves because its place is taken.  An
address in the second page is translated, and the segment that covers it is found. -/
theorem translate_agrees_moved : ∃ c reserved region written base,
    Layout.write region c = .ok written ∧ Layout.read written = .ok c
      ∧ reserveLists otherPage.placement c = .ok reserved ∧ c.movedLists reserved.config = [0]
      ∧ reserved.config.base? 0 = some base
      ∧ reserved.config.translate ⟨base.val + 4097⟩ = .ok (some ⟨0x100001001⟩)
      ∧ ∃ l k s, reserved.config.list? 0 = some l ∧ l.CoveredBy ⟨base.val + 4097⟩ k s := by
  have computed : ((empty.storePool twoPages 0).toOption.any fun stored =>
      stored.result.toOption.any fun _ =>
        (reserveLists otherPage.placement stored.config).toOption.any fun reserved =>
          stored.config.movedLists reserved.config = [0]
            ∧ (reserved.config.base? 0).any fun base =>
              (reserved.config.translate ⟨base.val + 4097⟩).toOption
                = some (some ⟨0x100001001⟩)) = true := by
    decide +kernel
  obtain ⟨⟨result, c, log⟩, stores, stored⟩ := exists_ok_of_any computed
  obtain ⟨index, rfl, reserves⟩ := exists_ok_of_any stored
  obtain ⟨reserved, reserving, moves⟩ := exists_ok_of_any reserves
  obtain ⟨moves, based⟩ := of_decide_eq_true moves
  obtain ⟨base, there, found⟩ := (Option.any_eq_true _ _).1 based
  have translated := eq_ok_of_toOption (of_decide_eq_true found)
  have made : c.Assembled := .stored .empty (by decide) (by decide) stores
  obtain ⟨written, wrote, read, -⟩ :=
    made.attainable.survives_publication (Nat.le_of_eq (Packed.size_zeros Layout.regionSize).symm)
  have readBack : c.Assembled := .published made wrote (.refl _ _) read
  obtain ⟨answer, answered, covered, -⟩ :=
    Assembled.translate_agrees (.moved readBack otherPage.inRange_placement reserving) ⟨base.val + 4097⟩
  obtain rfl := Except.ok.inj (answered.symm.trans translated)
  obtain ⟨l, k, s, there', covers, -⟩ := (covered _).1 rfl
  exact ⟨c, reserved, _, written, base, wrote, read, reserving, moves, there, translated, l, k, s,
    there', covers⟩

end MemConfig

end Passthrough
