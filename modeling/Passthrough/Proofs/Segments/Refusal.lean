import Passthrough.Proofs.Segments.Moving

/-!
# Passthrough — what a refused reservation leaves behind

Ranges are reserved one after the other, and each list is moved when its range is granted.  A refusal gives
the ranges back that were granted before it, but the lists stay where they were moved to.

```text
 asked for     list 0        list 1        list 2
 granted      at its base    elsewhere     refused
 list         as it was      moved         as it was
 range        given back     given back
```

* `MemConfig.refused_reservation` — what is left, of every configuration and every refusal; it is the
  configuration as it was exactly if all that was granted was granted at the base of its list.
* `MemConfig.refused_reservation_moves_list` — a table for which it is not.
-/

namespace Passthrough

namespace MemConfig

variable {c : MemConfig}

theorem isAtBase_iff {r : Reservation} {l : SegmentList} (there : c.list? r.list = some l) :
    r.isAtBase c = true ↔ l.base = r.range.base := by
  rw [Reservation.isAtBase, decide_eq_true_iff, base?, there, Option.map_some, Option.some.injEq]

/-- The refusal comes when all that was asked for before is granted. -/
theorem exists_refused_of_reserveRanges {place : Placement} {wanted : List (Nat × AddressRange)}
    {granted : List Reservation} {reserved : Reserved} {e : SegmentError}
    (h : reserveRanges place wanted granted c = .ok reserved) (refused : reserved.result = .error e) :
    ∃ before i range rest reason, wanted = before ++ (i, range) :: rest
      ∧ before.length = (grants place granted wanted).length
      ∧ place ((granted ++ grants place granted wanted).map Reservation.range) range.base range.length
        = .error reason
      ∧ e = .reserve range.length reason := by
  induction wanted generalizing granted c reserved with
  | nil =>
    cases h
    cases refused
  | cons entry wanted ih =>
    obtain ⟨i, range⟩ := entry
    unfold reserveRanges at h
    unfold grants
    cases placed : place (granted.map Reservation.range) range.base range.length with
    | error reason =>
      rw [placed] at h
      cases h
      cases refused
      exact ⟨[], i, range, wanted, reason, rfl, rfl, by rwa [List.append_nil], rfl⟩
    | ok base =>
      rw [placed] at h
      obtain ⟨c₁, -, h⟩ := Checked.bind_eq_ok_iff.1 h
      obtain ⟨later, ran, h⟩ := Checked.bind_eq_ok_iff.1 h
      cases h
      obtain ⟨before, j, range', rest, reason, rfl, length, last, rfl⟩ := ih ran refused
      refine ⟨(i, range) :: before, j, range', rest, reason, rfl, congrArg (· + 1) length, ?_, rfl⟩
      rwa [List.append_assoc] at last

/-- **A refused reservation.**  What was asked for before the refusal was granted.  The lists that these
ranges were for are where the ranges were, the others as they were.  So the configuration is as it was
exactly if each of these ranges was at the base of its list. -/
theorem refused_reservation {place : Placement} {reserved : Reserved} {e : SegmentError}
    (answers : reserveLists place c = .ok reserved) (refused : reserved.result = .error e) :
    ∃ wanted, wantedRanges c = .ok wanted
      ∧ (∃ before i range rest reason, wanted = before ++ (i, range) :: rest
        ∧ before.length = (grants place [] wanted).length ∧ e = .reserve range.length reason
        ∧ place ((grants place [] wanted).map Reservation.range) range.base range.length
          = .error reason)
      ∧ (∀ r ∈ grants place [] wanted, ∃ l l', c.list? r.list = some l
        ∧ reserved.config.list? r.list = some l' ∧ l.Shifted l' ∧ l'.base = r.range.base)
      ∧ (∀ i, i ∉ (grants place [] wanted).map Reservation.list →
        reserved.config.list? i = c.list? i)
      ∧ (reserved.config = c ↔ ∀ r ∈ grants place [] wanted, r.isAtBase c = true) := by
  obtain ⟨wanted, asking, reserving⟩ := Checked.bind_eq_ok_iff.1 answers
  obtain ⟨nodup, asked⟩ := asked_of_wantedRanges asking
  obtain ⟨-, settled, others⟩ := of_reserveRanges nodup reserving
  have granted : ∀ r ∈ grants place [] wanted, ∃ l l', c.list? r.list = some l
      ∧ reserved.config.list? r.list = some l' ∧ l.movedTo r.range.base = .ok l' := by
    intro r hr
    have listed := (numbers_of_grants place [] wanted).subset (List.mem_map_of_mem hr)
    obtain ⟨⟨i, range⟩, entry, rfl⟩ := List.mem_map.1 listed
    obtain ⟨l, there, -⟩ := (asked _ range).1 entry
    obtain ⟨l', there', moved⟩ := settled r hr l there
    exact ⟨l, l', there, there', moved⟩
  refine ⟨wanted, asking, ?_, fun r hr => ?_, others, fun same r hr => ?_, fun atBase => ?_⟩
  · obtain ⟨before, i, range, rest, reason, asked, length, last, error⟩ :=
      exists_refused_of_reserveRanges reserving refused
    exact ⟨before, i, range, rest, reason, asked, length, error, last⟩
  · obtain ⟨l, l', there, there', moved⟩ := granted r hr
    exact ⟨l, l', there, there', SegmentList.shifted_of_movedTo moved, (SegmentList.of_movedTo moved).1⟩
  · obtain ⟨l, l', there, there', moved⟩ := granted r hr
    rw [same] at there'
    rw [isAtBase_iff there']
    exact (SegmentList.of_movedTo moved).1
  · refine ext_list? fun i _ => ?_
    by_cases numbered : i ∈ (grants place [] wanted).map Reservation.list
    · obtain ⟨r, hr, rfl⟩ := List.mem_map.1 numbered
      obtain ⟨l, l', there, there', moved⟩ := granted r hr
      rw [← (isAtBase_iff there).1 (atBase r hr), SegmentList.movedTo_base] at moved
      rw [there', there, Except.ok.inj moved]
    · exact others i numbered

/-! ## A table for which the lists are left elsewhere -/

/-- A list of one slot. -/
def oneSlot (name : String) (pageSize : UInt64) (segment : Option Segment) : SegmentList where
  name := name
  pageSize := pageSize
  socket := 0
  base := ⟨0x400000000000⟩
  segments := .tabulate 1 fun _ => segment

/-- Three lists at one base.  The second one can not have it, and no system has a range for the third. -/
def crowded : MemConfig where
  lists := .tabulate 8 fun
    | 0 => some (oneSlot "one" 4096 none)
    | 1 => some (oneSlot "two" 4096 (some ⟨⟨0x100000000⟩, ⟨0x400000000000⟩, 4096, 4096, 0⟩))
    | 2 => some (oneSlot "none" 0 none)
    | _ => none
  capacity_lists := Arena.capacity_tabulate ..

theorem fits_crowded : crowded.Fits := by
  have fits {name : String} (short : name.utf8ByteSize ≤ 64) (pageSize : UInt64)
      (segment : Option Segment) : (oneSlot name pageSize segment).Fits := by
    refine ⟨short, ?_⟩
    show (Arena.tabulate 1 fun _ => segment).capacity ≤ 65536
    rw [Arena.capacity_tabulate]
    decide
  intro i l there
  have place := lt_of_list? there
  rw [crowded, Layout.list?_tabulate _ place] at there
  split at there
  · cases there
    exact fits (by decide) ..
  · cases there
    exact fits (by decide) ..
  · cases there
    exact fits (by decide) ..
  · cases there

theorem exists_refused_crowded : ∃ reserved e,
    reserveLists AddressSpace.empty.placement crowded = .ok reserved
      ∧ reserved.result = .error e ∧ reserved.config.base? 1 ≠ crowded.base? 1 := by
  have computed : ((reserveLists AddressSpace.empty.placement crowded).toOption.any fun reserved =>
      reserved.result.toOption.isNone && reserved.config.base? 1 ≠ crowded.base? 1) = true := by
    decide +kernel
  obtain ⟨reserved, answers, computed⟩ := exists_ok_of_any computed
  rw [Bool.and_eq_true, decide_eq_true_iff] at computed
  obtain ⟨refused, away⟩ := computed
  cases result : reserved.result with
  | ok reservations =>
    rw [result] at refused
    cases refused
  | error e => exact ⟨reserved, e, answers, result, away⟩

/-- A table is read, reserving for it is refused, and a list is left where its range was. -/
theorem refused_reservation_moves_list : ∃ region reserved e, Layout.read region = .ok crowded
    ∧ reserveLists AddressSpace.empty.placement crowded = .ok reserved
    ∧ reserved.result = .error e ∧ reserved.config ≠ crowded := by
  obtain ⟨region, found⟩ := Layout.exists_read fits_crowded
  obtain ⟨reserved, e, answers, refused, away⟩ := exists_refused_crowded
  exact ⟨region, reserved, e, found, answers, refused, fun same => away (by rw [same])⟩

theorem refused_reservation_crowded : ∃ reserved e wanted,
    reserveLists AddressSpace.empty.placement crowded = .ok reserved ∧ reserved.result = .error e
      ∧ wantedRanges crowded = .ok wanted
      ∧ ¬∀ r ∈ grants AddressSpace.empty.placement [] wanted, r.isAtBase crowded = true := by
  obtain ⟨reserved, e, answers, refused, away⟩ := exists_refused_crowded
  obtain ⟨wanted, asking, -, -, -, unchanged⟩ := refused_reservation answers refused
  exact ⟨reserved, e, wanted, answers, refused, asking, fun atBase =>
    away (by rw [unchanged.2 atBase])⟩

end MemConfig

end Passthrough
