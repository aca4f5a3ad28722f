import Passthrough.Discovery.Location
import Passthrough.Fault
import Passthrough.Proofs.Text.Numbers

/-!
# Passthrough — what location texts give

A location text gives bus, device and function by the first numbers of its first three pieces, as long as
only letters and blanks come before each of them.

* `byteOf_of_firstRun` — what is read from a piece with a number in it.
* `Gives`, `parse_eq_ok_iff` — the texts that give an address.
* `parse_text` — locations as platforms write them are read back.
* `reads_first_numbers` — both directions, with what does not matter and what is refused.
* `number_behind_label_iff` — numbers are found behind letters and blanks only.
-/

namespace Passthrough.Location

open Text (FirstRun getElem?_eq_some_three_iff splitOn_append_cons splitOn_of_not_mem)

variable {input : String} {part : IdentityPart} {piece label run rest : List Char}

/-- To decide something of the characters of a text, go through the text rather than through all
characters that there are. -/
local instance (priority := high) decidableForallMem {p : Char → Prop} [DecidablePred p]
    (cs : List Char) : Decidable (∀ c ∈ cs, p c) := List.decidableBAll p cs

/-! ## One piece -/

theorem isLabelChar_eq_false_of_isDigit {c : Char} (digit : c.isDigit = true) :
    isLabelChar c = false := by
  obtain ⟨-, high⟩ := Char.isDigit_iff_toNat.1 digit
  have upper : ¬( 'A'.val ≤ c.val ∧ c.val ≤ 'Z'.val) := fun range =>
    absurd (Nat.le_trans (UInt32.le_iff_toNat_le.1 range.1) high) (by decide)
  have lower : ¬( 'a'.val ≤ c.val) := fun first =>
    absurd (Nat.le_trans (UInt32.le_iff_toNat_le.1 first) high) (by decide)
  have blank : c ≠ ' ' := by
    rintro rfl
    cases digit
  have small : c.isLower = false := Bool.and_eq_false_imp.2 fun first =>
    absurd (of_decide_eq_true first) lower
  have letter : c.isAlpha = false := Bool.or_eq_false_iff.2 ⟨decide_eq_false upper, small⟩
  exact Bool.or_eq_false_iff.2 ⟨letter, decide_eq_false blank⟩

/-- Passing over a label that holds something else ends in the label. -/
theorem not_isDigit_of_head_dropWhile (first : FirstRun Char.isDigit piece label run rest)
    (stray : ¬ ∀ c ∈ label, isLabelChar c = true) :
    ∀ c ∈ (piece.dropWhile isLabelChar).head?, c.isDigit = false := by
  have some : label.dropWhile isLabelChar ≠ [] := mt List.dropWhile_eq_nil_iff.1 stray
  obtain ⟨d, later, hd⟩ := List.exists_cons_of_ne_nil some
  have member : d ∈ label := (List.dropWhile_sublist _).mem (by rw [hd]; exact List.mem_cons_self)
  rw [first.piece_eq, List.dropWhile_append, hd]
  rintro c ⟨⟩
  exact first.not_before d member

/-- The number of a piece is its first one, if only letters and blanks come before it. -/
theorem byteOf_of_firstRun (first : FirstRun Char.isDigit piece label run rest) :
    byteOf input part (some piece)
      = if ∀ c ∈ label, isLabelChar c = true then
          if Nat.ofDigitChars 10 run 0 < 256 then .ok (UInt8.ofNat (Nat.ofDigitChars 10 run 0))
          else if Nat.ofDigitChars 10 run 0 < UInt64.size then
            .error (.outOfRange part (Nat.ofDigitChars 10 run 0) input)
          else .error (.notANumber part input)
        else .error (.notANumber part input) := by
  unfold byteOf
  dsimp only
  by_cases labelled : ∀ c ∈ label, isLabelChar c = true
  · have first' : FirstRun (Text.isDigit 10) piece label run rest := by
      rw [Text.isDigit_decimal]
      exact first
    rw [if_pos labelled, first.dropWhile_eq labelled fun c => isLabelChar_eq_false_of_isDigit,
      first'.leadingNumber_eq, Text.digitsValue_decimal first.of_run]
    by_cases byte : Nat.ofDigitChars 10 run 0 < 256
    · have word : Nat.ofDigitChars 10 run 0 < UInt64.size := by
        simp only [UInt64.size]
        omega
      rw [if_pos word, if_pos byte]
      exact if_pos byte
    · rw [if_neg byte]
      by_cases word : Nat.ofDigitChars 10 run 0 < UInt64.size
      · rw [if_pos word, if_pos word]
        exact if_neg byte
      · rw [if_neg word, if_neg word]
  · rw [if_neg labelled, Text.leadingNumber_of_head]
    rw [Text.isDigit_decimal]
    exact not_isDigit_of_head_dropWhile first labelled

theorem byteOf_of_no_digit (none : ∀ c ∈ piece, c.isDigit = false) :
    byteOf input part (some piece) = .error (.notANumber part input) := by
  unfold byteOf
  dsimp only
  rw [Text.leadingNumber_of_head]
  rw [Text.isDigit_decimal]
  intro c hc
  exact none c ((List.dropWhile_sublist _).mem (List.mem_of_mem_head? hc))

/-- The piece gives `b`: that is its first number, and only letters and blanks come before it. -/
def Gives (piece : List Char) (b : UInt8) : Prop :=
  ∃ label run rest, FirstRun Char.isDigit piece label run rest
    ∧ (∀ c ∈ label, isLabelChar c = true) ∧ Nat.ofDigitChars 10 run 0 = b.toNat

theorem byteOf_eq_ok_iff {piece? : Option (List Char)} {b : UInt8} :
    byteOf input part piece? = .ok b ↔ ∃ piece, piece? = some piece ∧ Gives piece b := by
  cases piece? with
  | none => simp [byteOf]
  | some piece =>
    by_cases number : ∃ c ∈ piece, c.isDigit = true
    · obtain ⟨label, run, rest, first⟩ := Text.exists_firstRun_iff.2 number
      rw [byteOf_of_firstRun first]
      constructor
      · intro given
        split at given
        · next labelled =>
          split at given
          · next byte =>
            cases given
            refine ⟨piece, rfl, label, run, rest, first, labelled, ?_⟩
            rw [UInt8.toNat_ofNat', Nat.mod_eq_of_lt byte]
          · split at given <;> cases given
        · cases given
      · rintro ⟨_, ⟨⟩, label', run', rest', other, labelled, value⟩
        obtain ⟨rfl, rfl, rfl⟩ := first.unique other
        rw [if_pos labelled, value, if_pos b.toNat_lt, UInt8.ofNat_toNat]
    · have none : ∀ c ∈ piece, c.isDigit = false := by simpa using number
      rw [byteOf_of_no_digit none]
      constructor
      · intro given
        cases given
      · rintro ⟨_, ⟨⟩, label, run, rest, first, -⟩
        exact absurd (Text.exists_firstRun_iff.1 ⟨label, run, rest, first⟩) number

/-! ## The whole text -/

theorem parse_of_unmarked (unmarked : ¬ marker.toList <:+: input.toList) :
    parse input = .error (.notPci input) := by
  unfold parse
  rw [if_neg (mt Text.contains_iff.1 unmarked)]

theorem parse_of_marked (marked : marker.toList <:+: input.toList) :
    parse input = (do
      let bus ← byteOf input .bus (input.toList.splitOn ',')[0]?
      let device ← byteOf input .device (input.toList.splitOn ',')[1]?
      let function ← byteOf input .function (input.toList.splitOn ',')[2]?
      .ok ⟨0, bus, device, function⟩) := by
  unfold parse
  rw [if_pos (Text.contains_iff.2 marked), Text.fields_eq_splitOn]

/-- **What gives an address.** -/
theorem parse_eq_ok_iff {a : FunctionAddress} :
    parse input = .ok a ↔ marker.toList <:+: input.toList ∧ a.domain = 0
      ∧ ∃ t₁ t₂ t₃ more, input.toList.splitOn ',' = t₁ :: t₂ :: t₃ :: more
        ∧ Gives t₁ a.bus ∧ Gives t₂ a.device ∧ Gives t₃ a.function := by
  by_cases marked : marker.toList <:+: input.toList
  · rw [parse_of_marked marked]
    simp only [bind_eq_ok_iff, byteOf_eq_ok_iff]
    constructor
    · rintro ⟨bus, ⟨t₁, h₁, bus_eq⟩, device, ⟨t₂, h₂, device_eq⟩, function, ⟨t₃, h₃, function_eq⟩, ⟨⟩⟩
      obtain ⟨more, pieces⟩ := getElem?_eq_some_three_iff.1 ⟨h₁, h₂, h₃⟩
      exact ⟨marked, rfl, t₁, t₂, t₃, more, pieces, bus_eq, device_eq, function_eq⟩
    · rintro ⟨-, domain, t₁, t₂, t₃, more, pieces, bus, device, function⟩
      obtain ⟨h₁, h₂, h₃⟩ := getElem?_eq_some_three_iff.2 ⟨more, pieces⟩
      refine ⟨a.bus, ⟨t₁, h₁, bus⟩, a.device, ⟨t₂, h₂, device⟩, a.function, ⟨t₃, h₃, function⟩, ?_⟩
      rw [← domain]
  · rw [parse_of_unmarked marked]
    constructor
    · intro given
      cases given
    · exact fun given => absurd given.1 marked

/-! ## What does not matter -/

theorem number_zeros_append (zeros : Nat) (run : List Char) :
    Nat.ofDigitChars 10 (List.replicate zeros '0' ++ run) 0 = Nat.ofDigitChars 10 run 0 := by
  induction zeros with
  | zero => rfl
  | succ zeros ih =>
    rw [List.replicate_succ, List.cons_append, Nat.ofDigitChars_cons]
    exact ih

/-- Digits behind zeros are a run of digits where the digits alone are one. -/
theorem firstRun_zeros (first : FirstRun Char.isDigit piece label run rest) (zeros : Nat)
    {rest' : List Char} (ends : ∀ c ∈ rest'.head?, c.isDigit = false) :
    FirstRun Char.isDigit (label ++ (List.replicate zeros '0' ++ run ++ rest')) label
      (List.replicate zeros '0' ++ run) rest' where
  piece_eq := rfl
  not_before := first.not_before
  run_ne_nil := List.append_ne_nil_of_right_ne_nil _ first.run_ne_nil
  of_run := by
    intro c hc
    rcases List.mem_append.1 hc with hc | hc
    · rw [List.eq_of_mem_replicate hc]
      rfl
    · exact first.of_run c hc
  not_after := ends

/-- The pieces start alike, and their first numbers differ by leading zeros at most. -/
def StartsAlike (t t' : List Char) : Prop :=
  ∃ label run rest zeros rest', FirstRun Char.isDigit t label run rest
    ∧ FirstRun Char.isDigit t' label (List.replicate zeros '0' ++ run) rest'

/-- The second piece is the first with more zeros before its first number. -/
def Padded (t t' : List Char) : Prop :=
  ∃ label run rest zeros, FirstRun Char.isDigit t label run rest
    ∧ t' = label ++ (List.replicate zeros '0' ++ run ++ rest)

theorem Padded.startsAlike {t t' : List Char} (padded : Padded t t') : StartsAlike t t' := by
  obtain ⟨label, run, rest, zeros, first, rfl⟩ := padded
  exact ⟨label, run, rest, zeros, rest, first, firstRun_zeros first zeros first.not_after⟩

theorem Gives.of_startsAlike {t t' : List Char} {b : UInt8} (given : Gives t b)
    (alike : StartsAlike t t') : Gives t' b := by
  obtain ⟨label, run, rest, first, labelled, value⟩ := given
  obtain ⟨label', run', rest', zeros, rest'', first', first''⟩ := alike
  obtain ⟨rfl, rfl, rfl⟩ := first.unique first'
  exact ⟨label', _, rest'', first'', labelled, by rw [number_zeros_append, value]⟩

theorem not_isDigit_of_mem_marker {c : Char} (hc : c ∈ marker.toList) : c.isDigit = false := by
  have letters : ∀ c ∈ marker.toList, c.isDigit = false := by decide
  exact letters c hc

/-- The marker does not overlap with a run of digits. -/
theorem marker_infix_iff (first : FirstRun Char.isDigit piece label run rest) :
    marker.toList <:+: piece ↔ marker.toList <:+: label ∨ marker.toList <:+: rest := by
  rw [first.piece_eq]
  refine Text.infix_append_run_iff first.run_ne_nil fun c hc absurd => ?_
  have digit := first.of_run c hc
  rw [not_isDigit_of_mem_marker absurd] at digit
  cases digit

theorem Padded.marker_infix_iff {t t' : List Char} (padded : Padded t t') :
    marker.toList <:+: t' ↔ marker.toList <:+: t := by
  obtain ⟨label, run, rest, zeros, first, rfl⟩ := padded
  rw [Location.marker_infix_iff first,
    Location.marker_infix_iff (firstRun_zeros first zeros first.not_after)]

/-- The marker lies in a text exactly if it lies in one of its pieces. -/
theorem marker_infix_pieces_iff :
    marker.toList <:+: input.toList ↔ ∃ t ∈ input.toList.splitOn ',', marker.toList <:+: t := by
  rw [← Text.fields_eq_splitOn]
  exact Text.infix_fields_iff (by decide) _

/-- What follows the numbers, further pieces and leading zeros do not change the address. -/
theorem parse_of_startsAlike {a : FunctionAddress} {input' : String}
    {t₁ t₂ t₃ t₁' t₂' t₃' : List Char} {more more' : List (List Char)} (given : parse input = .ok a)
    (marked : marker.toList <:+: input'.toList)
    (pieces : input.toList.splitOn ',' = t₁ :: t₂ :: t₃ :: more)
    (pieces' : input'.toList.splitOn ',' = t₁' :: t₂' :: t₃' :: more')
    (alike₁ : StartsAlike t₁ t₁') (alike₂ : StartsAlike t₂ t₂') (alike₃ : StartsAlike t₃ t₃') :
    parse input' = .ok a := by
  obtain ⟨-, domain, u₁, u₂, u₃, others, same, bus, device, function⟩ := parse_eq_ok_iff.1 given
  rw [pieces] at same
  cases same
  exact parse_eq_ok_iff.2 ⟨marked, domain, t₁', t₂', t₃', more', pieces', bus.of_startsAlike alike₁,
    device.of_startsAlike alike₂, function.of_startsAlike alike₃⟩

/-! ## Numbers that are too large -/

/-- A piece whose first number is too large gives nothing. -/
theorem not_gives_of_large (first : FirstRun Char.isDigit piece label run rest)
    (large : 255 < Nat.ofDigitChars 10 run 0) (b : UInt8) : ¬ Gives piece b := by
  rintro ⟨label', run', rest', other, -, value⟩
  obtain ⟨rfl, rfl, rfl⟩ := first.unique other
  have small := b.toNat_lt
  omega

/-- An error that names a value names the first number of the piece, in full. -/
theorem value_of_byteOf {piece? : Option (List Char)} {part' : IdentityPart} {n : Nat}
    {input' : String} (failed : byteOf input part piece? = .error (.outOfRange part' n input')) :
    part' = part ∧ ∃ piece label run rest, piece? = some piece
      ∧ FirstRun Char.isDigit piece label run rest ∧ n = Nat.ofDigitChars 10 run 0 ∧ 255 < n := by
  cases piece? with
  | none => cases failed
  | some piece =>
    by_cases number : ∃ c ∈ piece, c.isDigit = true
    · obtain ⟨label, run, rest, first⟩ := Text.exists_firstRun_iff.2 number
      rw [byteOf_of_firstRun first] at failed
      split at failed
      · split at failed
        · cases failed
        · next large =>
          split at failed
          · cases failed
            exact ⟨rfl, piece, label, run, rest, rfl, first, rfl, by omega⟩
          · cases failed
      · cases failed
    · have none : ∀ c ∈ piece, c.isDigit = false := by simpa using number
      rw [byteOf_of_no_digit none] at failed
      cases failed

/-- What is read, in the order of the pieces it is read from. -/
def parts : List IdentityPart := [.bus, .device, .function]

/-- A text with the marker fails at one of its pieces. -/
theorem exists_failed_piece {e : IdentityError} (marked : marker.toList <:+: input.toList)
    (failed : parse input = .error e) :
    ∃ (k : Nat) (part : IdentityPart), parts[k]? = some part
      ∧ byteOf input part (input.toList.splitOn ',')[k]? = .error e := by
  rw [parse_of_marked marked] at failed
  rcases error_of_bind failed with failed | ⟨bus, -, failed⟩
  · exact ⟨0, .bus, rfl, failed⟩
  rcases error_of_bind failed with failed | ⟨device, -, failed⟩
  · exact ⟨1, .device, rfl, failed⟩
  rcases error_of_bind failed with failed | ⟨function, -, failed⟩
  · exact ⟨2, .function, rfl, failed⟩
  · cases failed

theorem value_of_parse {n : Nat} {input' : String}
    (failed : parse input = .error (.outOfRange part n input')) :
    ∃ (k : Nat) (piece label run rest : List Char), parts[k]? = some part
      ∧ (input.toList.splitOn ',')[k]? = some piece
      ∧ FirstRun Char.isDigit piece label run rest ∧ n = Nat.ofDigitChars 10 run 0 ∧ 255 < n := by
  by_cases marked : marker.toList <:+: input.toList
  · obtain ⟨k, part', there, failed⟩ := exists_failed_piece marked failed
    obtain ⟨rfl, piece, label, run, rest, found, first, value⟩ := value_of_byteOf failed
    exact ⟨k, piece, label, run, rest, there, found, first, value⟩
  · rw [parse_of_unmarked marked] at failed
    cases failed

/-! ## Writing a location -/

/-- The number `n` behind zeros, and then `tail`. -/
def numeral (zeros : Nat) (n : UInt8) (tail : String) : String :=
  String.ofList (List.replicate zeros '0') ++ toString n.toNat ++ tail

/-- The tail ends a number, and the piece goes on to its end. -/
def EndsNumber (tail : String) : Prop :=
  ',' ∉ tail.toList ∧ ∀ c ∈ tail.toList.head?, c.isDigit = false

theorem toList_numeral (zeros : Nat) (n : UInt8) (tail : String) :
    (numeral zeros n tail).toList
      = List.replicate zeros '0' ++ Nat.toDigits 10 n.toNat ++ tail.toList := by
  simp only [numeral, String.toList_append, String.toList_ofList, Nat.toString_eq_repr, Nat.toList_repr]

theorem gives_numeral {label : List Char} (labelled : ∀ c ∈ label, isLabelChar c = true)
    {tail : String} (ends : EndsNumber tail) (zeros : Nat) (n : UInt8) :
    Gives (label ++ (numeral zeros n tail).toList) n := by
  have digits : FirstRun Char.isDigit (label ++ (Nat.toDigits 10 n.toNat ++ tail.toList)) label
      (Nat.toDigits 10 n.toNat) tail.toList := by
    refine ⟨rfl, ?_, Nat.toDigits_ne_nil, ?_, ends.2⟩
    · intro c hc
      by_contra digit
      have stray := isLabelChar_eq_false_of_isDigit (Bool.not_eq_false _ ▸ digit)
      rw [labelled c hc] at stray
      cases stray
    · exact fun c => Nat.isDigit_of_mem_toDigits (by decide) (by decide)
  rw [toList_numeral]
  refine ⟨label, _, tail.toList, firstRun_zeros digits zeros ends.2, labelled, ?_⟩
  rw [number_zeros_append, Nat.ofDigitChars_toDigits (by decide) (by decide)]

theorem comma_not_mem_numeral {tail : String} (ends : EndsNumber tail) (zeros : Nat) (n : UInt8) :
    ',' ∉ (numeral zeros n tail).toList := by
  rw [toList_numeral, List.mem_append, List.mem_append]
  rintro ((comma | comma) | comma)
  · cases List.eq_of_mem_replicate comma
  · cases Nat.isDigit_of_mem_toDigits (by decide) (by decide) comma
  · exact ends.1 comma

/-- A location as platforms write it gives the numbers in it. -/
theorem parse_text (b d f : UInt8) (z₁ z₂ z₃ : Nat) {u₁ u₂ u₃ : String} (ends₁ : EndsNumber u₁)
    (ends₂ : EndsNumber u₂) (ends₃ : EndsNumber u₃) :
    parse ("PCI bus " ++ numeral z₁ b u₁ ++ ", device " ++ numeral z₂ d u₂ ++ ", function "
      ++ numeral z₃ f u₃) = .ok ⟨0, b, d, f⟩ := by
  have toList : ("PCI bus " ++ numeral z₁ b u₁ ++ ", device " ++ numeral z₂ d u₂ ++ ", function "
        ++ numeral z₃ f u₃).toList
      = ("PCI bus ".toList ++ (numeral z₁ b u₁).toList) ++ ',' :: ((" device ".toList
          ++ (numeral z₂ d u₂).toList) ++ ',' :: (" function ".toList
            ++ (numeral z₃ f u₃).toList)) := by
    simp [String.toList_append]
  have apart {label : List Char} {n : UInt8} {z : Nat} {u : String} (ends : EndsNumber u)
      (plain : ',' ∉ label) : ',' ∉ label ++ (numeral z n u).toList := by
    rw [List.mem_append]
    exact not_or.2 ⟨plain, comma_not_mem_numeral ends z n⟩
  have bus : Gives ("PCI bus ".toList ++ _) b := gives_numeral (by decide) ends₁ z₁ b
  have device : Gives (" device ".toList ++ _) d := gives_numeral (by decide) ends₂ z₂ d
  have function : Gives (" function ".toList ++ _) f := gives_numeral (by decide) ends₃ z₃ f
  refine parse_eq_ok_iff.2 ⟨?_, rfl, _, _, _, [], ?_, bus, device, function⟩
  · rw [toList]
    exact ⟨[], _, rfl⟩
  · rw [toList, splitOn_append_cons (apart ends₁ (by decide)),
      splitOn_append_cons (apart ends₂ (by decide)), splitOn_of_not_mem (apart ends₃ (by decide))]

/-! ## Both directions -/

/-- **Location texts are read soundly.**

* A text that gives an address holds the marker and has three pieces.  The domain is 0, and bus, device and
  function are the values of the first runs of decimal digits in the three pieces, in full.
* What follows these runs and what further pieces there are has no influence, nor have zeros before a
  run.  The marker has to stand somewhere, and putting zeros in does not take it away.
* A number above 255 in one of the three pieces is refused, however long it is.  If the error names the
  number, it names the whole of it.
* Any three bytes, each behind zeros and with something behind it, are read back from a location. -/
theorem reads_first_numbers :
    (∀ s a, parse s = .ok a →
        marker.toList <:+: s.toList ∧ a.domain = 0
          ∧ ∃ t₁ t₂ t₃ more, s.toList.splitOn ',' = t₁ :: t₂ :: t₃ :: more
            ∧ Gives t₁ a.bus ∧ Gives t₂ a.device ∧ Gives t₃ a.function
            ∧ (∀ s' t₁' t₂' t₃' more', marker.toList <:+: s'.toList →
                s'.toList.splitOn ',' = t₁' :: t₂' :: t₃' :: more' →
                StartsAlike t₁ t₁' → StartsAlike t₂ t₂' → StartsAlike t₃ t₃' → parse s' = .ok a)
            ∧ ∀ s' t₁' t₂' t₃', s'.toList.splitOn ',' = t₁' :: t₂' :: t₃' :: more →
                Padded t₁ t₁' → Padded t₂ t₂' → Padded t₃ t₃' → parse s' = .ok a)
      ∧ (∀ s t₁ t₂ t₃ more t label run rest, s.toList.splitOn ',' = t₁ :: t₂ :: t₃ :: more →
          t ∈ [t₁, t₂, t₃] → FirstRun Char.isDigit t label run rest →
          255 < Nat.ofDigitChars 10 run 0 → ∃ e, parse s = .error e)
      ∧ (∀ s part n s', parse s = .error (.outOfRange part n s') →
          ∃ (k : Nat) (t label run rest : List Char), parts[k]? = some part
            ∧ (s.toList.splitOn ',')[k]? = some t ∧ FirstRun Char.isDigit t label run rest
            ∧ n = Nat.ofDigitChars 10 run 0 ∧ 255 < n)
      ∧ ∀ (b d f : UInt8) (z₁ z₂ z₃ : Nat) (u₁ u₂ u₃ : String), EndsNumber u₁ → EndsNumber u₂ →
          EndsNumber u₃ → parse ("PCI bus " ++ numeral z₁ b u₁ ++ ", device " ++ numeral z₂ d u₂
            ++ ", function " ++ numeral z₃ f u₃) = .ok ⟨0, b, d, f⟩ := by
  refine ⟨?_, ?_, fun _ _ _ _ => value_of_parse, fun b d f z₁ z₂ z₃ u₁ u₂ u₃ => parse_text b d f z₁ z₂ z₃⟩
  · intro s a given
    obtain ⟨marked, domain, t₁, t₂, t₃, more, pieces, bus, device, function⟩ := parse_eq_ok_iff.1 given
    refine ⟨marked, domain, t₁, t₂, t₃, more, pieces, bus, device, function, ?_, ?_⟩
    · intro s' t₁' t₂' t₃' more' marked' pieces' alike₁ alike₂ alike₃
      exact parse_of_startsAlike given marked' pieces pieces' alike₁ alike₂ alike₃
    · intro s' t₁' t₂' t₃' pieces' padded₁ padded₂ padded₃
      refine parse_of_startsAlike given ?_ pieces pieces' padded₁.startsAlike padded₂.startsAlike
        padded₃.startsAlike
      rw [marker_infix_pieces_iff, pieces] at marked
      rw [marker_infix_pieces_iff, pieces']
      simpa [padded₁.marker_infix_iff, padded₂.marker_infix_iff, padded₃.marker_infix_iff] using marked
  · intro s t₁ t₂ t₃ more t label run rest pieces member first large
    cases result : parse s with
    | error e => exact ⟨e, rfl⟩
    | ok a =>
      obtain ⟨-, -, u₁, u₂, u₃, others, same, bus, device, function⟩ := parse_eq_ok_iff.1 result
      rw [pieces] at same
      cases same
      simp only [List.mem_cons, List.not_mem_nil, or_false] at member
      rcases member with rfl | rfl | rfl
      · exact absurd bus (not_gives_of_large first large _)
      · exact absurd device (not_gives_of_large first large _)
      · exact absurd function (not_gives_of_large first large _)

/-- A bus number behind three zeros, with the slot behind it in brackets. -/
theorem reads_first_numbers_slot :
    parse "PCI bus 0005 (slot 2), device 0, function 3" = .ok ⟨0, 5, 0, 3⟩ := by
  have plain : EndsNumber "" := ⟨by decide, nofun⟩
  have slot : EndsNumber " (slot 2)" := by
    refine ⟨by decide, ?_⟩
    rintro _ ⟨⟩
    rfl
  have text := reads_first_numbers.2.2.2 5 0 3 3 0 0 " (slot 2)" "" "" slot plain plain
  have same : "PCI bus " ++ numeral 3 5 " (slot 2)" ++ ", device " ++ numeral 0 0 "" ++ ", function "
      ++ numeral 0 3 "" = "PCI bus 0005 (slot 2), device 0, function 3" := by decide
  rwa [same] at text

/-! ## Labels -/

theorem isLabelChar_iff {c : Char} : isLabelChar c = true ↔ c.isAlpha = true ∨ c = ' ' := by
  simp [isLabelChar]

/-- Of a number that fits a byte, only what comes before it decides whether it is found. -/
theorem byteOf_of_small (first : FirstRun Char.isDigit piece label run rest) {b : UInt8}
    (value : Nat.ofDigitChars 10 run 0 = b.toNat) :
    byteOf input part (some piece)
      = if ∀ c ∈ label, isLabelChar c = true then .ok b else .error (.notANumber part input) := by
  rw [byteOf_of_firstRun first, value, if_pos b.toNat_lt, UInt8.ofNat_toNat]

/-- **The number of a piece is found behind letters and blanks, and behind nothing else.**  Take a text
with the marker whose first three pieces have numbers that fit a byte.  These are the bus, the device and
the function exactly if nothing but letters and blanks comes before each of them.  Otherwise the text is
refused for want of a number in the first piece where something else does. -/
theorem number_behind_label_iff {s : String} {t₁ t₂ t₃ l₁ l₂ l₃ r₁ r₂ r₃ e₁ e₂ e₃ : List Char}
    {more : List (List Char)} {b d f : UInt8} (marked : marker.toList <:+: s.toList)
    (pieces : s.toList.splitOn ',' = t₁ :: t₂ :: t₃ :: more)
    (first₁ : FirstRun Char.isDigit t₁ l₁ r₁ e₁) (first₂ : FirstRun Char.isDigit t₂ l₂ r₂ e₂)
    (first₃ : FirstRun Char.isDigit t₃ l₃ r₃ e₃) (bus : Nat.ofDigitChars 10 r₁ 0 = b.toNat)
    (device : Nat.ofDigitChars 10 r₂ 0 = d.toNat) (function : Nat.ofDigitChars 10 r₃ 0 = f.toNat) :
    (parse s = .ok ⟨0, b, d, f⟩ ↔ ∀ c ∈ l₁ ++ l₂ ++ l₃, c.isAlpha = true ∨ c = ' ')
      ∧ parse s = if ∀ c ∈ l₁, isLabelChar c = true then
          if ∀ c ∈ l₂, isLabelChar c = true then
            if ∀ c ∈ l₃, isLabelChar c = true then .ok ⟨0, b, d, f⟩
            else .error (.notANumber .function s)
          else .error (.notANumber .device s)
        else .error (.notANumber .bus s) := by
  have result : parse s = if ∀ c ∈ l₁, isLabelChar c = true then
      if ∀ c ∈ l₂, isLabelChar c = true then
        if ∀ c ∈ l₃, isLabelChar c = true then .ok ⟨0, b, d, f⟩
        else .error (.notANumber .function s)
      else .error (.notANumber .device s)
    else .error (.notANumber .bus s) := by
    obtain ⟨at₁, at₂, at₃⟩ := getElem?_eq_some_three_iff.2 ⟨more, pieces⟩
    rw [parse_of_marked marked, at₁, at₂, at₃, byteOf_of_small first₁ bus,
      byteOf_of_small first₂ device, byteOf_of_small first₃ function]
    by_cases h₁ : ∀ c ∈ l₁, isLabelChar c = true
    · by_cases h₂ : ∀ c ∈ l₂, isLabelChar c = true
      · by_cases h₃ : ∀ c ∈ l₃, isLabelChar c = true
        · rw [if_pos h₁, if_pos h₂, if_pos h₃, if_pos h₁, if_pos h₂, if_pos h₃]
          rfl
        · rw [if_pos h₁, if_pos h₂, if_neg h₃, if_pos h₁, if_pos h₂, if_neg h₃]
          rfl
      · rw [if_pos h₁, if_neg h₂, if_pos h₁, if_neg h₂]
        rfl
    · rw [if_neg h₁, if_neg h₁]
      rfl
  refine ⟨?_, result⟩
  simp only [List.mem_append, or_imp, forall_and, ← isLabelChar_iff]
  rw [result]
  constructor
  · intro given
    split at given
    · next h₁ =>
      split at given
      · next h₂ =>
        split at given
        · next h₃ => exact ⟨⟨h₁, h₂⟩, h₃⟩
        · cases given
      · cases given
    · cases given
  · rintro ⟨⟨h₁, h₂⟩, h₃⟩
    rw [if_pos h₁, if_pos h₂, if_pos h₃]

/-- The location of a plain bus, and that of a bus with a hyphen in its name. -/
theorem number_behind_label_iff_hyphen :
    parse "PCI bus 5, device 0, function 1" = .ok ⟨0, 5, 0, 1⟩
      ∧ parse "PCI-Express bus 5, device 0, function 1"
        = .error (.notANumber .bus "PCI-Express bus 5, device 0, function 1") := by
  have device : FirstRun Char.isDigit " device 0".toList " device ".toList ['0'] [] :=
    ⟨by decide, by decide, by decide, by decide, nofun⟩
  have function : FirstRun Char.isDigit " function 1".toList " function ".toList ['1'] [] :=
    ⟨by decide, by decide, by decide, by decide, nofun⟩
  constructor
  · have bus : FirstRun Char.isDigit "PCI bus 5".toList "PCI bus ".toList ['5'] [] :=
      ⟨by decide, by decide, by decide, by decide, nofun⟩
    have pieces : "PCI bus 5, device 0, function 1".toList.splitOn ','
        = ["PCI bus 5".toList, " device 0".toList, " function 1".toList] := by decide
    exact (number_behind_label_iff (b := 5) (d := 0) (f := 1) ⟨[], _, rfl⟩ pieces bus device function
      (by decide) (by decide) (by decide)).1.2 (by decide)
  · have bus : FirstRun Char.isDigit "PCI-Express bus 5".toList "PCI-Express bus ".toList ['5'] [] :=
      ⟨by decide, by decide, by decide, by decide, nofun⟩
    have pieces : "PCI-Express bus 5, device 0, function 1".toList.splitOn ','
        = ["PCI-Express bus 5".toList, " device 0".toList, " function 1".toList] := by decide
    rw [(number_behind_label_iff (b := 5) (d := 0) (f := 1) ⟨[], _, rfl⟩ pieces bus device function
      (by decide) (by decide) (by decide)).2, if_neg (by decide)]

/-- Three numbers that fit a byte are not enough: one behind a hyphen is not found. -/
theorem exists_number_not_found :
    ¬ ∀ (s : String) (t₁ t₂ t₃ l₁ l₂ l₃ r₁ r₂ r₃ e₁ e₂ e₃ : List Char) (more : List (List Char))
        (b d f : UInt8), marker.toList <:+: s.toList → s.toList.splitOn ',' = t₁ :: t₂ :: t₃ :: more →
        FirstRun Char.isDigit t₁ l₁ r₁ e₁ → FirstRun Char.isDigit t₂ l₂ r₂ e₂ →
        FirstRun Char.isDigit t₃ l₃ r₃ e₃ → Nat.ofDigitChars 10 r₁ 0 = b.toNat →
        Nat.ofDigitChars 10 r₂ 0 = d.toNat → Nat.ofDigitChars 10 r₃ 0 = f.toNat →
        parse s = .ok ⟨0, b, d, f⟩ := by
  intro found
  have ok := found "PCI-Express bus 5, device 0, function 0" "PCI-Express bus 5".toList
    " device 0".toList " function 0".toList "PCI-Express bus ".toList " device ".toList
    " function ".toList ['5'] ['0'] ['0'] [] [] [] [] 5 0 0 ⟨[], _, rfl⟩ (by decide)
    ⟨by decide, by decide, by decide, by decide, nofun⟩
    ⟨by decide, by decide, by decide, by decide, nofun⟩
    ⟨by decide, by decide, by decide, by decide, nofun⟩ (by decide) (by decide) (by decide)
  have refused : parse "PCI-Express bus 5, device 0, function 0"
      = .error (.notANumber .bus "PCI-Express bus 5, device 0, function 0") := by decide
  rw [refused] at ok
  cases ok

end Passthrough.Location
