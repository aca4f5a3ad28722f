import Passthrough.Discovery.HardwareId
import Passthrough.Fault
import Passthrough.Proofs.Text.Hexadecimal

/-!
# Passthrough — what hardware identities give

A hardware identity gives its numbers by the values that stand behind the underscores of its first three
pieces.

```text
 PCI \ VEN_8086 & DEV_153A & SUBSYS_00008086 & REV_04
 lead  key value  key value  key    value      tail
```

* `Laid` — where the three values of a text are.
* `Gives`, `wordOf_eq_ok_iff` — the number of a value.
* `Halved`, `GivesPair` — the two numbers of the third value.
* `parse_eq_ok_iff` — the texts that give numbers.
* `laid_of_written` — where the values of a written identity are.
* `inverts_written` — both directions, and that no number is cut.
-/

namespace Passthrough.HardwareId

open Text (FirstRun IsHex)

variable {input : String} {part : IdentityPart} {value front run rest : List Char}

/-! ## One value -/

/-- The number of the value is `w`: what its first run of hexadecimal digits stands for, in full. -/
def Gives (value : List Char) (w : UInt16) : Prop :=
  ∃ front run rest, FirstRun (Text.isDigit 16) value front run rest
    ∧ Text.digitsValue 16 run = w.toNat

/-- Whatever comes before its first run of digits, the number of a value is found. -/
theorem wordOf_of_firstRun (first : FirstRun (Text.isDigit 16) value front run rest) :
    wordOf input part value
      = if Text.digitsValue 16 run < 65536 then .ok (UInt16.ofNat (Text.digitsValue 16 run))
        else if Text.digitsValue 16 run < UInt64.size then
          .error (.outOfRange part (Text.digitsValue 16 run) input)
        else .error (.notANumber part input) := by
  have passed : value.dropWhile (fun c => !Text.isDigit 16 c) = run ++ rest :=
    first.dropWhile_eq (by simpa using first.not_before) (by simp)
  unfold wordOf
  rw [passed, first.leadingNumber_eq]
  by_cases small : Text.digitsValue 16 run < 65536
  · have word : Text.digitsValue 16 run < UInt64.size := by
      simp only [UInt64.size]
      omega
    rw [if_pos word, if_pos small]
    exact if_pos small
  · rw [if_neg small]
    by_cases word : Text.digitsValue 16 run < UInt64.size
    · rw [if_pos word, if_pos word]
      exact if_neg small
    · rw [if_neg word, if_neg word]

theorem wordOf_of_no_digit (none : ∀ c ∈ value, Text.isDigit 16 c = false) :
    wordOf input part value = .error (.notANumber part input) := by
  have passed : value.dropWhile (fun c => !Text.isDigit 16 c) = [] := by
    simpa using none
  unfold wordOf
  rw [passed]
  rfl

theorem wordOf_eq_ok_iff {w : UInt16} : wordOf input part value = .ok w ↔ Gives value w := by
  by_cases number : ∃ c ∈ value, Text.isDigit 16 c = true
  · obtain ⟨front, run, rest, first⟩ := Text.exists_firstRun_iff.2 number
    rw [wordOf_of_firstRun first]
    constructor
    · intro given
      split at given
      · next small =>
        cases given
        refine ⟨front, run, rest, first, ?_⟩
        rw [UInt16.toNat_ofNat', Nat.mod_eq_of_lt small]
      · split at given <;> cases given
    · rintro ⟨front', run', rest', other, hvalue⟩
      obtain ⟨rfl, rfl, rfl⟩ := first.unique other
      rw [hvalue, if_pos w.toNat_lt, UInt16.ofNat_toNat]
  · have none : ∀ c ∈ value, Text.isDigit 16 c = false := by simpa using number
    rw [wordOf_of_no_digit none]
    constructor
    · intro given
      cases given
    · rintro ⟨front, run, rest, first, -⟩
      exact absurd (Text.exists_firstRun_iff.1 ⟨front, run, rest, first⟩) number

/-- A value whose first run of digits stands for too large a number gives nothing. -/
theorem not_gives_of_large (first : FirstRun (Text.isDigit 16) value front run rest)
    (large : 65535 < Text.digitsValue 16 run) (w : UInt16) : ¬Gives value w := by
  rintro ⟨front', run', rest', other, hvalue⟩
  obtain ⟨rfl, rfl, rfl⟩ := first.unique other
  have hw := w.toNat_lt
  omega

/-- An error that names a number names that of the first run of digits, in full. -/
theorem value_of_wordOf {part' : IdentityPart} {n : Nat} {input' : String}
    (failed : wordOf input part value = .error (.outOfRange part' n input')) :
    part' = part ∧ input' = input ∧ 65535 < n ∧ ∃ front run rest,
      FirstRun (Text.isDigit 16) value front run rest ∧ n = Text.digitsValue 16 run := by
  by_cases number : ∃ c ∈ value, Text.isDigit 16 c = true
  · obtain ⟨front, run, rest, first⟩ := Text.exists_firstRun_iff.2 number
    rw [wordOf_of_firstRun first] at failed
    split at failed
    · cases failed
    · next large =>
      split at failed
      · cases failed
        exact ⟨rfl, rfl, by omega, front, run, rest, first, rfl⟩
      · cases failed
  · rw [wordOf_of_no_digit (by simpa using number)] at failed
    cases failed

/-! ## The subsystem -/

/-- The value consists of two parts of four bytes each. -/
def Halved (value high low : List Char) : Prop :=
  value = high ++ low ∧ (String.ofList high).utf8ByteSize = 4 ∧ (String.ofList low).utf8ByteSize = 4

theorem halves_eq_some_iff {high low : List Char} :
    halves value = some (high, low) ↔ Halved value high low := by
  unfold halves Halved
  simp only [← Text.byteLength_eq]
  by_cases eight : Text.byteLength value = 8
  · rw [if_pos eight, Text.cutBytes_eq_some_iff]
    refine and_congr_right fun hcut => ?_
    rw [hcut, Text.byteLength_append] at eight
    omega
  · rw [if_neg eight]
    simp only [reduceCtorEq, false_iff]
    rintro ⟨hcut, hhigh, hlow⟩
    rw [hcut, Text.byteLength_append] at eight
    omega

/-- There is only one place to cut. -/
theorem Halved.unique {high low high' low' : List Char} (halved : Halved value high low)
    (other : Halved value high' low') : high' = high ∧ low' = low := by
  have same := (halves_eq_some_iff.2 other).symm.trans (halves_eq_some_iff.2 halved)
  cases same
  exact ⟨rfl, rfl⟩

/-- The numbers of the subsystem's value are `device` and `vendor`: those of its halves, or that of the
whole and none. -/
def GivesPair (value : List Char) (device vendor : UInt16) : Prop :=
  (∃ high low, Halved value high low ∧ Gives high device ∧ Gives low vendor)
    ∨ (¬∃ high low, Halved value high low) ∧ Gives value device ∧ vendor = 0

theorem subsystemOf_of_halved {high low : List Char} (halved : Halved value high low) :
    subsystemOf input value = (do
      let device ← wordOf input .subsystemDeviceId high
      let vendor ← wordOf input .subsystemVendorId low
      .ok (device, vendor)) := by
  unfold subsystemOf
  rw [halves_eq_some_iff.2 halved]

theorem subsystemOf_of_whole (whole : ¬∃ high low, Halved value high low) :
    subsystemOf input value = (do
      let device ← wordOf input .subsystemDeviceId value
      .ok (device, 0)) := by
  have none : halves value = none := by
    rw [Option.eq_none_iff_forall_ne_some]
    rintro ⟨high, low⟩ hcut
    exact whole ⟨high, low, halves_eq_some_iff.1 hcut⟩
  unfold subsystemOf
  rw [none]

theorem subsystemOf_eq_ok_iff {device vendor : UInt16} :
    subsystemOf input value = .ok (device, vendor) ↔ GivesPair value device vendor := by
  by_cases halved : ∃ high low, Halved value high low
  · obtain ⟨high, low, cut⟩ := halved
    rw [subsystemOf_of_halved cut]
    simp only [bind_eq_ok_iff, wordOf_eq_ok_iff]
    constructor
    · rintro ⟨_, hdevice, _, hvendor, ⟨⟩⟩
      exact .inl ⟨high, low, cut, hdevice, hvendor⟩
    · rintro (⟨high', low', cut', hdevice, hvendor⟩ | ⟨whole, -⟩)
      · obtain ⟨rfl, rfl⟩ := cut.unique cut'
        exact ⟨device, hdevice, vendor, hvendor, rfl⟩
      · exact absurd ⟨high, low, cut⟩ whole
  · rw [subsystemOf_of_whole halved]
    simp only [bind_eq_ok_iff, wordOf_eq_ok_iff]
    constructor
    · rintro ⟨_, hdevice, ⟨⟩⟩
      exact .inr ⟨halved, hdevice, rfl⟩
    · rintro (⟨high, low, cut, -⟩ | ⟨-, hdevice, rfl⟩)
      · exact absurd ⟨high, low, cut⟩ halved
      · exact ⟨device, hdevice, rfl⟩

/-! ## The whole text -/

/-- The list behind the first backslash has three pieces, and `vendor`, `device` and `subsystem` stand
behind their first underscores. -/
def Laid (cs vendor device subsystem : List Char) : Prop :=
  ∃ list p₁ p₂ p₃ more, (cs.splitOn '\\')[1]? = some list
    ∧ list.splitOn '&' = p₁ :: p₂ :: p₃ :: more ∧ (p₁.splitOn '_')[1]? = some vendor
    ∧ (p₂.splitOn '_')[1]? = some device ∧ (p₃.splitOn '_')[1]? = some subsystem

theorem valueOf_eq_ok_iff {piece? : Option (List Char)} :
    valueOf input part piece? = .ok value
      ↔ ∃ piece, piece? = some piece ∧ (piece.splitOn '_')[1]? = some value := by
  unfold valueOf
  simp only [Text.fields_eq_splitOn]
  cases hvalue : piece?.bind fun cs => (cs.splitOn '_')[1]? with
  | none =>
    rw [Option.bind_eq_none_iff] at hvalue
    simp only [reduceCtorEq, false_iff]
    rintro ⟨piece, hpiece, hsecond⟩
    rw [hvalue piece hpiece] at hsecond
    cases hsecond
  | some found =>
    rw [← Option.bind_eq_some_iff, hvalue]
    simp

theorem valueOf_of_error {piece? : Option (List Char)} {e : IdentityError}
    (failed : valueOf input part piece? = .error e) : e = .missing part input := by
  unfold valueOf at failed
  split at failed
  · cases failed
  · cases failed
    rfl

theorem parse_of_laid {vendor device subsystem : List Char}
    (laid : Laid input.toList vendor device subsystem) :
    parse input = (do
      let (subsystemDevice, subsystemVendor) ← subsystemOf input subsystem
      let vendor ← wordOf input .vendorId vendor
      let device ← wordOf input .deviceId device
      .ok { vendor, device, subsystemVendor, subsystemDevice }) := by
  obtain ⟨list, p₁, p₂, p₃, more, hlist, hpieces, hvendor, hdevice, hsubsystem⟩ := laid
  obtain ⟨h₁, h₂, h₃⟩ := Text.getElem?_eq_some_three_iff.2 ⟨more, hpieces⟩
  have vendor_eq : valueOf input .vendorId (list.splitOn '&')[0]? = .ok vendor :=
    valueOf_eq_ok_iff.2 ⟨p₁, h₁, hvendor⟩
  have device_eq : valueOf input .deviceId (list.splitOn '&')[1]? = .ok device :=
    valueOf_eq_ok_iff.2 ⟨p₂, h₂, hdevice⟩
  have subsystem_eq : valueOf input .subsystemId (list.splitOn '&')[2]? = .ok subsystem :=
    valueOf_eq_ok_iff.2 ⟨p₃, h₃, hsubsystem⟩
  unfold parse
  simp only [Text.fields_eq_splitOn, hlist, vendor_eq, device_eq, subsystem_eq]
  rfl

/-- A text whose values are not laid out lacks one of them. -/
theorem laid_or_missing (input : String) :
    (∃ vendor device subsystem, Laid input.toList vendor device subsystem)
      ∨ ∃ part, parse input = .error (.missing part input) := by
  unfold parse
  simp only [Text.fields_eq_splitOn]
  cases hlist : (input.toList.splitOn '\\')[1]? with
  | none => exact .inr ⟨.idList, rfl⟩
  | some list =>
    dsimp only
    -- The values are looked for in turn, and the first that is not there is the error.
    cases hvendor : valueOf input .vendorId (list.splitOn '&')[0]? with
    | error e => exact .inr ⟨.vendorId, by rw [valueOf_of_error hvendor]; rfl⟩
    | ok vendor =>
      cases hdevice : valueOf input .deviceId (list.splitOn '&')[1]? with
      | error e => exact .inr ⟨.deviceId, by rw [valueOf_of_error hdevice]; rfl⟩
      | ok device =>
        cases hsubsystem : valueOf input .subsystemId (list.splitOn '&')[2]? with
        | error e => exact .inr ⟨.subsystemId, by rw [valueOf_of_error hsubsystem]; rfl⟩
        | ok subsystem =>
          obtain ⟨p₁, h₁, hvendor⟩ := valueOf_eq_ok_iff.1 hvendor
          obtain ⟨p₂, h₂, hdevice⟩ := valueOf_eq_ok_iff.1 hdevice
          obtain ⟨p₃, h₃, hsubsystem⟩ := valueOf_eq_ok_iff.1 hsubsystem
          obtain ⟨more, hpieces⟩ := Text.getElem?_eq_some_three_iff.1 ⟨h₁, h₂, h₃⟩
          exact .inl ⟨vendor, device, subsystem, list, p₁, p₂, p₃, more, hlist, hpieces, hvendor,
            hdevice, hsubsystem⟩

/-- Of a text whose values are laid out, the values alone decide. -/
theorem parse_eq_ok_iff_of_laid {vendor device subsystem : List Char}
    (laid : Laid input.toList vendor device subsystem) {id : HardwareId} :
    parse input = .ok id ↔ Gives vendor id.vendor ∧ Gives device id.device
      ∧ GivesPair subsystem id.subsystemDevice id.subsystemVendor := by
  rw [parse_of_laid laid]
  simp only [bind_eq_ok_iff, wordOf_eq_ok_iff]
  constructor
  · rintro ⟨⟨_, _⟩, hsubsystem, _, hvendor, _, hdevice, ⟨⟩⟩
    exact ⟨hvendor, hdevice, subsystemOf_eq_ok_iff.1 hsubsystem⟩
  · rintro ⟨hvendor, hdevice, hsubsystem⟩
    exact ⟨(_, _), subsystemOf_eq_ok_iff.2 hsubsystem, _, hvendor, _, hdevice, rfl⟩

/-- **What gives numbers.** -/
theorem parse_eq_ok_iff {id : HardwareId} :
    parse input = .ok id ↔ ∃ vendor device subsystem, Laid input.toList vendor device subsystem
      ∧ Gives vendor id.vendor ∧ Gives device id.device
      ∧ GivesPair subsystem id.subsystemDevice id.subsystemVendor := by
  constructor
  · intro given
    rcases laid_or_missing input with ⟨vendor, device, subsystem, laid⟩ | ⟨part, missing⟩
    · exact ⟨vendor, device, subsystem, laid, (parse_eq_ok_iff_of_laid laid).1 given⟩
    · rw [missing] at given
      cases given
  · rintro ⟨vendor, device, subsystem, laid, numbers⟩
    exact (parse_eq_ok_iff_of_laid laid).2 numbers

/-! ## Numbers that are too large -/

/-- Which of the numbers is read from which text. -/
inductive ReadFrom (vendor device subsystem : List Char) : IdentityPart → List Char → Prop where
  | vendor : ReadFrom vendor device subsystem .vendorId vendor
  | device : ReadFrom vendor device subsystem .deviceId device
  | high {high low : List Char} (halved : Halved subsystem high low) :
      ReadFrom vendor device subsystem .subsystemDeviceId high
  | low {high low : List Char} (halved : Halved subsystem high low) :
      ReadFrom vendor device subsystem .subsystemVendorId low
  | whole (whole : ¬∃ high low, Halved subsystem high low) :
      ReadFrom vendor device subsystem .subsystemDeviceId subsystem

/-- What is read from gives a number, if the text gives any. -/
theorem exists_gives_of_readFrom {vendor device subsystem : List Char}
    (readFrom : ReadFrom vendor device subsystem part value) {id : HardwareId}
    (hvendor : Gives vendor id.vendor) (hdevice : Gives device id.device)
    (pair : GivesPair subsystem id.subsystemDevice id.subsystemVendor) : ∃ w, Gives value w := by
  cases readFrom with
  | vendor => exact ⟨_, hvendor⟩
  | device => exact ⟨_, hdevice⟩
  | high halved =>
    rcases pair with ⟨high', low', halved', hhigh, -⟩ | ⟨whole, -⟩
    · obtain ⟨rfl, -⟩ := halved.unique halved'
      exact ⟨_, hhigh⟩
    · exact absurd ⟨_, _, halved⟩ whole
  | low halved =>
    rcases pair with ⟨high', low', halved', -, hlow⟩ | ⟨whole, -⟩
    · obtain ⟨-, rfl⟩ := halved.unique halved'
      exact ⟨_, hlow⟩
    · exact absurd ⟨_, _, halved⟩ whole
  | whole whole =>
    rcases pair with ⟨high, low, halved, -⟩ | ⟨-, hwhole, -⟩
    · exact absurd ⟨high, low, halved⟩ whole
    · exact ⟨_, hwhole⟩

theorem exists_error_of_large {vendor device subsystem : List Char}
    (laid : Laid input.toList vendor device subsystem)
    (readFrom : ReadFrom vendor device subsystem part value)
    (first : FirstRun (Text.isDigit 16) value front run rest)
    (large : 65535 < Text.digitsValue 16 run) : ∃ e, parse input = .error e := by
  cases result : parse input with
  | error e => exact ⟨e, rfl⟩
  | ok id =>
    obtain ⟨hvendor, hdevice, pair⟩ := (parse_eq_ok_iff_of_laid laid).1 result
    obtain ⟨w, given⟩ := exists_gives_of_readFrom readFrom hvendor hdevice pair
    exact absurd given (not_gives_of_large first large w)

/-- The error of a text whose values are laid out is that of a text that a number is read from. -/
theorem exists_readFrom_of_error {vendor device subsystem : List Char}
    (laid : Laid input.toList vendor device subsystem) {e : IdentityError}
    (failed : parse input = .error e) :
    ∃ part value, ReadFrom vendor device subsystem part value ∧ wordOf input part value = .error e := by
  rw [parse_of_laid laid] at failed
  rcases error_of_bind failed with failed | ⟨⟨_, _⟩, -, failed⟩
  · by_cases halved : ∃ high low, Halved subsystem high low
    · obtain ⟨high, low, cut⟩ := halved
      rw [subsystemOf_of_halved cut] at failed
      rcases error_of_bind failed with failed | ⟨_, -, failed⟩
      · exact ⟨_, high, .high cut, failed⟩
      rcases error_of_bind failed with failed | ⟨_, -, ⟨⟩⟩
      exact ⟨_, low, .low cut, failed⟩
    · rw [subsystemOf_of_whole halved] at failed
      rcases error_of_bind failed with failed | ⟨_, -, ⟨⟩⟩
      exact ⟨_, subsystem, .whole halved, failed⟩
  rcases error_of_bind failed with failed | ⟨_, -, failed⟩
  · exact ⟨_, vendor, .vendor, failed⟩
  rcases error_of_bind failed with failed | ⟨_, -, ⟨⟩⟩
  exact ⟨_, device, .device, failed⟩

/-- An error that names a number names the whole of it. -/
theorem value_of_parse {n : Nat} {input' : String}
    (failed : parse input = .error (.outOfRange part n input')) :
    input' = input ∧ 65535 < n ∧ ∃ vendor device subsystem value front run rest,
      Laid input.toList vendor device subsystem ∧ ReadFrom vendor device subsystem part value
        ∧ FirstRun (Text.isDigit 16) value front run rest ∧ n = Text.digitsValue 16 run := by
  rcases laid_or_missing input with ⟨vendor, device, subsystem, laid⟩ | ⟨part', missing⟩
  · obtain ⟨part', value, readFrom, failed⟩ := exists_readFrom_of_error laid failed
    obtain ⟨rfl, rfl, large, front, run, rest, first, hn⟩ := value_of_wordOf failed
    exact ⟨rfl, large, vendor, device, subsystem, value, front, run, rest, laid, readFrom, first, hn⟩
  · rw [missing] at failed
    cases failed

/-! ## Writing an identity -/

/-- None of the characters at which identities are cut is in the text. -/
def Plain (cs : List Char) : Prop := ∀ c ∈ cs, c ≠ '\\' ∧ c ≠ '&' ∧ c ≠ '_'

instance (cs : List Char) : Decidable (Plain cs) :=
  List.decidableBAll (fun c => c ≠ '\\' ∧ c ≠ '&' ∧ c ≠ '_') cs

/-- The text ends the value before it, if there is a value before it. -/
def EndsValue (tail : List Char) : Prop := ∀ c ∈ tail.head?, c = '\\' ∨ c = '&' ∨ c = '_'

theorem Plain.append {cs ds : List Char} (hcs : Plain cs) (hds : Plain ds) : Plain (cs ++ ds) := by
  intro c hc
  rcases List.mem_append.1 hc with hc | hc
  · exact hcs c hc
  · exact hds c hc

theorem plain_of_isHex {width n : Nat} {t : List Char} (hex : IsHex width n t) : Plain t := by
  intro c hc
  have digit := hex.isDigit c hc
  refine ⟨?_, ?_, ?_⟩ <;> rintro rfl <;> cases digit

/-- Behind a value that is ended there is nothing before the next cut. -/
theorem EndsValue.takeWhile_eq_nil {tail : List Char} (ends : EndsValue tail) :
    ((tail.takeWhile (· != '\\')).takeWhile (· != '&')).takeWhile (· != '_') = [] := by
  cases tail with
  | nil => rfl
  | cons c tail => rcases ends c rfl with rfl | rfl | rfl <;> rfl

/-- A key and a value, as they stand in a list. -/
def entry (key value : List Char) : List Char := key ++ '_' :: value

theorem backslash_not_mem_entry {key value : List Char} (hkey : Plain key) (hvalue : Plain value) :
    '\\' ∉ entry key value := by
  intro hc
  rcases List.mem_append.1 hc with hc | hc
  · exact (hkey _ hc).1 rfl
  · rcases List.mem_cons.1 hc with hc | hc
    · cases hc
    · exact (hvalue _ hc).1 rfl

theorem ampersand_not_mem_entry {key value : List Char} (hkey : Plain key) (hvalue : Plain value) :
    '&' ∉ entry key value := by
  intro hc
  rcases List.mem_append.1 hc with hc | hc
  · exact (hkey _ hc).2.1 rfl
  · rcases List.mem_cons.1 hc with hc | hc
    · cases hc
    · exact (hvalue _ hc).2.1 rfl

theorem Plain.underscore_not_mem {cs : List Char} (plain : Plain cs) : '_' ∉ cs :=
  fun hc => (plain _ hc).2.2 rfl

/-- The value of an entry is what follows the key, up to the next underscore. -/
theorem second_entry {key value : List Char} (hkey : Plain key) (hvalue : Plain value)
    (tail : List Char) :
    ((entry key value ++ tail).splitOn '_')[1]? = some (value ++ tail.takeWhile (· != '_')) := by
  obtain ⟨more, hmore⟩ := Text.exists_splitOn_append hvalue.underscore_not_mem tail
  rw [entry, List.append_assoc, List.cons_append,
    Text.splitOn_append_cons hkey.underscore_not_mem, hmore]
  rfl

/-- **Where the values of a written identity are.** -/
theorem laid_of_written {lead k₁ k₂ k₃ t₁ t₂ t₃ tail : List Char} (hlead : '\\' ∉ lead)
    (hk₁ : Plain k₁) (ht₁ : Plain t₁) (hk₂ : Plain k₂) (ht₂ : Plain t₂) (hk₃ : Plain k₃)
    (ht₃ : Plain t₃) (ends : EndsValue tail) :
    Laid (lead ++ '\\' :: (entry k₁ t₁ ++ '&' :: (entry k₂ t₂ ++ '&' :: entry k₃ t₃) ++ tail))
      t₁ t₂ t₃ := by
  have noBackslash : '\\' ∉ entry k₁ t₁ ++ '&' :: (entry k₂ t₂ ++ '&' :: entry k₃ t₃) := by
    simp [backslash_not_mem_entry, *]
  -- The list goes on to the next backslash, and its third piece to the next ampersand.
  obtain ⟨behind, hbehind⟩ := Text.exists_splitOn_append noBackslash tail
  obtain ⟨more, hmore⟩ := Text.exists_splitOn_append (ampersand_not_mem_entry hk₃ ht₃)
    (tail.takeWhile (· != '\\'))
  have hpieces : (entry k₁ t₁ ++ '&' :: (entry k₂ t₂ ++ '&' :: entry k₃ t₃)
        ++ tail.takeWhile (· != '\\')).splitOn '&'
      = entry k₁ t₁ :: entry k₂ t₂
        :: (entry k₃ t₃ ++ (tail.takeWhile (· != '\\')).takeWhile (· != '&')) :: more := by
    rw [List.append_assoc, List.cons_append, List.append_assoc, List.cons_append,
      Text.splitOn_append_cons (ampersand_not_mem_entry hk₁ ht₁),
      Text.splitOn_append_cons (ampersand_not_mem_entry hk₂ ht₂), hmore]
  refine ⟨_, _, _, _, more, ?_, hpieces, ?_, ?_, ?_⟩
  · rw [Text.splitOn_append_cons hlead, hbehind]
    rfl
  · simpa using second_entry hk₁ ht₁ []
  · simpa using second_entry hk₂ ht₂ []
  · rw [second_entry hk₃ ht₃, ends.takeWhile_eq_nil, List.append_nil]

/-! ## Both directions -/

theorem gives_of_isHex {w : UInt16} {t : List Char} (hex : IsHex 4 w.toNat t) : Gives t w := by
  have length := hex.length_eq (by decide) w.toNat_lt
  refine ⟨[], t, [], ⟨by simp, by simp, ?_, hex.isDigit, by simp⟩, hex.digitsValue_eq⟩
  rintro rfl
  cases length

theorem halved_of_isHex {d v : UInt16} {t u : List Char} (ht : IsHex 4 d.toNat t)
    (hu : IsHex 4 v.toNat u) : Halved (t ++ u) t u := by
  have four {w : UInt16} {t : List Char} (hex : IsHex 4 w.toNat t) :
      (String.ofList t).utf8ByteSize = 4 := by
    rw [← Text.byteLength_eq, Text.byteLength_of_isDigit hex.isDigit]
    exact hex.length_eq (by decide) w.toNat_lt
  exact ⟨rfl, four ht, four hu⟩

/-- An identity as platforms write it gives the numbers in it. -/
theorem parse_written (v d sd sv : UInt16) {lead k₁ k₂ k₃ t₁ t₂ t₃ t₄ tail : String}
    (hlead : '\\' ∉ lead.toList) (hk₁ : Plain k₁.toList) (hk₂ : Plain k₂.toList)
    (hk₃ : Plain k₃.toList) (ht₁ : IsHex 4 v.toNat t₁.toList) (ht₂ : IsHex 4 d.toNat t₂.toList)
    (ht₃ : IsHex 4 sd.toNat t₃.toList) (ht₄ : IsHex 4 sv.toNat t₄.toList)
    (ends : EndsValue tail.toList) :
    parse (lead ++ "\\" ++ k₁ ++ "_" ++ t₁ ++ "&" ++ k₂ ++ "_" ++ t₂ ++ "&" ++ k₃ ++ "_" ++ t₃ ++ t₄
      ++ tail) = .ok ⟨v, d, sv, sd⟩ := by
  have toList : (lead ++ "\\" ++ k₁ ++ "_" ++ t₁ ++ "&" ++ k₂ ++ "_" ++ t₂ ++ "&" ++ k₃ ++ "_" ++ t₃
        ++ t₄ ++ tail).toList
      = lead.toList ++ '\\' :: (entry k₁.toList t₁.toList ++ '&' :: (entry k₂.toList t₂.toList
          ++ '&' :: entry k₃.toList (t₃.toList ++ t₄.toList)) ++ tail.toList) := by
    simp [entry]
  have subsystem : Plain (t₃.toList ++ t₄.toList) := (plain_of_isHex ht₃).append (plain_of_isHex ht₄)
  refine parse_eq_ok_iff.2 ⟨t₁.toList, t₂.toList, t₃.toList ++ t₄.toList, ?_, gives_of_isHex ht₁,
    gives_of_isHex ht₂, .inl ⟨t₃.toList, t₄.toList, halved_of_isHex ht₃ ht₄, gives_of_isHex ht₃,
      gives_of_isHex ht₄⟩⟩
  rw [toList]
  exact laid_of_written hlead hk₁ (plain_of_isHex ht₁) hk₂ (plain_of_isHex ht₂) hk₃ subsystem ends

/-- **Hardware identities are read soundly, and what is written is read back.**

* Any four words, written with four hexadecimal digits each, are read back, whatever the keys are, whatever
  stands before the first backslash and whatever follows the last value.
* A text gives numbers exactly if it has its three values and they give them: the first two by their first
  runs of hexadecimal digits, the third by those of its halves if it consists of two times four bytes, and
  else by its own, with no vendor.
* A text that has its values has three pieces with underscores in them at the front of its list.
* A number above 65535 in one of the texts that are read is refused, however long it is.  If the error
  names the number, it names the whole of it. -/
theorem inverts_written :
    (∀ (v d sd sv : UInt16) (lead k₁ k₂ k₃ t₁ t₂ t₃ t₄ tail : String), '\\' ∉ lead.toList →
        Plain k₁.toList → Plain k₂.toList → Plain k₃.toList → IsHex 4 v.toNat t₁.toList →
        IsHex 4 d.toNat t₂.toList → IsHex 4 sd.toNat t₃.toList → IsHex 4 sv.toNat t₄.toList →
        EndsValue tail.toList →
        parse (lead ++ "\\" ++ k₁ ++ "_" ++ t₁ ++ "&" ++ k₂ ++ "_" ++ t₂ ++ "&" ++ k₃ ++ "_" ++ t₃
          ++ t₄ ++ tail) = .ok ⟨v, d, sv, sd⟩)
      ∧ (∀ s id, parse s = .ok id ↔ ∃ vendor device subsystem,
          Laid s.toList vendor device subsystem ∧ Gives vendor id.vendor ∧ Gives device id.device
            ∧ GivesPair subsystem id.subsystemDevice id.subsystemVendor)
      ∧ (∀ cs vendor device subsystem, Laid cs vendor device subsystem →
          ∃ list, (cs.splitOn '\\')[1]? = some list ∧ 3 ≤ (list.splitOn '&').length
            ∧ ∀ piece ∈ (list.splitOn '&').take 3, '_' ∈ piece)
      ∧ (∀ s vendor device subsystem part value front run rest,
          Laid s.toList vendor device subsystem → ReadFrom vendor device subsystem part value →
          FirstRun (Text.isDigit 16) value front run rest → 65535 < Text.digitsValue 16 run →
          ∃ e, parse s = .error e)
      ∧ ∀ s part n s', parse s = .error (.outOfRange part n s') →
          s' = s ∧ 65535 < n ∧ ∃ vendor device subsystem value front run rest,
            Laid s.toList vendor device subsystem ∧ ReadFrom vendor device subsystem part value
              ∧ FirstRun (Text.isDigit 16) value front run rest ∧ n = Text.digitsValue 16 run := by
  refine ⟨?_, fun _ _ => parse_eq_ok_iff, ?_, ?_, fun _ _ _ _ => value_of_parse⟩
  · intro v d sd sv lead k₁ k₂ k₃ t₁ t₂ t₃ t₄ tail
    exact parse_written v d sd sv
  · intro cs vendor device subsystem laid
    obtain ⟨list, p₁, p₂, p₃, more, hlist, hpieces, hvendor, hdevice, hsubsystem⟩ := laid
    refine ⟨list, hlist, ?_, ?_⟩
    · rw [hpieces]
      exact Nat.le_add_left 3 more.length
    · rw [hpieces]
      show ∀ piece ∈ [p₁, p₂, p₃], '_' ∈ piece
      simp [Text.mem_of_splitOn_one hvendor, Text.mem_of_splitOn_one hdevice,
        Text.mem_of_splitOn_one hsubsystem]
  · intro s vendor device subsystem part value front run rest laid readFrom first large
    exact exists_error_of_large laid readFrom first large

/-- A network card, with capital letters in one number and small ones in another. -/
theorem inverts_written_card :
    parse "PCI\\VEN_8086&DEV_153A&SUBSYS_000415b3&REV_04" = .ok ⟨0x8086, 0x153A, 0x15B3, 0x0004⟩ :=
  inverts_written.1 0x8086 0x153A 0x0004 0x15B3 "PCI" "VEN" "DEV" "SUBSYS" "8086" "153A" "0004" "15b3"
    "&REV_04" (by decide) (by decide) (by decide) (by decide) (Text.isHex_hexUpper 4 0x8086)
    (Text.isHex_hexUpper 4 0x153A) (Text.isHex_hexLower 4 0x0004) (Text.isHex_hexLower 4 0x15B3)
    (by rintro _ ⟨⟩; exact .inr (.inl rfl))

end Passthrough.HardwareId
