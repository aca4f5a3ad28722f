import Passthrough.Pci.Address
import Passthrough.Proofs.Text.Decimal
import Passthrough.Proofs.Text.Numbers

/-!
# Passthrough — what the name of a driver instance tells

Processes find the driver of a function by its name, so the name has to tell functions apart.  It is read
from its end: the numbers of device and function stand in the last four places, and what is left of the
digits is the number of the bus, however many they are.

```text
 netuio_  0130  17  01      bus 130, device 17, function 1
 netuio_ 13017  00  01      bus 13017, device 0, function 1
          4 ..  2   2       digits
```

The last two fields are only as narrow as that for numbers below 100.

* `Spells`, `eq_toText_iff` — a name in its parts, and that no other text has these parts.
* `Spells.address_eq` — parts of the same lengths that make the same text are those of one address.
* `splitOn_link`, `splitOn_userPath` — the name is the last component of both paths.
* `identifies_address` — names, links and paths tell addresses apart.
-/

namespace Passthrough

/-- The numbers of device and function have two digits at most. -/
def RequestAddress.TwoDigits (a : RequestAddress) : Prop := a.device < 100 ∧ a.function < 100

namespace InstanceName

open Text (IsDecimal isDecimal_decimal isDecimal_iff splitOn_append_cons splitOn_of_not_mem)

variable {m n : InstanceName} {text bus device function : List Char}

/-! ## The parts of a name -/

/-- The text is the name of `n`, and `bus`, `device` and `function` are the digits in it. -/
structure Spells (n : InstanceName) (text bus device function : List Char) : Prop where
  text_eq : text = "netuio_".toList ++ bus ++ device ++ function
  bus : IsDecimal 4 n.address.bus.toNat bus
  device : IsDecimal 2 n.address.device.toNat device
  function : IsDecimal 2 n.address.function.toNat function

theorem toList_toText (n : InstanceName) :
    n.toText.toList = "netuio_".toList ++ (Text.decimal 4 n.address.bus.toNat).toList
      ++ (Text.decimal 2 n.address.device.toNat).toList
      ++ (Text.decimal 2 n.address.function.toNat).toList := by
  simp only [toText, String.toList_append]
  rfl

theorem spells_toText (n : InstanceName) :
    n.Spells n.toText.toList (Text.decimal 4 n.address.bus.toNat).toList
      (Text.decimal 2 n.address.device.toNat).toList
      (Text.decimal 2 n.address.function.toNat).toList where
  text_eq := n.toList_toText
  bus := isDecimal_decimal (by decide) _
  device := isDecimal_decimal (by decide) _
  function := isDecimal_decimal (by decide) _

/-- A name is the only text with its parts. -/
theorem eq_toText_iff {s : String} :
    s = n.toText ↔ ∃ bus device function, n.Spells s.toList bus device function := by
  constructor
  · rintro rfl
    exact ⟨_, _, _, n.spells_toText⟩
  · rintro ⟨bus, device, function, spelled⟩
    rw [← String.toList_inj, spelled.text_eq, toList_toText,
      (isDecimal_iff (by decide)).1 spelled.bus, (isDecimal_iff (by decide)).1 spelled.device,
      (isDecimal_iff (by decide)).1 spelled.function]

namespace Spells

variable {bus' device' function' : List Char}

theorem length_bus_le (spelled : n.Spells text bus device function) : bus.length ≤ 10 := by
  have small := n.address.bus.toNat_lt
  exact spelled.bus.length_le (by decide) (by omega)

theorem length_device (spelled : n.Spells text bus device function) (short : n.address.TwoDigits) :
    device.length = 2 :=
  spelled.device.length_eq (UInt16.lt_iff_toNat_lt.1 short.1)

theorem length_function (spelled : n.Spells text bus device function)
    (short : n.address.TwoDigits) : function.length = 2 :=
  spelled.function.length_eq (UInt16.lt_iff_toNat_lt.1 short.2)

/-- The address can be read from a name if it is known how long the last two fields are. -/
theorem address_eq (spelled : m.Spells text bus device function)
    (spelled' : n.Spells text bus' device' function') (hdevice : device.length = device'.length)
    (hfunction : function.length = function'.length) : m.address = n.address := by
  have same := spelled.text_eq.symm.trans spelled'.text_eq
  -- From the end: what is left after device and function is the number of the bus.
  obtain ⟨upToDevice, rfl⟩ := List.append_inj' same hfunction
  obtain ⟨upToBus, rfl⟩ := List.append_inj' upToDevice hdevice
  obtain rfl := List.append_cancel_left upToBus
  have bus_eq := UInt32.toNat_inj.1 (spelled.bus.value_eq.symm.trans spelled'.bus.value_eq)
  have device_eq := UInt16.toNat_inj.1 (spelled.device.value_eq.symm.trans spelled'.device.value_eq)
  have function_eq :=
    UInt16.toNat_inj.1 (spelled.function.value_eq.symm.trans spelled'.function.value_eq)
  show RequestAddress.mk m.address.bus m.address.device m.address.function = n.address
  rw [bus_eq, device_eq, function_eq]

end Spells

theorem toText_eq_iff (hm : m.address.TwoDigits) (hn : n.address.TwoDigits) :
    m.toText = n.toText ↔ m.address = n.address := by
  constructor
  · intro same
    have spelled := m.spells_toText
    have spelled' := n.spells_toText
    rw [← same] at spelled'
    exact spelled.address_eq spelled' ((spelled.length_device hm).trans (spelled'.length_device hn).symm)
      ((spelled.length_function hm).trans (spelled'.length_function hn).symm)
  · intro same
    rw [toText, toText, same]

/-! ## Links and paths -/

theorem backslash_not_mem_toText (n : InstanceName) : '\\' ∉ n.toText.toList := by
  have spelled := n.spells_toText
  rw [spelled.text_eq]
  simp only [List.mem_append, not_or]
  refine ⟨⟨⟨by decide, fun h => ?_⟩, fun h => ?_⟩, fun h => ?_⟩
  · exact absurd (spelled.bus.isDigit _ h) (by decide)
  · exact absurd (spelled.device.isDigit _ h) (by decide)
  · exact absurd (spelled.function.isDigit _ h) (by decide)

/-- The name is the last component of the link. -/
theorem splitOn_link (n : InstanceName) :
    n.link.toList.splitOn '\\' = [[], "DosDevices".toList, n.toText.toList] := by
  have components : n.link.toList
      = [] ++ '\\' :: ("DosDevices".toList ++ '\\' :: n.toText.toList) := by
    rw [link, String.toList_append]
    rfl
  rw [components, splitOn_append_cons (by decide), splitOn_append_cons (by decide),
    splitOn_of_not_mem n.backslash_not_mem_toText]

/-- The name is the last component of the path that processes open. -/
theorem splitOn_userPath (n : InstanceName) :
    n.userPath.toList.splitOn '\\' = [[], [], ['.'], n.toText.toList] := by
  have components : n.userPath.toList
      = [] ++ '\\' :: ([] ++ '\\' :: (['.'] ++ '\\' :: n.toText.toList)) := by
    rw [userPath, String.toList_append]
    rfl
  rw [components, splitOn_append_cons (by decide), splitOn_append_cons (by decide),
    splitOn_append_cons (by decide), splitOn_of_not_mem n.backslash_not_mem_toText]

theorem link_eq_iff : m.link = n.link ↔ m.toText = n.toText := String.append_right_inj _

theorem userPath_eq_iff : m.userPath = n.userPath ↔ m.toText = n.toText := String.append_right_inj _

/-- **Names tell addresses apart.**  Take two functions on any buses whose numbers of device and function
have two digits at most.

* They have the same name, the same link or the same path only if they are the same function.
* A name is `netuio_` with four to ten digits for the bus and two each for device and function, and it is
  the only text with these parts.
* Link and path lie in their own namespaces and end in the name, which is one component of them. -/
theorem identifies_address (hm : m.address.TwoDigits) (hn : n.address.TwoDigits) :
    ((m.toText = n.toText ↔ m.address = n.address) ∧ (m.link = n.link ↔ m.address = n.address)
        ∧ (m.userPath = n.userPath ↔ m.address = n.address))
      ∧ (∀ s, s = m.toText ↔ ∃ bus device function, m.Spells s.toList bus device function
          ∧ 4 ≤ bus.length ∧ bus.length ≤ 10 ∧ device.length = 2 ∧ function.length = 2)
      ∧ m.link.toList.splitOn '\\' = [[], "DosDevices".toList, m.toText.toList]
      ∧ m.userPath.toList.splitOn '\\' = [[], [], ['.'], m.toText.toList] := by
  have names := toText_eq_iff hm hn
  refine ⟨⟨names, link_eq_iff.trans names, userPath_eq_iff.trans names⟩, ?_, m.splitOn_link,
    m.splitOn_userPath⟩
  intro s
  rw [eq_toText_iff]
  constructor
  · rintro ⟨bus, device, function, spelled⟩
    exact ⟨bus, device, function, spelled, spelled.bus.width_le, spelled.length_bus_le,
      spelled.length_device hm, spelled.length_function hm⟩
  · rintro ⟨bus, device, function, spelled, -⟩
    exact ⟨bus, device, function, spelled⟩

/-- Two functions whose names differ in the order of their digits alone. -/
theorem identifies_address_shifted :
    (InstanceName.mk ⟨130, 17, 1⟩).toText = "netuio_01301701"
      ∧ (InstanceName.mk ⟨130, 17, 1⟩).toText ≠ (InstanceName.mk ⟨1301, 70, 1⟩).toText
      ∧ (InstanceName.mk ⟨130, 17, 1⟩).link ≠ (InstanceName.mk ⟨1301, 70, 1⟩).link
      ∧ (InstanceName.mk ⟨130, 17, 1⟩).userPath ≠ (InstanceName.mk ⟨1301, 70, 1⟩).userPath := by
  have apart : (RequestAddress.mk 130 17 1) ≠ ⟨1301, 70, 1⟩ := by decide
  have bus : IsDecimal 4 130 "0130".toList :=
    ⟨List.all_eq_true.1 (by decide), by decide, by decide, by decide⟩
  have device : IsDecimal 2 17 "17".toList :=
    ⟨List.all_eq_true.1 (by decide), by decide, by decide, by decide⟩
  have function : IsDecimal 2 1 "01".toList :=
    ⟨List.all_eq_true.1 (by decide), by decide, by decide, by decide⟩
  obtain ⟨⟨names, links, paths⟩, spells, -⟩ := identifies_address (m := ⟨⟨130, 17, 1⟩⟩)
    (n := ⟨⟨1301, 70, 1⟩⟩) ⟨by decide, by decide⟩ ⟨by decide, by decide⟩
  have text := (spells "netuio_01301701").2
    ⟨_, _, _, ⟨by decide, bus, device, function⟩, by decide, by decide, by decide, by decide⟩
  exact ⟨text.symm, mt names.1 apart, mt links.1 apart, mt paths.1 apart⟩

/-- A device number of three digits takes its first digit from the bus. -/
example : (InstanceName.mk ⟨1000, 100, 0⟩).toText = (InstanceName.mk ⟨10001, 0, 0⟩).toText := by
  decide

end InstanceName

end Passthrough
