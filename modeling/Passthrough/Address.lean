import Passthrough.Fault
import Passthrough.Text.Digits

/-!
# Passthrough — physical and virtual addresses

A physical address names a place in memory or in a device's registers, a virtual address a place in one
address space, the kernel's or a process's.  They are separate types, so that neither can stand where
the other is meant.  Which address space a virtual address belongs to is decided by the field that holds
it.

Going on from an address is checked: `PhysAddr.add_eq` and `VirtAddr.add_eq` say what comes of it.
-/

namespace Passthrough

/-- An address on the memory bus. -/
structure PhysAddr where
  val : UInt64
deriving DecidableEq, Inhabited

/-- An address in some address space; zero is the null address. -/
structure VirtAddr where
  val : UInt64
deriving DecidableEq, Inhabited

namespace PhysAddr

/-- The address `offset` bytes further on. -/
def add (a : PhysAddr) (offset : UInt64) : Checked PhysAddr :=
  (addChecked a.val offset).map PhysAddr.mk

theorem add_eq (a : PhysAddr) (offset : UInt64) :
    a.add offset = if a.val.toNat + offset.toNat < UInt64.size then .ok ⟨a.val + offset⟩
      else .error .overflow := by
  show (if a.val.toNat + offset.toNat < UInt64.size then _ else _ : Checked UInt64).map _ = _
  split <;> rfl

theorem add_eq_ok_iff {a b : PhysAddr} {offset : UInt64} :
    a.add offset = .ok b ↔ a.val.toNat + offset.toNat < UInt64.size ∧ b = ⟨a.val + offset⟩ := by
  rw [add_eq]
  by_cases room : a.val.toNat + offset.toNat < UInt64.size
  · rw [if_pos room, and_iff_right room, Except.ok.injEq, eq_comm]
  · rw [if_neg room]
    exact iff_of_false nofun fun h => room h.1

def toText (a : PhysAddr) : String := Text.word64 a.val

def describe (a : PhysAddr) : String := "PA(" ++ a.toText ++ ")"

end PhysAddr

namespace VirtAddr

/-- The address `offset` bytes further on. -/
def add (a : VirtAddr) (offset : UInt64) : Checked VirtAddr :=
  (addChecked a.val offset).map VirtAddr.mk

theorem add_eq (a : VirtAddr) (offset : UInt64) :
    a.add offset = if a.val.toNat + offset.toNat < UInt64.size then .ok ⟨a.val + offset⟩
      else .error .overflow := by
  show (if a.val.toNat + offset.toNat < UInt64.size then _ else _ : Checked UInt64).map _ = _
  split <;> rfl

theorem add_eq_ok_iff {a b : VirtAddr} {offset : UInt64} :
    a.add offset = .ok b ↔ a.val.toNat + offset.toNat < UInt64.size ∧ b = ⟨a.val + offset⟩ := by
  rw [add_eq]
  by_cases room : a.val.toNat + offset.toNat < UInt64.size
  · rw [if_pos room, and_iff_right room, Except.ok.injEq, eq_comm]
  · rw [if_neg room]
    exact iff_of_false nofun fun h => room h.1

def null : VirtAddr := ⟨0⟩

def isNull (a : VirtAddr) : Bool := a.val = 0

theorem isNull_iff {a : VirtAddr} : a.isNull = true ↔ a = null := by
  obtain ⟨val⟩ := a
  rw [isNull, null, decide_eq_true_iff, mk.injEq]

def toText (a : VirtAddr) : String := Text.word64 a.val

def describe (a : VirtAddr) : String := "VA(" ++ a.toText ++ ")"

end VirtAddr

end Passthrough
