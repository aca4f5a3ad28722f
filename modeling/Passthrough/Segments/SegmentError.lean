import Passthrough.Address
import Passthrough.Failure
import Passthrough.Segments.Arena
import Passthrough.SystemError

/-!
# Passthrough — errors of memory segments

Why a pool could not be stored, a published table not be read or address space not be reserved.
-/

namespace Passthrough

/-- What is wrong with a published table. -/
inductive Corruption where
  | regionTooShort
  | capacityMismatch
  | nameTooLong
  | segmentCount
  | nameEncoding
deriving DecidableEq

def Corruption.reason : Corruption → String
  | .regionTooShort => "region is too short"
  | .capacityMismatch => "capacity mismatch"
  | .nameTooLong => "memseg list name too long"
  | .segmentCount => "segment count out of range"
  | .nameEncoding => "memseg list name is not UTF-8"

/-- Why an operation on memory segments failed. -/
inductive SegmentError where
  /-- Every list is taken. -/
  | noFreeList (size : UInt64)
  /-- The pool has more segments than a list holds. -/
  | poolTooLarge (size : UInt64)
  /-- The pool is smaller than one segment. -/
  | poolTooSmall (size : UInt64)
  /-- The pool has no address in this process. -/
  | unmapped (phys : PhysAddr)
  /-- The table follows another version of the layout. -/
  | versionMismatch (expected found : UInt32)
  /-- The table does not follow the layout. -/
  | corrupt (what : Corruption)
  /-- Address space could not be had. -/
  | reserve (length : UInt64) (reason : SystemError)
  /-- A slot could not be claimed. -/
  | arena (error : ArenaError)
deriving DecidableEq

def SegmentError.name : SegmentError → String
  | .noFreeList _ => "NoFreeList"
  | .poolTooLarge _ => "PoolTooLarge"
  | .poolTooSmall _ => "PoolTooSmall"
  | .unmapped _ => "Unmapped"
  | .versionMismatch .. => "VersionMismatch"
  | .corrupt _ => "Corrupt"
  | .reserve .. => "Reserve"
  | .arena error => "Arena." ++ error.name

def SegmentError.message : SegmentError → String
  | .noFreeList size => "no free memseg list for the pool of " ++ toString size.toNat ++ " bytes"
  | .poolTooLarge size =>
    "pool of " ++ toString size.toNat ++ " bytes does not fit one memseg list"
  | .poolTooSmall size => "pool of " ++ toString size.toNat ++ " bytes holds no segment"
  | .unmapped phys => "pool at " ++ phys.describe ++ " is not mapped into this process"
  | .versionMismatch expected found =>
    "shared configuration has layout version " ++ toString found.toNat ++ ", expected "
      ++ toString expected.toNat
  | .corrupt what => "shared configuration is corrupt: " ++ what.reason
  | .reserve length reason =>
    "cannot reserve " ++ toString length.toNat ++ " bytes of address space: " ++ reason.message
  | .arena error => error.message

instance : Failure SegmentError := ⟨SegmentError.name, SegmentError.message⟩

end Passthrough
