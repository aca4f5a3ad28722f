/-!
# Passthrough — pages

Memory comes in pages, and so do files that are mapped.
-/

namespace Passthrough

/-- Bytes of a page of memory. -/
def pageBytes : Nat := 4096

/-- Bytes of the pages that `n` bytes fill or begin to fill. -/
def pagesFor (n : Nat) : Nat := (n + pageBytes - 1) / pageBytes * pageBytes

theorem le_pagesFor (n : Nat) : n ≤ pagesFor n := by
  simp only [pagesFor, pageBytes]
  omega

/-- Where the page begins that `n` is on. -/
def pageOf (n : Nat) : Nat := n / pageBytes * pageBytes

end Passthrough
