/-!
# Passthrough — failures

What the errors of all parts have in common: a name, by which programs tell them apart, and a text, which
people read.
-/

namespace Passthrough

/-- Errors with a name and a text. -/
class Failure (ε : Type) where
  name : ε → String
  message : ε → String

end Passthrough
