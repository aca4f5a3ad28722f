import Passthrough.Text.Fields

/-!
# Passthrough — paths

A path is a text in which slashes separate names; one that starts with a slash is absolute.

* `Path.join` — a path below another.
* `Path.names` — the names in a path.
-/

namespace Passthrough.Path

def isAbsolute (path : String) : Bool := path.toList.head? = some '/'

/-- The path `leaf` taken from `base`: an absolute one stays as it is, another one stands behind `base`
and a slash, unless `base` is empty or ends with one. -/
def join (base leaf : String) : String :=
  if isAbsolute leaf then leaf
  else match base.toList.getLast? with
    | none => leaf
    | some '/' => base ++ leaf
    | some _ => base ++ "/" ++ leaf

/-- The names in a path; slashes next to each other count as one. -/
def names (path : String) : List String :=
  ((Text.fields '/' path.toList).filter (· ≠ [])).map String.ofList

def endsInSlash (path : String) : Bool := path.toList.getLast? = some '/'

end Passthrough.Path
