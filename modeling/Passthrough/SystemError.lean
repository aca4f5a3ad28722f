import Passthrough.Failure

/-!
# Passthrough — errors of the operating system

The operating system refuses a request with a number; messages show the text that goes with it.
-/

namespace Passthrough

/-- Why the operating system refused a request. -/
inductive SystemError where
  | notFound
  | outOfMemory
  | alreadyExists
  | notADirectory
  | isADirectory
  | invalidArgument
  | nameTooLong
  /-- The name holds NUL and never reached the operating system. -/
  | nulInName
  /-- Any other reason, by its number and text. -/
  | other (code : Nat) (reason : String)
deriving DecidableEq

namespace SystemError

/-- The number of an error, unless the request never reached the operating system. -/
def code? : SystemError → Option Nat
  | .notFound => some 2
  | .outOfMemory => some 12
  | .alreadyExists => some 17
  | .notADirectory => some 20
  | .isADirectory => some 21
  | .invalidArgument => some 22
  | .nameTooLong => some 36
  | .nulInName => none
  | .other code _ => some code

def reason : SystemError → String
  | .notFound => "No such file or directory"
  | .outOfMemory => "Cannot allocate memory"
  | .alreadyExists => "File exists"
  | .notADirectory => "Not a directory"
  | .isADirectory => "Is a directory"
  | .invalidArgument => "Invalid argument"
  | .nameTooLong => "File name too long"
  | .nulInName => "file name contained an unexpected NUL byte"
  | .other _ reason => reason

/-- The name that all errors of the operating system share in programs. -/
def name (_ : SystemError) : String := "Io"

def message (e : SystemError) : String :=
  match e.code? with
  | some code => e.reason ++ " (os error " ++ toString code ++ ")"
  | none => e.reason

end SystemError

instance : Failure SystemError := ⟨SystemError.name, SystemError.message⟩

end Passthrough
