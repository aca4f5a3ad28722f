import Passthrough.Sharing.FileContent
import Passthrough.Sharing.Path
import Passthrough.SystemError

/-!
# Passthrough — the file store

Directories and files by their names, the contents of the files, and who has locked which.  A file
lives apart from its name: a handle keeps it after the name is removed.  A lock belongs to a handle and
goes with it; at most one handle of a file has it.

* `FileStore.walk` — the directory that names lead to.
* `FileStore.createDirectory`, `openFile` — operations on paths.
* `FileStore.tryLock`, `close` — operations on handles.
-/

namespace Passthrough

/-- What a name stands for. -/
inductive FileNode where
  | directory
  | file (id : Nat)
deriving DecidableEq

/-- An open file. -/
structure FileHandle where
  file : Nat
  number : Nat
deriving DecidableEq

/-- Directories, files and locks. -/
structure FileStore where
  /-- What is at the end of each sequence of names; the empty sequence is the root directory. -/
  nodes : List (List String × FileNode)
  /-- The contents of the files, by number. -/
  contents : Array FileContent
  /-- The handles that have a lock. -/
  locks : List FileHandle
  /-- The number of the next handle. -/
  nextHandle : Nat

/-- The last step of a path. -/
inductive LastStep where
  /-- A name in a directory. -/
  | name (directory : List String) (name : String)
  /-- A directory that the walk has reached already. -/
  | reached (directory : List String)

namespace FileStore

def empty : FileStore := ⟨[], #[], [], 0⟩

def longestName : Nat := 255

def longestPath : Nat := 4095

/-- What is at the end of `names`. -/
def node? (s : FileStore) (names : List String) : Option FileNode :=
  if names = [] then some .directory else (s.nodes.find? fun n => n.1 = names).map (·.2)

/-! ## Walking paths -/

/-- The directory that names lead to from a directory. -/
def walk (s : FileStore) (directory : List String) : List String → Except SystemError (List String)
  | [] => .ok directory
  | name :: names =>
    if name = "." then s.walk directory names
    else if name = ".." then s.walk directory.dropLast names
    else if longestName < name.utf8ByteSize then .error .nameTooLong
    else match s.node? (directory ++ [name]) with
      | none => .error .notFound
      | some (.file _) => .error .notADirectory
      | some .directory => s.walk (directory ++ [name]) names

/-- Walk to the last step of a path. -/
def lastStep (s : FileStore) (path : String) : Except SystemError LastStep :=
  if path.toList.contains '\x00' then .error .nulInName
  else if path.isEmpty then .error .notFound
  else if longestPath < path.utf8ByteSize then .error .nameTooLong
  else match (Path.names path).getLast? with
    | none => .ok (.reached [])
    | some last => do
      let directory ← s.walk [] (Path.names path).dropLast
      if last = "." ∨ last = ".." then (s.walk directory [last]).map .reached
      else .ok (.name directory last)

/-! ## Names -/

def createDirectory (s : FileStore) (path : String) : Except SystemError FileStore := do
  match ← s.lastStep path with
  | .reached _ => .error .alreadyExists
  | .name directory last =>
    if longestName < last.utf8ByteSize then .error .nameTooLong
    else match s.node? (directory ++ [last]) with
      | some _ => .error .alreadyExists
      | none => .ok { s with nodes := (directory ++ [last], .directory) :: s.nodes }

/-- The file at a path and the store with it; a file that is not there is made, empty. -/
def touch (s : FileStore) (path : String) : Except SystemError (Nat × FileStore) := do
  match ← s.lastStep path with
  | .reached _ => .error .isADirectory
  | .name directory last =>
    if Path.endsInSlash path then .error .isADirectory
    else if longestName < last.utf8ByteSize then .error .nameTooLong
    else match s.node? (directory ++ [last]) with
      | some .directory => .error .isADirectory
      | some (.file id) => .ok (id, s)
      | none =>
        let id := s.contents.size
        .ok (id, { s with
          nodes := (directory ++ [last], .file id) :: s.nodes
          contents := s.contents.push .empty })

/-- Open the file at a path, which is made if it is not there. -/
def openFile (s : FileStore) (path : String) : Except SystemError (FileHandle × FileStore) := do
  let (file, s) ← s.touch path
  .ok (⟨file, s.nextHandle⟩, { s with nextHandle := s.nextHandle + 1 })

/-! ## Contents -/

def content (s : FileStore) (file : Nat) : FileContent := s.contents.getD file .empty

def modify (s : FileStore) (file : Nat) (f : FileContent → FileContent) : FileStore :=
  { s with contents := s.contents.modify file f }

/-! ## Locks -/

/-- Take the lock of a file, unless another handle has it. -/
def tryLock (s : FileStore) (h : FileHandle) : Option FileStore :=
  if s.locks.any fun l => l.file = h.file && l.number ≠ h.number then none
  else some { s with locks := h :: s.locks }

def close (s : FileStore) (h : FileHandle) : FileStore :=
  { s with locks := s.locks.filter (· ≠ h) }

end FileStore

end Passthrough
