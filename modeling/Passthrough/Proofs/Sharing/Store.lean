import Passthrough.Sharing.FileStore

/-!
# Passthrough — files at the end of paths

`FileStore.Leads s path id` says that a path leads to the file with number `id`.  A path that leads
somewhere is opened there, and goes on leading there while no name is removed: what happens to contents,
locks and handles does not matter to it, and neither do names that are new.

* `FileStore.touch_of_leads`, `FileStore.exists_openFile_of_leads` — touching and opening a path that leads
  somewhere.
* `FileStore.touch_cases` — touching leaves the store alone or adds one file without a byte.
* `FileStore.tryLock_cases`, `FileStore.close_of_not_mem` — locks, and handles without one.
-/

namespace Passthrough.FileStore

/-- Every name of a file is the name of a file that is there. -/
def Sound (s : FileStore) : Prop := ∀ names id, (names, FileNode.file id) ∈ s.nodes → id < s.contents.size

/-- The path leads to the file with number `id`. -/
def Leads (s : FileStore) (path : String) (id : Nat) : Prop :=
  ∃ directory last, s.lastStep path = .ok (.name directory last)
    ∧ Path.endsInSlash path = false ∧ last.utf8ByteSize ≤ longestName
    ∧ s.node? (directory ++ [last]) = some (.file id)

/-! ## Names that stay -/

theorem walk_of_keeps {s s' : FileStore}
    (keeps : ∀ names, s.node? names = some .directory → s'.node? names = some .directory)
    {names directory result : List String} (h : s.walk directory names = .ok result) :
    s'.walk directory names = .ok result := by
  induction names generalizing directory with
  | nil => exact h
  | cons name names ih =>
    unfold walk at h ⊢
    by_cases here : name = "."
    · rw [if_pos here] at h ⊢
      exact ih h
    rw [if_neg here] at h ⊢
    by_cases up : name = ".."
    · rw [if_pos up] at h ⊢
      exact ih h
    rw [if_neg up] at h ⊢
    by_cases long : longestName < name.utf8ByteSize
    · rw [if_pos long] at h
      cases h
    rw [if_neg long] at h ⊢
    -- Only a directory leads on, and it is still there.
    cases there : s.node? (directory ++ [name]) with
    | none =>
      rw [there] at h
      cases h
    | some node =>
      rw [there] at h
      cases node with
      | file id => cases h
      | directory =>
        rw [keeps _ there]
        exact ih h

/-- A path is walked the same way while all directories stay. -/
theorem lastStep_of_keeps {s s' : FileStore}
    (keeps : ∀ names, s.node? names = some .directory → s'.node? names = some .directory)
    {path : String} {step : LastStep} (h : s.lastStep path = .ok step) :
    s'.lastStep path = .ok step := by
  unfold lastStep at h ⊢
  by_cases nul : path.toList.contains '\x00' = true
  · rw [if_pos nul] at h
    cases h
  rw [if_neg nul] at h ⊢
  by_cases blank : path.isEmpty = true
  · rw [if_pos blank] at h
    cases h
  rw [if_neg blank] at h ⊢
  by_cases long : longestPath < path.utf8ByteSize
  · rw [if_pos long] at h
    cases h
  rw [if_neg long] at h ⊢
  cases last : (Path.names path).getLast? with
  | none =>
    rw [last] at h
    exact h
  | some name =>
    rw [last] at h
    dsimp only at h ⊢
    cases walked : s.walk [] (Path.names path).dropLast with
    | error reason =>
      rw [walked] at h
      cases h
    | ok directory =>
      rw [walked] at h
      rw [walk_of_keeps keeps walked]
      simp only [bind, Except.bind] at h ⊢
      by_cases dots : name = "." ∨ name = ".."
      · rw [if_pos dots] at h ⊢
        cases reached : s.walk directory [name] with
        | error reason =>
          rw [reached] at h
          cases h
        | ok result =>
          rw [reached] at h
          rw [walk_of_keeps keeps reached]
          exact h
      · rw [if_neg dots] at h ⊢
        exact h

theorem node?_congr {s s' : FileStore} (nodes : s'.nodes = s.nodes) (names : List String) :
    s'.node? names = s.node? names := by
  unfold node?
  rw [nodes]

/-- A name that is new is the name of nothing that was there. -/
theorem node?_of_new {s s' : FileStore} {new : List String} {node node' : FileNode}
    (free : s.node? new = none) (nodes : s'.nodes = (new, node) :: s.nodes) {names : List String}
    (there : s.node? names = some node') : s'.node? names = some node' := by
  have other : new ≠ names := by
    rintro rfl
    rw [free] at there
    cases there
  unfold node? at there ⊢
  rw [nodes]
  split
  · next root => rwa [if_pos root] at there
  · next below =>
    rw [if_neg below] at there
    rw [List.find?_cons_of_neg (by simpa using other)]
    exact there

/-- Where a path leads depends on the names alone. -/
theorem Leads.congr {s s' : FileStore} {path : String} {id : Nat} (h : s.Leads path id)
    (nodes : s'.nodes = s.nodes) : s'.Leads path id := by
  obtain ⟨directory, last, step, noSlash, short, there⟩ := h
  have keeps : ∀ names, s.node? names = some .directory → s'.node? names = some .directory := by
    intro names here
    rwa [node?_congr nodes]
  exact ⟨directory, last, lastStep_of_keeps keeps step, noSlash, short, by rwa [node?_congr nodes]⟩

theorem Leads.unique {s : FileStore} {path : String} {id id' : Nat} (h : s.Leads path id)
    (h' : s.Leads path id') : id = id' := by
  obtain ⟨directory, last, step, -, -, there⟩ := h
  obtain ⟨directory', last', step', -, -, there'⟩ := h'
  rw [step] at step'
  cases step'
  rw [there] at there'
  cases there'
  rfl

theorem Leads.lt_size {s : FileStore} {path : String} {id : Nat} (sound : s.Sound)
    (h : s.Leads path id) : id < s.contents.size := by
  obtain ⟨directory, last, -, -, -, there⟩ := h
  unfold node? at there
  rw [if_neg (by simp)] at there
  obtain ⟨node, found, file⟩ := Option.map_eq_some_iff.1 there
  obtain ⟨names, node⟩ := node
  cases file
  exact sound names id (List.mem_of_find?_eq_some found)

/-! ## Touching and opening -/

/-- A path that leads to a file is touched there, and nothing happens. -/
theorem touch_of_leads {s : FileStore} {path : String} {id : Nat} (h : s.Leads path id) :
    s.touch path = .ok (id, s) := by
  obtain ⟨directory, last, step, noSlash, short, there⟩ := h
  unfold touch
  rw [step]
  simp only [bind, Except.bind]
  rw [noSlash, if_neg (by decide), if_neg (Nat.not_lt.2 short), there]

/-- Touching a path leaves the store alone or adds one file, without a byte, and then the path leads to
the file. -/
theorem touch_cases {s s' : FileStore} {path : String} {id : Nat}
    (h : s.touch path = .ok (id, s')) :
    s'.Leads path id
      ∧ (s' = s ∨ id = s.contents.size
          ∧ ∃ names, s' = { s with
              nodes := (names, .file id) :: s.nodes
              contents := s.contents.push .empty }) := by
  unfold touch at h
  cases step : s.lastStep path with
  | error reason =>
    rw [step] at h
    cases h
  | ok last =>
    rw [step] at h
    simp only [bind, Except.bind] at h
    cases last with
    | reached directory => cases h
    | name directory last =>
      dsimp only at h
      split at h
      · cases h
      next noSlash =>
      split at h
      · cases h
      next short =>
      have noSlash := Bool.eq_false_iff.2 noSlash
      have short := Nat.le_of_not_lt short
      cases there : s.node? (directory ++ [last]) with
      | some node =>
        rw [there] at h
        cases node with
        | directory => cases h
        | file id =>
          cases h
          exact ⟨⟨directory, last, step, noSlash, short, there⟩, .inl rfl⟩
      | none =>
        rw [there] at h
        cases h
        refine ⟨⟨directory, last, lastStep_of_keeps ?_ step, noSlash, short, ?_⟩,
          .inr ⟨rfl, _, rfl⟩⟩
        · -- The new name is that of no directory, for nothing was there.
          intro names here
          exact node?_of_new there rfl here
        · unfold node?
          rw [if_neg (by simp), List.find?_cons_of_pos (by simp)]
          rfl

/-- What opening the file at a path comes to. -/
structure Opened (s : FileStore) (path : String) (handle : FileHandle) (s' : FileStore) : Prop where
  found : s.openFile path = .ok (handle, s')
  leads : s'.Leads path handle.file
  number : handle.number = s.nextHandle
  next : s'.nextHandle = s.nextHandle + 1
  locks : s'.locks = s.locks
  sound : s.Sound → s'.Sound
  kept : ∀ id, id < s.contents.size → s'.content id = s.content id
  /-- A file that the path leads to is opened as it is. -/
  known : ∀ id, s.Leads path id →
    handle.file = id ∧ s' = { s with nextHandle := s.nextHandle + 1 }
  /-- A file that the path did not lead to is made, without a byte. -/
  made : s.Leads path handle.file ∨ s'.content handle.file = .empty

theorem opened_of_openFile {s s' : FileStore} {path : String} {handle : FileHandle}
    (h : s.openFile path = .ok (handle, s')) : s.Opened path handle s' := by
  have found := h
  unfold openFile at h
  cases touched : s.touch path with
  | error reason =>
    rw [touched] at h
    cases h
  | ok result =>
    obtain ⟨file, s₁⟩ := result
    rw [touched] at h
    cases h
    obtain ⟨leads, change⟩ := touch_cases touched
    have known : ∀ id, s.Leads path id → file = id ∧ s₁ = s := by
      intro id known
      rw [touch_of_leads known] at touched
      cases touched
      exact ⟨rfl, rfl⟩
    have known' : ∀ id, s.Leads path id →
        file = id ∧ ({ s₁ with nextHandle := s₁.nextHandle + 1 } : FileStore)
          = { s with nextHandle := s.nextHandle + 1 } := by
      intro id there
      obtain ⟨same, rfl⟩ := known id there
      exact ⟨same, rfl⟩
    rcases change with rfl | ⟨rfl, names, rfl⟩
    · exact ⟨found, leads.congr rfl, rfl, rfl, rfl, id, fun _ _ => rfl, known', .inl leads⟩
    · refine ⟨found, leads.congr rfl, rfl, rfl, rfl, ?_, ?_, known', .inr ?_⟩
      · intro sound names' id there
        show id < (s.contents.push .empty).size
        rw [Array.size_push]
        rcases List.mem_cons.1 there with there | there
        · cases there
          exact Nat.lt_succ_self _
        · exact Nat.lt_succ_of_lt (sound names' id there)
      · intro id below
        show (s.contents.push .empty).getD id .empty = s.contents.getD id .empty
        rw [Array.getD_eq_getD_getElem?, Array.getD_eq_getD_getElem?, Array.getElem?_push,
          if_neg (Nat.ne_of_lt below)]
      · show (s.contents.push .empty).getD s.contents.size .empty = .empty
        rw [Array.getD_eq_getD_getElem?, Array.getElem?_push_size]
        rfl

theorem exists_openFile_of_leads {s : FileStore} {path : String} {id : Nat} (h : s.Leads path id) :
    ∃ result, s.openFile path = .ok result := by
  unfold openFile
  rw [touch_of_leads h]
  exact ⟨_, rfl⟩

/-! ## Locks -/

/-- Another handle has the lock of the file. -/
def Locked (s : FileStore) (handle : FileHandle) : Prop :=
  ∃ l ∈ s.locks, l.file = handle.file ∧ l.number ≠ handle.number

/-- The lock of a file is had unless another handle has it. -/
theorem tryLock_cases (s : FileStore) (handle : FileHandle) :
    (s.Locked handle ∧ s.tryLock handle = none)
      ∨ ¬s.Locked handle ∧ s.tryLock handle = some { s with locks := handle :: s.locks } := by
  have locked : (s.locks.any fun l => l.file = handle.file && l.number ≠ handle.number) = true
      ↔ s.Locked handle := by
    simp only [List.any_eq_true, Bool.and_eq_true, decide_eq_true_eq, Locked]
  unfold tryLock
  by_cases taken : s.Locked handle
  · exact .inl ⟨taken, if_pos (locked.2 taken)⟩
  · exact .inr ⟨taken, if_neg (mt locked.1 taken)⟩

/-- Closing a handle without a lock changes nothing. -/
theorem close_of_not_mem {s : FileStore} {handle : FileHandle} (h : handle ∉ s.locks) :
    s.close handle = s := by
  have same : s.locks.filter (· ≠ handle) = s.locks := by
    rw [List.filter_eq_self]
    intro l there
    exact decide_eq_true fun same => h (same ▸ there)
  unfold close
  rw [same]

/-! ## Contents -/

theorem content_modify (s : FileStore) (file : Nat) (f : FileContent → FileContent) (id : Nat) :
    (s.modify file f).content id
      = if id = file ∧ id < s.contents.size then f (s.content id) else s.content id := by
  show (s.contents.modify file f).getD id .empty = _
  unfold content
  rw [Array.getD_eq_getD_getElem?, Array.getD_eq_getD_getElem?, Array.getElem?_modify]
  by_cases there : id < s.contents.size
  · rw [Array.getElem?_eq_getElem there]
    by_cases same : file = id
    · rw [if_pos same, if_pos ⟨same.symm, there⟩]
      rfl
    · rw [if_neg same, if_neg fun h => same h.1.symm]
  · have outside : ¬(id = file ∧ id < s.contents.size) := fun h => there h.2
    rw [Array.getElem?_eq_none (Nat.le_of_not_lt there), if_neg outside]
    split <;> rfl

theorem Sound.modify {s : FileStore} (sound : s.Sound) (file : Nat) (f : FileContent → FileContent) :
    (s.modify file f).Sound := by
  intro names id there
  show id < (s.contents.modify file f).size
  rw [Array.size_modify]
  exact sound names id there

theorem sound_empty : empty.Sound := by
  intro names id there
  cases there

end Passthrough.FileStore
