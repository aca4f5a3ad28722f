import Passthrough.Bringup.Environment
import Passthrough.Proofs.Sharing.History

/-!
# Passthrough — publishing in one go

A primary that comes up publishes its configuration once and marks the file.  The file has its size from the
moment on in which it becomes the primary's, so neither can fail, and what the primary leaves in the file is
its configuration.

* `SharedConfig.Kept` — the file of a hold is there and has its size.
* `SharedConfig.exists_publish`, `SharedConfig.exists_markComplete` — one step each.
* `Machine.exists_publish` — both steps.
-/

namespace Passthrough

open SharedConfig (Marked)

namespace FileStore

/-- Nothing changed but what stands in files. -/
structure Rewritten (s s' : FileStore) : Prop where
  nodes : s'.nodes = s.nodes
  size : s'.contents.size = s.contents.size
  locks : s'.locks = s.locks
  nextHandle : s'.nextHandle = s.nextHandle

variable {s s' s'' : FileStore}

theorem rewritten_modify (s : FileStore) (file : Nat) (f : FileContent → FileContent) :
    s.Rewritten (s.modify file f) := ⟨rfl, Array.size_modify, rfl, rfl⟩

theorem Rewritten.refl (s : FileStore) : s.Rewritten s := ⟨rfl, rfl, rfl, rfl⟩

theorem Rewritten.trans (first : s.Rewritten s') (second : s'.Rewritten s'') : s.Rewritten s'' :=
  ⟨second.nodes.trans first.nodes, second.size.trans first.size, second.locks.trans first.locks,
    second.nextHandle.trans first.nextHandle⟩

theorem Rewritten.sound (rewritten : s.Rewritten s') (sound : s.Sound) : s'.Sound := by
  intro names id there
  rw [rewritten.nodes] at there
  rw [rewritten.size]
  exact sound names id there

end FileStore

namespace SharedConfig

/-- The file that the process has open is there and has the size of a region. -/
structure Kept (shared : SharedConfig) (s : FileStore) : Prop where
  there : shared.handle.file < s.contents.size
  sized : (s.content shared.handle.file).size = Layout.regionSize

variable {shared : SharedConfig} {s s' : FileStore} {c : MemConfig}

theorem Kept.content_modify (kept : shared.Kept s) (f : FileContent → FileContent) :
    (s.modify shared.handle.file f).content shared.handle.file
      = f (s.content shared.handle.file) := by
  rw [FileStore.content_modify, if_pos ⟨rfl, kept.there⟩]

/-- What is stored through the mapping keeps the file. -/
theorem Kept.stored (kept : shared.Kept s) (region : ByteArray) :
    shared.Kept (s.modify shared.handle.file (·.storeMapped region)) where
  there := by
    rw [(s.rewritten_modify _ _).size]
    exact kept.there
  sized := by
    rw [kept.content_modify, FileContent.size_storeMapped]
    exact kept.sized

/-- What is stored through the mapping is what mappings show then. -/
theorem Kept.region_modify (kept : shared.Kept s) {region : ByteArray}
    (size : region.size = (SharedConfig.region s shared.handle).size) :
    SharedConfig.region (s.modify shared.handle.file (·.storeMapped region)) shared.handle
      = region := by
  have room := FileContent.regionSize_le_front kept.sized
  rw [SharedConfig.region, kept.content_modify]
  refine FileContent.mapped_storeMapped ?_ room
  rw [size]
  exact FileContent.size_mapped room

theorem load_of_tells (tells : Layout.Tells (region s shared.handle) c) :
    shared.load s = .ok c := by
  rw [load, tells.read]
  rfl

/-- A primary can publish whatever fits. -/
theorem exists_publish (kept : shared.Kept s) (primary : shared.role = .primary) (fits : c.Fits) :
    ∃ s', shared.publish s c = (.ok (), s') ∧ s.Rewritten s' ∧ shared.Kept s'
      ∧ Layout.Tells (region s' shared.handle) c := by
  have room := FileContent.le_size_mapped (s.content shared.handle.file) Layout.regionSize
  obtain ⟨written, wrote, change, tells⟩ := Layout.exists_write_tells fits room
  have wrote : Layout.overwrite (region s shared.handle) c = (.ok (), written) :=
    Layout.overwrite_of_write wrote
  refine ⟨_, ?_, s.rewritten_modify _ (·.storeMapped written), kept.stored written, ?_⟩
  · rw [publish_of_primary s c primary, wrote]
    rfl
  · rw [kept.region_modify change.size_eq]
    exact tells

/-- A primary can set the marker, which leaves the table alone. -/
theorem exists_markComplete (kept : shared.Kept s) (primary : shared.role = .primary)
    (tells : Layout.Tells (region s shared.handle) c) :
    ∃ s', shared.markComplete s = (.ok (), s') ∧ s.Rewritten s' ∧ shared.isComplete s' = true
      ∧ Layout.Tells (region s' shared.handle) c := by
  have change := Packed.differsIn_put (region s shared.handle) 0 (Wire.bytes32 marker)
  rw [Wire.length_bytes32] at change
  have marked := kept.stored (Packed.put (region s shared.handle) 0 (Wire.bytes32 marker))
  refine ⟨_, markComplete_of_primary s primary, s.rewritten_modify _ _, ?_, ?_⟩
  · rw [isComplete_iff (Nat.le_of_eq marked.sized.symm), kept.content_modify]
    exact marked_of_markComplete kept.sized
  · rw [kept.region_modify change.size_eq]
    exact tells.after (change.mono fun k inside => by omega)

/-- The file of a primary that was just elected is there, has its size and no marker. -/
theorem Opening.kept_of_primary {path : String} {timeout : Nat} {refusals : Refusals}
    {requested : RoleRequest}
    (opening : Opening s path timeout refusals requested (.ok shared) s') (sound : s.Sound)
    (primary : shared.role = .primary) :
    shared.Kept s' ∧ ¬Marked (s'.content shared.handle.file) := by
  obtain ⟨-, c, content⟩ := opening.started_of_primary sound primary
  have unmarked := not_marked_started c
  rw [← content] at unmarked
  refine ⟨?_, unmarked⟩
  cases opening with
  | created locks =>
    have there := locks.file.leads.lt_size (locks.file.sound sound)
    refine ⟨?_, ?_⟩
    · rw [(FileStore.rewritten_modify _ _ _).size]
      exact there
    · rw [content]
      exact c.size_resize _
  | attached => cases primary

end SharedConfig

/-- **Publishing and letting secondaries in succeeds**, and leaves the marker and the configuration. -/
theorem Machine.exists_publish {shared : SharedConfig} {files : FileStore} {c : MemConfig}
    (kept : shared.Kept files) (primary : shared.role = .primary) (fits : c.Fits) :
    ∃ files', Machine.publish (some shared) c files = (.ok (), files') ∧ files.Rewritten files'
      ∧ shared.isComplete files' = true ∧ shared.load files' = .ok c := by
  obtain ⟨files₁, published, first, kept₁, tells₁⟩ :=
    SharedConfig.exists_publish kept primary fits
  obtain ⟨files₂, marked, second, complete, tells₂⟩ :=
    SharedConfig.exists_markComplete kept₁ primary tells₁
  refine ⟨files₂, ?_, first.trans second, complete, SharedConfig.load_of_tells tells₂⟩
  unfold Machine.publish
  dsimp only
  rw [published]
  exact marked

end Passthrough
