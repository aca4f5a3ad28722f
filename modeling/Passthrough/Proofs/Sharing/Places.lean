import Passthrough.Proofs.Text.Numbers
import Passthrough.Sharing.FileStore
import Passthrough.Sharing.Settings

/-!
# Passthrough — the places of a group

What a group keeps in the file store lies below the runtime root, under names made from its file prefix.

```text
 root ─┬─ prefix.config       the shared configuration
       └─ dpdk ─── prefix     the runtime directory
```

A prefix that is accepted has no slash in it, so it is one name.  Two names of this kind lead nowhere
below a directory: one dot stays there, and two lead out of it.  With `.config` behind it a prefix is
neither of them.

* `Path.names_join`, `Path.isAbsolute_join` — the names of a path that is taken from another.
* `Path.stepFrom`, `Path.stepFrom_injective` — where one name leads from a directory.
* `FileStore.resolve`, `FileStore.resolve_of_names` — where a path leads, by its names.
* `Settings.places_of_prefix` — the places that accepted settings give.
-/

namespace Passthrough

/-! ## Names -/

namespace Path

/-- The text is one name. -/
structure IsName (name : String) : Prop where
  nonempty : name ≠ ""
  undivided : '/' ∉ name.toList

/-- The name of something in a directory. -/
structure IsOrdinary (name : String) : Prop extends IsName name where
  not_here : name ≠ "."
  not_up : name ≠ ".."

theorem IsName.names_eq {name : String} (h : IsName name) : names name = [name] := by
  have hpiece : name.toList ≠ [] := fun hnil => h.nonempty (String.toList_eq_nil_iff.1 hnil)
  rw [names, Text.fields_eq_splitOn, Text.splitOn_of_not_mem h.undivided]
  simp [hpiece]

theorem IsName.isAbsolute_eq {name : String} (h : IsName name) : isAbsolute name = false := by
  unfold isAbsolute
  rw [decide_eq_false_iff_not]
  exact fun hhead => h.undivided (List.mem_of_mem_head? hhead)

/-- A slash separates names, wherever it is. -/
theorem names_append_slash (front back : String) :
    names (front ++ "/" ++ back) = names front ++ names back := by
  have htext : (front ++ "/" ++ back).toList = front.toList ++ '/' :: back.toList := by
    rw [String.toList_append, String.toList_append, List.append_assoc]
    rfl
  simp only [names, Text.fields_eq_splitOn, htext, List.splitOn_append_cons_self, List.filter_append,
    List.map_append]

/-- A path that is taken from another has the names of both. -/
theorem names_join {base leaf : String} (hrelative : isAbsolute leaf = false) :
    names (join base leaf) = names base ++ names leaf := by
  unfold join
  rw [hrelative, if_neg Bool.false_ne_true]
  split
  · next hlast =>
    obtain rfl : base = "" := String.toList_eq_nil_iff.1 (List.getLast?_eq_none_iff.1 hlast)
    rfl
  · next hlast =>
    -- The slash is there already, and behind it the base has no more names.
    obtain ⟨front, hfront⟩ := List.getLast?_eq_some_iff.1 hlast
    obtain rfl : base = String.ofList front ++ "/" ++ "" := by
      rw [← String.toList_inj, hfront]
      simp
    rw [names_append_slash, show names "" = [] from rfl, List.append_nil, ← names_append_slash,
      String.append_empty]
  · exact names_append_slash base leaf

theorem isAbsolute_join {base leaf : String} (hrelative : isAbsolute leaf = false) :
    isAbsolute (join base leaf) = isAbsolute base := by
  unfold join
  rw [hrelative, if_neg Bool.false_ne_true]
  split
  · next hlast =>
    obtain rfl : base = "" := String.toList_eq_nil_iff.1 (List.getLast?_eq_none_iff.1 hlast)
    exact hrelative
  all_goals
    next hlast =>
    obtain ⟨front, hfront⟩ := List.getLast?_eq_some_iff.1 hlast
    unfold isAbsolute
    cases front <;> simp [hfront]

/-- Where a name leads from a directory. -/
def stepFrom (directory : List String) (name : String) : List String :=
  if name = "." then directory else if name = ".." then directory.dropLast else directory ++ [name]

theorem stepFrom_of_ordinary {name : String} (hordinary : IsOrdinary name) (directory : List String) :
    stepFrom directory name = directory ++ [name] := by
  rw [stepFrom, if_neg hordinary.not_here, if_neg hordinary.not_up]

/-- Only the two special names lead to a directory or above it. -/
theorem stepFrom_prefix_iff {directory : List String} {name : String} :
    stepFrom directory name <+: directory ↔ name = "." ∨ name = ".." := by
  unfold stepFrom
  split_ifs with hhere hup
  · exact iff_of_true List.prefix_rfl (.inl hhere)
  · exact iff_of_true (List.dropLast_prefix directory) (.inr hup)
  · refine iff_of_false (fun hprefix => ?_) (not_or.2 ⟨hhere, hup⟩)
    have hlength := hprefix.length_le
    rw [List.length_append, List.length_singleton] at hlength
    omega

/-- The name of a step, told from where it leads: a step keeps the number of names, or makes it one less or
one more. -/
def stepTaken (directory place : List String) : String :=
  if place.length = directory.length then "."
  else if place.length < directory.length then ".."
  else place.getLast?.getD ""

theorem stepTaken_stepFrom {directory : List String} (hbelow : directory ≠ []) (name : String) :
    stepTaken directory (stepFrom directory name) = name := by
  have hpositive := List.length_pos_iff.2 hbelow
  by_cases hhere : name = "."
  · rw [stepFrom, if_pos hhere, stepTaken, if_pos rfl, hhere]
  by_cases hup : name = ".."
  · have hless : directory.dropLast.length < directory.length := by
      rw [List.length_dropLast]
      omega
    rw [stepFrom, if_neg hhere, if_pos hup, stepTaken, if_neg hless.ne, if_pos hless, hup]
  · rw [stepFrom, if_neg hhere, if_neg hup, stepTaken, if_neg (by simp), if_neg (by simp)]
    simp

/-- From a directory below another, different names lead to different places. -/
theorem stepFrom_injective {directory : List String} (hbelow : directory ≠ []) :
    Function.Injective (stepFrom directory) :=
  Function.LeftInverse.injective (stepTaken_stepFrom hbelow)

end Path

/-! ## Places -/

namespace FileStore

variable {s : FileStore} {path : String} {directory place : List String}

/-- Where a path leads: the names from the root directory on, whether there is anything or not. -/
def resolve (s : FileStore) (path : String) : Except SystemError (List String) := do
  match ← s.lastStep path with
  | .name directory last => .ok (directory ++ [last])
  | .reached directory => .ok directory

theorem walk_append (names more : List String) :
    s.walk directory (names ++ more) = s.walk directory names >>= fun d => s.walk d more := by
  induction names generalizing directory with
  | nil => rfl
  | cons name names ih =>
    rw [List.cons_append, walk, walk]
    repeat' split
    all_goals first | exact ih | rfl

theorem eq_stepFrom_of_walk {name : String} (hwalked : s.walk directory [name] = .ok place) :
    place = Path.stepFrom directory name := by
  unfold Path.stepFrom
  unfold walk at hwalked
  split_ifs at hwalked ⊢
  · cases hwalked
    rfl
  · cases hwalked
    rfl
  · split at hwalked
    · cases hwalked
    · cases hwalked
    · cases hwalked
      rfl

/-- A path leads one step further than all its names but the last. -/
theorem resolve_of_names {names : List String} {last : String}
    (hnames : Path.names path = names ++ [last]) (hresolved : s.resolve path = .ok place) :
    ∃ d, s.walk [] names = .ok d ∧ place = Path.stepFrom d last := by
  unfold resolve at hresolved
  obtain ⟨step, hstep, hresolved⟩ := bind_eq_ok_iff.1 hresolved
  unfold lastStep at hstep
  rw [hnames] at hstep
  split_ifs at hstep
  rw [List.getLast?_concat, List.dropLast_concat] at hstep
  dsimp only at hstep
  obtain ⟨d, hwalked, hstep⟩ := bind_eq_ok_iff.1 hstep
  refine ⟨d, hwalked, ?_⟩
  -- The last name is walked if it is one of the special ones, and left to be looked up otherwise.
  split_ifs at hstep with hdots
  · cases hlast : s.walk d [last] with
    | error reason =>
      rw [hlast] at hstep
      cases hstep
    | ok place' =>
      rw [hlast] at hstep
      cases hstep
      cases hresolved
      exact eq_stepFrom_of_walk hlast
  · cases hstep
    cases hresolved
    obtain ⟨hhere, hup⟩ := not_or.1 hdots
    rw [Path.stepFrom, if_neg hhere, if_neg hup]

end FileStore

/-! ## Prefixes -/

namespace Settings

variable {s : Settings}

theorem validate_eq_ok_iff : s.validate = .ok () ↔ s.filePrefix ≠ ""
    ∧ (∀ c ∈ s.filePrefix.toList, c ≠ '/' ∧ c ≠ '\\') ∧ ¬(s.unshared = true ∧ s.role = .secondary) := by
  have hempty : s.filePrefix.toList = [] ↔ s.filePrefix = "" := String.toList_eq_nil_iff
  have hplain : s.filePrefix.toList.any (fun c => c = '/' || c = '\\') = true
      ↔ ¬∀ c ∈ s.filePrefix.toList, c ≠ '/' ∧ c ≠ '\\' := by
    simp only [List.any_eq_true, Bool.or_eq_true, decide_eq_true_eq, ← not_or, not_forall, not_not,
      exists_prop]
  have hshared : (s.unshared && s.role = .secondary) = true
      ↔ s.unshared = true ∧ s.role = .secondary := by
    rw [Bool.and_eq_true, decide_eq_true_eq]
  unfold validate
  split_ifs with hnil hseparator hsecondary
  · exact iff_of_false nofun fun haccepted => haccepted.1 (hempty.1 hnil)
  · exact iff_of_false nofun fun haccepted => hplain.1 hseparator haccepted.2.1
  · exact iff_of_false nofun fun haccepted => haccepted.2.2 (hshared.1 hsecondary)
  · exact iff_of_true rfl
      ⟨mt hempty.2 hnil, not_not.1 (mt hplain.2 hseparator), mt hshared.2 hsecondary⟩

/-- The name of the shared configuration is too long for a special one. -/
theorem configName_ne (filePrefix : String) {name : String} (hshort : name.toList.length < 7) :
    filePrefix ++ ".config" ≠ name := by
  rintro rfl
  rw [String.toList_append, List.length_append] at hshort
  have hending : ".config".toList.length = 7 := rfl
  omega

theorem ordinary_configName {filePrefix : String} (h : Path.IsName filePrefix) :
    Path.IsOrdinary (filePrefix ++ ".config") where
  nonempty := configName_ne filePrefix (by decide)
  undivided := by
    rw [String.toList_append, List.mem_append, not_or]
    exact ⟨h.undivided, by decide⟩
  not_here := configName_ne filePrefix (by decide)
  not_up := configName_ne filePrefix (by decide)

theorem isName_of_validate (haccepted : s.validate = .ok ()) : Path.IsName s.filePrefix := by
  obtain ⟨hnonempty, hplain, -⟩ := validate_eq_ok_iff.1 haccepted
  exact ⟨hnonempty, fun hslash => (hplain '/' hslash).1 rfl⟩

theorem names_configPath (h : Path.IsName s.filePrefix) :
    Path.names s.configPath = Path.names s.root ++ [s.filePrefix ++ ".config"] := by
  have hname := (ordinary_configName h).toIsName
  rw [configPath, Path.names_join hname.isAbsolute_eq, hname.names_eq]

theorem names_runtimeDir (h : Path.IsName s.filePrefix) :
    Path.names s.runtimeDir = Path.names s.root ++ ["dpdk", s.filePrefix] := by
  rw [runtimeDir, sharedDir, Path.names_join h.isAbsolute_eq, Path.names_join (by decide), h.names_eq,
    List.append_assoc]
  rfl

variable {store : FileStore} {place : List String}

theorem resolve_configPath (h : Path.IsName s.filePrefix)
    (hresolved : store.resolve s.configPath = .ok place) :
    ∃ d, store.walk [] (Path.names s.root) = .ok d ∧ place = d ++ [s.filePrefix ++ ".config"] := by
  obtain ⟨d, hroot, hplace⟩ := FileStore.resolve_of_names (names_configPath h) hresolved
  rw [Path.stepFrom_of_ordinary (ordinary_configName h)] at hplace
  exact ⟨d, hroot, hplace⟩

theorem resolve_runtimeDir (h : Path.IsName s.filePrefix)
    (hresolved : store.resolve s.runtimeDir = .ok place) :
    ∃ d, store.walk [] (Path.names s.root) = .ok d
      ∧ place = Path.stepFrom (d ++ ["dpdk"]) s.filePrefix := by
  have hnames : Path.names s.runtimeDir = (Path.names s.root ++ ["dpdk"]) ++ [s.filePrefix] := by
    rw [names_runtimeDir h, List.append_assoc]
    rfl
  obtain ⟨shared, hwalked, hplace⟩ := FileStore.resolve_of_names hnames hresolved
  -- The way to the shared directory is the way to the root and one step more.
  rw [FileStore.walk_append] at hwalked
  obtain ⟨d, hroot, hlast⟩ := bind_eq_ok_iff.1 hwalked
  obtain rfl : shared = d ++ ["dpdk"] := FileStore.eq_stepFrom_of_walk hlast
  exact ⟨d, hroot, hplace⟩

section

variable {s' : Settings} (h : Path.IsName s.filePrefix) (h' : Path.IsName s'.filePrefix)
  (hroots : s'.root = s.root) (hother : s'.filePrefix ≠ s.filePrefix)

include hother

theorem configName_ne_configName : s'.filePrefix ++ ".config" ≠ s.filePrefix ++ ".config" :=
  fun hsame => hother ((String.append_left_inj _).1 hsame)

include h h' hroots

/-- Groups below the same root have configurations with different paths. -/
theorem configPath_ne : s'.configPath ≠ s.configPath := by
  intro hsame
  have hsame := congrArg Path.names hsame
  rw [names_configPath h', names_configPath h, hroots] at hsame
  have hlast := List.append_cancel_left hsame
  exact configName_ne_configName hother (List.singleton_inj.1 hlast)

/-- The paths also lead to different places. -/
theorem resolve_configPath_ne (hresolved : store.resolve s.configPath = .ok place) :
    store.resolve s'.configPath ≠ .ok place := by
  intro hresolved'
  obtain ⟨d, hroot, rfl⟩ := resolve_configPath h hresolved
  obtain ⟨d', hroot', hsame⟩ := resolve_configPath h' hresolved'
  rw [hroots, hroot] at hroot'
  cases hroot'
  have hlast := List.append_cancel_left hsame
  exact configName_ne_configName hother (List.singleton_inj.1 hlast).symm

/-- Groups below the same root have runtime directories with different paths. -/
theorem runtimeDir_ne : s'.runtimeDir ≠ s.runtimeDir := by
  intro hsame
  have hsame := congrArg Path.names hsame
  rw [names_runtimeDir h', names_runtimeDir h, hroots] at hsame
  have hlast := (List.cons.inj (List.append_cancel_left hsame)).2
  exact hother (List.singleton_inj.1 hlast)

/-- The paths also lead to different places. -/
theorem resolve_runtimeDir_ne (hresolved : store.resolve s.runtimeDir = .ok place) :
    store.resolve s'.runtimeDir ≠ .ok place := by
  intro hresolved'
  obtain ⟨d, hroot, rfl⟩ := resolve_runtimeDir h hresolved
  obtain ⟨d', hroot', hsame⟩ := resolve_runtimeDir h' hresolved'
  rw [hroots, hroot] at hroot'
  cases hroot'
  have hbelow : d ++ ["dpdk"] ≠ [] := List.append_ne_nil_of_right_ne_nil d (List.cons_ne_nil _ _)
  exact hother (Path.stepFrom_injective hbelow hsame).symm

end

/-- **Places by prefix.**  Take settings that are accepted.

* The path of the shared configuration has the names of the root and one ordinary name more.  If it leads
  anywhere, it leads to a place in the directory that the root leads to, which is neither the shared
  directory nor above it.
* The path of the runtime directory has the names of the root, `dpdk` and the prefix.  If it leads anywhere,
  it leads one step on from the shared directory, and stays out of it and of what is above it exactly if the
  prefix is an ordinary name: neither one dot nor two.
* Settings with the same root and another prefix have other paths, which lead to other places. -/
theorem places_of_prefix (haccepted : s.validate = .ok ()) :
    (Path.IsOrdinary (s.filePrefix ++ ".config")
        ∧ Path.names s.configPath = Path.names s.root ++ [s.filePrefix ++ ".config"]
        ∧ Path.isAbsolute s.configPath = Path.isAbsolute s.root
        ∧ ∀ (store : FileStore) (place : List String), store.resolve s.configPath = .ok place →
          ∃ d, store.walk [] (Path.names s.root) = .ok d ∧ place = d ++ [s.filePrefix ++ ".config"]
            ∧ ¬place <+: d ++ ["dpdk"])
      ∧ (Path.names s.runtimeDir = Path.names s.root ++ ["dpdk", s.filePrefix]
        ∧ Path.isAbsolute s.runtimeDir = Path.isAbsolute s.root
        ∧ (Path.IsOrdinary s.filePrefix ↔ s.filePrefix ≠ "." ∧ s.filePrefix ≠ "..")
        ∧ ∀ (store : FileStore) (place : List String), store.resolve s.runtimeDir = .ok place →
          ∃ d, store.walk [] (Path.names s.root) = .ok d
            ∧ place = Path.stepFrom (d ++ ["dpdk"]) s.filePrefix
            ∧ (¬place <+: d ++ ["dpdk"] ↔ Path.IsOrdinary s.filePrefix))
      ∧ ∀ s' : Settings, s'.validate = .ok () → s'.root = s.root → s'.filePrefix ≠ s.filePrefix →
        s'.configPath ≠ s.configPath ∧ s'.runtimeDir ≠ s.runtimeDir
          ∧ ∀ (store : FileStore) (place : List String),
            (store.resolve s.configPath = .ok place → store.resolve s'.configPath ≠ .ok place)
              ∧ (store.resolve s.runtimeDir = .ok place → store.resolve s'.runtimeDir ≠ .ok place) := by
  have hname := isName_of_validate haccepted
  have hconfig := ordinary_configName hname
  have hordinary : Path.IsOrdinary s.filePrefix ↔ s.filePrefix ≠ "." ∧ s.filePrefix ≠ ".." :=
    ⟨fun h => ⟨h.not_here, h.not_up⟩, fun h => ⟨hname, h.1, h.2⟩⟩
  refine ⟨⟨hconfig, names_configPath hname, Path.isAbsolute_join hconfig.isAbsolute_eq, ?_⟩,
    ⟨names_runtimeDir hname, ?_, hordinary, ?_⟩, ?_⟩
  · intro store place hresolved
    obtain ⟨d, hroot, rfl⟩ := resolve_configPath hname hresolved
    refine ⟨d, hroot, rfl, fun habove => ?_⟩
    -- A place of as many names would be the shared directory, whose name is too short.
    have hsame := List.append_cancel_left (habove.eq_of_length (by simp))
    exact configName_ne s.filePrefix (by decide) (List.singleton_inj.1 hsame)
  · calc Path.isAbsolute s.runtimeDir
        = Path.isAbsolute s.sharedDir := Path.isAbsolute_join hname.isAbsolute_eq
      _ = Path.isAbsolute s.root := Path.isAbsolute_join (by decide)
  · intro store place hresolved
    obtain ⟨d, hroot, rfl⟩ := resolve_runtimeDir hname hresolved
    refine ⟨d, hroot, rfl, ?_⟩
    rw [Path.stepFrom_prefix_iff, not_or, hordinary]
  · intro s' haccepted' hroots hother
    have hname' := isName_of_validate haccepted'
    exact ⟨configPath_ne hname hname' hroots hother, runtimeDir_ne hname hname' hroots hother,
      fun store place => ⟨resolve_configPath_ne hname hname' hroots hother,
        resolve_runtimeDir_ne hname hname' hroots hother⟩⟩

/-- The prefix that a group has unless it chooses another. -/
theorem places_of_prefix_default :
    (ofRoot "/run").validate = .ok () ∧ Path.IsOrdinary (ofRoot "/run").filePrefix
      ∧ Path.names (ofRoot "/run").runtimeDir = ["run", "dpdk", "rte"] := by
  have haccepted : (ofRoot "/run").validate = .ok () := by decide
  obtain ⟨-, ⟨hnames, -, hordinary, -⟩, -⟩ := places_of_prefix haccepted
  have hroot : Path.names (ofRoot "/run").root = ["run"] := by decide
  rw [hroot] at hnames
  exact ⟨haccepted, hordinary.2 (by decide), hnames⟩

/-- Two dots are accepted as a prefix, and the runtime directory is the root itself. -/
theorem runtimeDir_of_two_dots :
    let s : Settings := { ofRoot "/run" with filePrefix := ".." }
    let store : FileStore := { FileStore.empty with
      nodes := [(["run"], .directory), (["run", "dpdk"], .directory)] }
    s.validate = .ok () ∧ s.runtimeDir = "/run/dpdk/.." ∧ store.resolve s.root = .ok ["run"]
      ∧ store.resolve s.runtimeDir = .ok ["run"] ∧ ¬Path.IsOrdinary s.filePrefix := by
  exact ⟨by decide, by decide, by decide +kernel, by decide +kernel, fun h => h.not_up rfl⟩

end Settings

end Passthrough
