import AccountKeeper.Proofs.Files.Path

/-!
# Names in a directory

Files that are named by joining a plain name to the path of one directory.  A
directory serves such names if each of them names a file or nothing, and nothing
is named before the directory is made.  Changing the file of one name leaves the
entries of all others.
-/

set_option autoImplicit false

namespace AccountKeeper.FileTree

variable {tree tree' : FileTree} {directory path name other : String} {base place : Place}
  {used : String → Prop}

/-! ## Entries -/

/-- What stands where a path itself names something. -/
def entry? (tree : FileTree) (path : String) : Option FileNode :=
  match tree.follow .never path with
  | .ok arrival => tree.at? arrival.place
  | .error _ => none

theorem entry?_of_names (named : tree.Names path place) : tree.entry? path = tree.at? place := by
  obtain ⟨arrival, followed, rfl⟩ := named
  unfold entry?
  rw [followed]

theorem entry?_eq_some {node : FileNode} :
    tree.entry? path = some node ↔ ∃ place, tree.Names path place ∧ tree.at? place = some node := by
  constructor
  · intro there
    unfold entry? at there
    cases followed : tree.follow .never path with
    | error fault =>
      rw [followed] at there
      cases there
    | ok arrival =>
      rw [followed] at there
      exact ⟨arrival.place, ⟨arrival, followed, rfl⟩, there⟩
  · rintro ⟨place, named, there⟩
    rw [entry?_of_names named, there]

theorem not_leads_of_entry (absent : tree.entry? path = none) : tree.leads path = false := by
  cases followed : tree.follow .never path with
  | ok arrival =>
    unfold entry? at absent
    rw [followed] at absent
    exact not_leads_of_names ⟨arrival, followed, rfl⟩ absent
  | error fault =>
    rw [← Bool.not_eq_true, leads_iff]
    rintro ⟨place, node, found⟩
    obtain ⟨arrival, led, _⟩ := find_eq_ok.mp found
    rcases follow_never led with same | ⟨named, target, same, _⟩
    · cases followed.symm.trans same
    · cases followed.symm.trans same

/-! ## Trees that differ in one file -/

structure Differ (tree tree' : FileTree) (place : Place) : Prop where
  keeps : tree.KeepsWays tree'
  kept : tree'.KeepsWays tree
  others : ∀ other ≠ place, tree'.at? other = tree.at? other

namespace Differ

theorem refl (tree : FileTree) (place : Place) : tree.Differ tree place :=
  ⟨.refl tree, .refl tree, fun _ _ => rfl⟩

/-- No way leads through a place where a file stands or nothing, before and after. -/
theorem of_leaf (start : tree'.workingDirectory = tree.workingDirectory) (before : tree.Leaf place)
    (after : tree'.Leaf place) (others : ∀ other ≠ place, tree'.at? other = tree.at? other) :
    tree.Differ tree' place where
  keeps := by
    refine ⟨start, fun other found => ?_, fun other target found => ?_⟩
    · rw [others other, found]
      rintro rfl
      exact before.noDirectory found
    · rw [others other, found]
      rintro rfl
      exact before.noLink target found
  kept := by
    refine ⟨start.symm, fun other found => ?_, fun other target found => ?_⟩
    · rw [← others other, found]
      rintro rfl
      exact after.noDirectory found
    · rw [← others other, found]
      rintro rfl
      exact after.noLink target found
  others := others

theorem erase (leaf : tree.Leaf place) : tree.Differ (tree.erase place) place := by
  have erased (other : Place) := at?_erase tree place other leaf.not_root
  refine of_leaf rfl leaf (.of_absent ?_) fun other different => ?_
  · rw [erased, if_pos rfl]
  · rw [erased, if_neg different]

theorem names_iff (differ : tree.Differ tree' place) (path : String) (site : Place) :
    tree'.Names path site ↔ tree.Names path site :=
  ⟨fun named => named.mono differ.kept, fun named => named.mono differ.keeps⟩

theorem entry?_eq (differ : tree.Differ tree' place)
    (elsewhere : ∀ site, tree.Names path site → site ≠ place) :
    tree'.entry? path = tree.entry? path := by
  refine Option.ext fun node => ?_
  rw [entry?_eq_some, entry?_eq_some]
  constructor
  · rintro ⟨site, named, there⟩
    have named' := (differ.names_iff path site).mp named
    exact ⟨site, named', by rw [← differ.others _ (elsewhere site named'), there]⟩
  · rintro ⟨site, named, there⟩
    exact ⟨site, (differ.names_iff path site).mpr named,
      by rw [differ.others _ (elsewhere site named), there]⟩

end Differ

/-! ## The place of a directory -/

/-- The place that names are looked up in when they are joined to a path. -/
inductive Located (tree : FileTree) (directory : String) : Place → Prop where
  | here (nowhere : directory = "") : Located tree directory tree.workingDirectory
  | found {base : Place} (leads : tree.find .always directory = .ok (base, .directory)) :
    Located tree directory base

namespace Located

theorem makeDirectories (located : tree.Located directory base) :
    tree.makeDirectories directory = (.ok (), tree) := by
  cases located with
  | here nowhere =>
    subst nowhere
    rfl
  | found leads => exact makeDirectories_of_leads (leadsToDirectory_iff.mpr ⟨base, leads⟩)

theorem mono (located : tree.Located directory base) (keeps : tree.KeepsWays tree') :
    tree'.Located directory base := by
  cases located with
  | here nowhere =>
    rw [← keeps.start]
    exact .here nowhere
  | found leads =>
    obtain ⟨_, _, _, there, _⟩ := find_eq_ok.mp leads
    exact .found (find_mono keeps leads (keeps.directory base there) (by simp))

theorem follow (located : tree.Located directory base) (isName : Path.IsName name)
    {arrival : Arrival} (followed : tree.follow .never (Path.join directory name) = .ok arrival) :
    arrival = ⟨base ++ [name], true, false⟩ := by
  rcases follow_join isName followed with ⟨nowhere, rfl⟩ | ⟨middle, led, rfl⟩
  · cases located with
    | here _ => rfl
    | found leads =>
      obtain ⟨_, led, _⟩ := find_eq_ok.mp leads
      exact absurd nowhere (follow_eq_ok.mp led).1.nonempty
  · cases located with
    | here nowhere => exact absurd nowhere (follow_eq_ok.mp led).1.nonempty
    | found leads =>
      obtain ⟨_, led', rfl, _⟩ := find_eq_ok.mp leads
      cases led.symm.trans led'
      rfl

theorem place_of_names (located : tree.Located directory base) (isName : Path.IsName name)
    (named : tree.Names (Path.join directory name) place) : place = base ++ [name] := by
  obtain ⟨arrival, followed, rfl⟩ := named
  rw [located.follow isName followed]

/-- A change to the file of one name leaves the entries of all others. -/
theorem entry?_other (located : tree.Located directory base)
    (differ : tree.Differ tree' (base ++ [name])) (isName : Path.IsName other)
    (different : other ≠ name) :
    tree'.entry? (Path.join directory other) = tree.entry? (Path.join directory other) := by
  refine differ.entry?_eq fun site named same => ?_
  rw [located.place_of_names isName named] at same
  exact different (List.singleton_inj.mp (List.append_cancel_left same))

end Located

/-! ## Directories that serve names -/

/-- Under each of some names there is a file or nothing.  The directory is there already, or it can
be made and is empty then; nothing is named before. -/
inductive Serves (tree : FileTree) (directory : String) (base : Place)
    (used : String → Prop) : Prop where
  | there (located : tree.Located directory base)
      (leaf : ∀ name, used name → tree.Leaf (base ++ [name]))
  | toMake {made : FileTree} (makes : tree.makeDirectories directory = (.ok (), made))
      (located : made.Located directory base)
      (empty : ∀ name, used name → made.at? (base ++ [name]) = none)
      (missing : ∀ name, used name → tree.entry? (Path.join directory name) = none)

/-- A name can be followed once the directory is made. -/
def Reaches (tree : FileTree) (directory name : String) : Prop :=
  ∃ arrival, (tree.makeDirectories directory).2.follow .never (Path.join directory name) =
    .ok arrival

theorem Reaches.mono {ready : FileTree} (reaches : tree.Reaches directory name)
    (makes : tree.makeDirectories directory = (.ok (), ready)) (located : ready.Located directory base)
    (keeps : ready.KeepsWays tree') : tree'.Reaches directory name := by
  obtain ⟨arrival, followed⟩ := reaches
  rw [makes] at followed
  refine ⟨arrival, ?_⟩
  rw [(located.mono keeps).makeDirectories]
  exact follow_never_mono keeps followed

namespace Serves

/-- The directory is made without a failure, and no entry is changed by that. -/
theorem ready (serves : tree.Serves directory base used) :
    ∃ made, tree.makeDirectories directory = (.ok (), made) ∧ made.Located directory base ∧
      (∀ name, used name → made.Leaf (base ++ [name])) ∧
      ∀ name, used name → Path.IsName name →
        made.entry? (Path.join directory name) = tree.entry? (Path.join directory name) := by
  cases serves with
  | there located leaf =>
    exact ⟨tree, located.makeDirectories, located, leaf, fun _ _ _ => rfl⟩
  | @toMake made makes located empty missing =>
    refine ⟨made, makes, located, fun name isUsed => .of_absent (empty name isUsed),
      fun name isUsed isName => ?_⟩
    rw [missing name isUsed, ← Option.not_isSome_iff_eq_none, Option.isSome_iff_exists]
    rintro ⟨node, there⟩
    obtain ⟨place, named, there⟩ := entry?_eq_some.mp there
    rw [located.place_of_names isName named, empty name isUsed] at there
    cases there

theorem entry_file (serves : tree.Serves directory base used) (isUsed : used name)
    (isName : Path.IsName name) {node : FileNode}
    (there : tree.entry? (Path.join directory name) = some node) :
    ∃ content mode, node = .file content mode := by
  obtain ⟨made, _, located, leaf, same⟩ := serves.ready
  rw [← same name isUsed isName] at there
  obtain ⟨place, named, there⟩ := entry?_eq_some.mp there
  rw [located.place_of_names isName named] at there
  cases node with
  | file content mode => exact ⟨content, mode, rfl⟩
  | directory => exact absurd there (leaf name isUsed).noDirectory
  | link target => exact absurd there ((leaf name isUsed).noLink target)

theorem located_of_entry (serves : tree.Serves directory base used) (isUsed : used name)
    {node : FileNode} (there : tree.entry? (Path.join directory name) = some node) :
    tree.Located directory base ∧ ∀ name, used name → tree.Leaf (base ++ [name]) := by
  cases serves with
  | there located leaf => exact ⟨located, leaf⟩
  | toMake makes located empty missing =>
    rw [missing name isUsed] at there
    cases there

end Serves

theorem Leaf.of_differ {site : Place} (differ : tree.Differ tree' place) (leaf : tree.Leaf site) :
    tree'.Leaf site :=
  ⟨fun found => leaf.noDirectory (differ.kept.directory site found),
    fun target found => leaf.noLink target (differ.kept.link site target found)⟩

/-! ## An empty directory -/

/-- A tree with nothing but a directory for secrets. -/
def credentialsOnly : FileTree :=
  ({} : FileTree).put ["credentials"] .directory

theorem serves_credentialsOnly (used : String → Prop) :
    credentialsOnly.Serves "/credentials" ["credentials"] used := by
  refine .there (.found rfl) fun name _ => .of_absent ?_
  show (({} : FileTree).put ["credentials"] .directory).at? ["credentials", name] = none
  rw [at?_put _ _ _ _ (by simp), if_neg (by simp)]
  simp [at?]

end AccountKeeper.FileTree
