import AccountKeeper.Files.System
import AccountKeeper.Proofs.Files.Ways

/-!
# Changes to a file tree

What each operation on files changes, and what paths lead to afterwards.  Writing
and removing change one place; making directories adds directories where nothing
stood.  None of them takes a way away, so paths that were found before are found
again.
-/

set_option autoImplicit false

namespace AccountKeeper.FileTree

variable {tree tree' : FileTree} {path : String}

/-- The place that a path itself names: a link at its end is not passed. -/
def Names (tree : FileTree) (path : String) (place : Place) : Prop :=
  ∃ arrival, tree.follow .never path = .ok arrival ∧ arrival.place = place

def NamesLink (tree : FileTree) (path : String) : Prop :=
  ∃ place target, tree.Names path place ∧ tree.at? place = some (.link target)

theorem Names.mono {place : Place} (keeps : tree.KeepsWays tree') (names : tree.Names path place) :
    tree'.Names path place := by
  obtain ⟨arrival, followed, there⟩ := names
  exact ⟨arrival, follow_never_mono keeps followed, there⟩

theorem Names.unique {place other : Place} (names : tree.Names path place)
    (names' : tree.Names path other) : other = place := by
  obtain ⟨arrival, followed, rfl⟩ := names
  obtain ⟨arrival', followed', rfl⟩ := names'
  rw [followed] at followed'
  cases followed'
  rfl

/-- What a path leads to is what it names, unless that is a link. -/
theorem names_of_follow {passing : Passing} {arrival : Arrival}
    (followed : tree.follow passing path = .ok arrival) (noLink : ¬tree.NamesLink path) :
    tree.Names path arrival.place := by
  rcases follow_never followed with same | ⟨named, target, names, found⟩
  · exact ⟨arrival, same, rfl⟩
  · exact absurd ⟨named.place, target, ⟨named, names, rfl⟩, found⟩ noLink

/-- A path that names no link leads to what it names. -/
theorem follow_always_of_names {arrival : Arrival}
    (named : tree.follow .never path = .ok arrival)
    (noLink : ∀ target, tree.at? arrival.place ≠ some (.link target)) :
    tree.follow .always path = .ok arrival :=
  follow_change named (fun _ _ _ => rfl) noLink

/-! ## What paths lead to -/

theorem leads_iff :
    tree.leads path = true ↔ ∃ place node, tree.find .always path = .ok (place, node) := by
  unfold leads target
  cases tree.find .always path with
  | error fault => simp [bind, Except.bind, Except.isOk, Except.toBool]
  | ok result =>
    obtain ⟨place, node⟩ := result
    simp [bind, Except.bind, pure, Except.pure, Except.isOk, Except.toBool]

theorem read_of_find {place : Place} {content : ByteArray} {mode : Nat}
    (found : tree.find .always path = .ok (place, .file content mode)) :
    tree.read path = .ok content := by
  unfold read target
  rw [found]
  rfl

theorem leads_of_read {content : ByteArray} (found : tree.read path = .ok content) :
    tree.leads path = true := by
  unfold read at found
  unfold leads
  cases led : tree.target path with
  | error fault =>
    rw [led] at found
    cases found
  | ok node => rfl

section Named

variable {place : Place} (plain : Path.endsInSlash path = false) (names : tree.Names path place)

include plain names

theorem named_of_names {node : FileNode} (there : tree.at? place = some node) :
    tree.named path = .ok node := by
  obtain ⟨arrival, followed, rfl⟩ := names
  obtain ⟨followable, way⟩ := follow_eq_ok.mp followed
  have slashless : arrival.slash = false := way.never_slash.trans plain
  have found : tree.find .bySlash path = .ok (arrival.place, node) :=
    find_eq_ok.mpr ⟨arrival, follow_eq_ok.mpr ⟨followable, way.bySlash plain⟩, rfl, there,
      by simp [slashless]⟩
  unfold named
  rw [found]
  rfl

theorem find_of_names {node : FileNode} (there : tree.at? place = some node)
    (noLink : ∀ target, node ≠ .link target) : tree.find .always path = .ok (place, node) := by
  obtain ⟨arrival, followed, rfl⟩ := names
  obtain ⟨_, way⟩ := follow_eq_ok.mp followed
  have slashless : arrival.slash = false := way.never_slash.trans plain
  refine find_eq_ok.mpr ⟨arrival, follow_always_of_names followed ?_, rfl, there,
    by simp [slashless]⟩
  intro target link
  rw [there] at link
  exact noLink target (Option.some.inj link)

omit plain in
theorem not_leads_of_names (absent : tree.at? place = none) : tree.leads path = false := by
  obtain ⟨arrival, followed, rfl⟩ := names
  have same := follow_always_of_names followed (by simp [absent])
  rw [← Bool.not_eq_true, leads_iff]
  rintro ⟨other, node, found⟩
  obtain ⟨arrival', followed', rfl, there, _⟩ := find_eq_ok.mp found
  cases same.symm.trans followed'
  rw [absent] at there
  cases there

end Named

/-! ## Files -/

/-- The permissions of what a write leaves at a place. -/
def modeAt (tree : FileTree) (place : Place) : Nat :=
  match tree.at? place with
  | some (.file _ mode) => mode
  | _ => newFileMode

/-- A path leads to a place where a file can be written. -/
structure Writable (tree : FileTree) (path : String) (place : Place) : Prop where
  followed : tree.follow .unlessSlash path = .ok ⟨place, true, false⟩
  leaf : tree.Leaf place

theorem write_eq_ok {content : ByteArray} :
    tree.write path content = .ok tree' ↔
      ∃ place, tree.Writable path place ∧
        tree' = tree.put place (.file content (tree.modeAt place)) := by
  unfold write
  cases followed : tree.follow .unlessSlash path with
  | error fault =>
    constructor
    · intro written
      cases written
    · rintro ⟨place, writable, _⟩
      cases followed.symm.trans writable.followed
  | ok arrival =>
    obtain ⟨place, named, slash⟩ := arrival
    simp only [bind, Except.bind]
    constructor
    · intro written
      split at written
      · cases written
      rename_i slashless
      obtain ⟨rfl, rfl⟩ : slash = false ∧ named = true := by simpa using slashless
      split at written
      · rename_i found
        cases written
        exact ⟨place, ⟨followed, .of_absent found⟩, by simp [modeAt, found]⟩
      · rename_i content mode found
        cases written
        exact ⟨place, ⟨followed, by simp [found], by simp [found]⟩, by simp [modeAt, found]⟩
      · cases written
      · cases written
    · rintro ⟨place', ⟨followed', leaf⟩, rfl⟩
      cases followed.symm.trans followed'
      simp only [Bool.false_eq_true, not_true_eq_false, or_self, if_false]
      unfold modeAt
      cases found : tree.at? place with
      | none => rfl
      | some node =>
        cases node with
        | file _ _ => rfl
        | directory => exact absurd found leaf.noDirectory
        | link target => exact absurd found (leaf.noLink target)

namespace Writable

variable {place : Place} (writable : tree.Writable path place)

include writable

theorem not_root : place ≠ [] := writable.leaf.not_root

theorem unique {other : Place} (writable' : tree.Writable path other) : other = place := by
  have same := writable'.followed.symm.trans writable.followed
  injection same with same
  exact congrArg Arrival.place same

theorem write (content : ByteArray) :
    tree.write path content = .ok (tree.put place (.file content (tree.modeAt place))) :=
  write_eq_ok.mpr ⟨place, writable, rfl⟩

theorem put_at? (node : FileNode) (other : Place) :
    (tree.put place node).at? other = if other = place then some node else tree.at? other :=
  at?_put tree place other node writable.not_root

theorem find (content : ByteArray) (mode : Nat) :
    (tree.put place (.file content mode)).find .always path =
      .ok (place, .file content mode) := by
  have keeps := KeepsWays.put writable.leaf (.file content mode)
  have there : (tree.put place (.file content mode)).at? place = some (.file content mode) := by
    rw [writable.put_at?, if_pos rfl]
  have followed := follow_change writable.followed (fun _ _ _ => rfl) writable.leaf.noLink
  refine find_eq_ok.mpr ⟨_, follow_mono keeps followed ?_, rfl, there, by simp⟩
  intro target found
  rw [there] at found
  cases found

theorem read (content : ByteArray) (mode : Nat) :
    (tree.put place (.file content mode)).read path = .ok content :=
  read_of_find (writable.find content mode)

theorem again (content : ByteArray) (mode : Nat) :
    (tree.put place (.file content mode)).Writable path place := by
  have there : (tree.put place (.file content mode)).at? place = some (.file content mode) := by
    rw [writable.put_at?, if_pos rfl]
  have leaf : (tree.put place (.file content mode)).Leaf place :=
    ⟨by simp [there], by simp [there]⟩
  refine ⟨follow_mono (.put writable.leaf _) writable.followed ?_, leaf⟩
  intro target link
  exact absurd link (leaf.noLink target)

theorem setMode (content : ByteArray) (mode mode' : Nat) :
    (tree.put place (.file content mode)).setMode path mode' =
      .ok ((tree.put place (.file content mode)).put place (.file content mode')) := by
  unfold FileTree.setMode
  rw [writable.find]
  rfl

end Writable

/-- Removing takes away what a path names, which may be a link. -/
theorem remove_eq_ok :
    tree.remove path = .ok tree' ↔
      ∃ place, tree.follow .never path = .ok ⟨place, true, false⟩ ∧
        (tree.at? place).isSome ∧ tree.at? place ≠ some .directory ∧
        tree' = tree.erase place := by
  unfold remove
  cases followed : tree.follow .never path with
  | error fault => simp [bind, Except.bind]
  | ok arrival =>
    obtain ⟨place, named, slash⟩ := arrival
    simp only [bind, Except.bind, Except.ok.injEq, Arrival.mk.injEq]
    constructor
    · intro removed
      split at removed
      · cases removed
      rename_i isNamed
      obtain rfl : named = true := by simpa using isNamed
      split at removed
      · cases removed
      · cases removed
      · rename_i node noDirectory found
        split at removed
        · cases removed
        · rename_i slashless
          cases removed
          refine ⟨place, ⟨rfl, rfl, by simpa using slashless⟩, by simp [found], ?_, rfl⟩
          rw [found]
          exact fun isDirectory => noDirectory (Option.some.inj isDirectory)
    · rintro ⟨_, ⟨rfl, rfl, rfl⟩, present, noDirectory, rfl⟩
      obtain ⟨node, found⟩ := Option.isSome_iff_exists.mp present
      simp only [not_true_eq_false, if_false, found]
      cases node with
      | file _ _ => rfl
      | directory => exact absurd found noDirectory
      | link _ => rfl

theorem run_changing_ok {change : FileTree → Except FileFault FileTree}
    (changed : change tree = .ok tree') : (changing change).run tree = (.ok (), tree') := by
  simp [changing, changed]

theorem run_changing_error {change : FileTree → Except FileFault FileTree} {fault : FileFault}
    (failed : change tree = .error fault) :
    (changing change).run tree = (.error fault, tree) := by
  simp [changing, failed]

/-! ## Directories -/

/-- What stands somewhere stands in a directory. -/
def Rooted (tree : FileTree) : Prop :=
  ∀ place name, tree.at? (place ++ [name]) ≠ none → tree.at? place = some .directory

theorem rooted_bare (start : Place) : Rooted { workingDirectory := start } := by
  intro place name there
  simp [at?] at there

theorem Rooted.put (rooted : tree.Rooted) (place : Place) (name : String) (node : FileNode)
    (inside : tree.at? place = some .directory) (leaf : tree.Leaf (place ++ [name])) :
    (tree.put (place ++ [name]) node).Rooted := by
  have keeps := KeepsWays.put leaf node
  intro other last there
  rw [at?_put _ _ _ _ leaf.not_root] at there
  by_cases same : other ++ [last] = place ++ [name]
  · rw [(List.append_inj' same rfl).1]
    exact keeps.directory place inside
  · rw [if_neg same] at there
    exact keeps.directory other (rooted other last there)

theorem makeDirectory_eq_ok :
    tree.makeDirectory path = .ok tree' ↔
      ∃ arrival, tree.follow .never path = .ok arrival ∧ arrival.named = true ∧
        tree.at? arrival.place = none ∧ tree' = tree.put arrival.place .directory := by
  unfold makeDirectory
  cases followed : tree.follow .never path with
  | error fault => simp [bind, Except.bind]
  | ok arrival =>
    simp only [bind, Except.bind, Except.ok.injEq]
    constructor
    · intro made
      split at made
      · cases made
      rename_i new
      cases made
      obtain ⟨named, absent⟩ : arrival.named = true ∧ tree.at? arrival.place = none := by
        simpa using new
      exact ⟨arrival, rfl, named, absent, rfl⟩
    · rintro ⟨_, rfl, named, absent, rfl⟩
      rw [if_neg (by simp [named, absent])]
      rfl

/-- A tree has directories that another one lacks, to which the given paths lead, and is the same
everywhere else. -/
structure Made (tree tree' : FileTree) (paths : List String) : Prop where
  keeps : tree.KeepsWays tree'
  only : ∀ place, tree'.at? place = tree.at? place ∨
    (tree.at? place = none ∧ ∃ made ∈ paths, tree'.find .always made = .ok (place, .directory))

namespace Made

theorem refl (tree : FileTree) (paths : List String) : tree.Made tree paths :=
  ⟨.refl tree, fun _ => .inl rfl⟩

theorem trans {tree'' : FileTree} {first second : List String} (before : tree.Made tree' first)
    (after : tree'.Made tree'' second) : tree.Made tree'' (second ++ first) where
  keeps := before.keeps.trans after.keeps
  only place := by
    rcases after.only place with same | ⟨absent, made, member, leads⟩
    · rw [same]
      rcases before.only place with same' | ⟨absent, made, member, leads⟩
      · exact .inl same'
      · refine .inr ⟨absent, made, List.mem_append_right _ member, ?_⟩
        obtain ⟨_, _, _, there, _⟩ := find_eq_ok.mp leads
        exact find_mono after.keeps leads (after.keeps.directory place there) (by simp)
    · refine .inr ⟨?_, made, List.mem_append_left _ member, leads⟩
      rcases before.only place with same' | ⟨absent', _⟩
      · rw [← same', absent]
      · exact absent'

end Made

theorem made_makeDirectory (made : tree.makeDirectory path = .ok tree') :
    tree.Made tree' [path] ∧ ∃ place, tree'.find .always path = .ok (place, .directory) := by
  obtain ⟨arrival, followed, named, absent, rfl⟩ := makeDirectory_eq_ok.mp made
  have leaf : tree.Leaf arrival.place := .of_absent absent
  have keeps := KeepsWays.put leaf .directory
  have there (other : Place) := at?_put tree arrival.place other .directory leaf.not_root
  have found : (tree.put arrival.place .directory).find .always path =
      .ok (arrival.place, .directory) := by
    refine find_eq_ok.mpr ⟨arrival, ?_, rfl, by rw [there, if_pos rfl], fun _ => rfl⟩
    refine follow_always_of_names (follow_never_mono keeps followed) ?_
    intro target link
    rw [there, if_pos rfl] at link
    cases link
  refine ⟨⟨keeps, ?_⟩, arrival.place, found⟩
  intro place
  rw [there]
  by_cases here : place = arrival.place
  · subst here
    exact .inr ⟨absent, path, by simp, found⟩
  · exact .inl (if_neg here)

theorem leadsToDirectory_iff :
    tree.leadsToDirectory path = true ↔
      ∃ place, tree.find .always path = .ok (place, .directory) := by
  unfold leadsToDirectory target
  cases found : tree.find .always path with
  | error fault => simp [bind, Except.bind, Except.toOption]
  | ok result =>
    obtain ⟨place, node⟩ := result
    simp [bind, Except.bind, pure, Except.pure, Except.toOption]

/-- Directories are made only where nothing stood; if that works, the last one is there. -/
theorem made_makeAll (paths : List String) (tree : FileTree) :
    tree.Made (makeAll paths tree).2 paths ∧
      ((makeAll paths tree).1 = .ok () →
        ∀ path ∈ paths.head?, (makeAll paths tree).2.leadsToDirectory path = true) := by
  induction paths generalizing tree with
  | nil => exact ⟨.refl tree [], by simp⟩
  | cons path above ih =>
    have settled (tree : FileTree) (fault : FileFault) :
        (makeAll.settle path (.error fault) tree).1 = .ok () →
          tree.leadsToDirectory path = true := by
      intro worked
      unfold makeAll.settle at worked
      dsimp only at worked
      split at worked
      · rename_i there
        exact there.2
      · cases worked
    have weaker {tree' : FileTree} (made : tree.Made tree' [path]) :
        tree.Made tree' (path :: above) := (Made.refl tree above).trans made
    unfold makeAll
    cases made : tree.makeDirectory path with
    | ok tree' =>
      obtain ⟨extended, place, found⟩ := made_makeDirectory made
      refine ⟨weaker extended, fun _ other isPath => ?_⟩
      cases isPath
      exact leadsToDirectory_iff.mpr ⟨place, found⟩
    | error fault =>
      cases fault with
      | notFound =>
        obtain ⟨extended, _⟩ := ih tree
        dsimp only
        cases before : makeAll above tree with
        | mk outcome below =>
          rw [before] at extended
          cases outcome with
          | error cause =>
            exact ⟨extended.trans (.refl below [path]), fun worked => by cases worked⟩
          | ok _ =>
            dsimp only
            cases made' : below.makeDirectory path with
            | ok tree' =>
              obtain ⟨last, place, found⟩ := made_makeDirectory made'
              refine ⟨extended.trans last, fun _ other isPath => ?_⟩
              cases isPath
              exact leadsToDirectory_iff.mpr ⟨place, found⟩
            | error cause =>
              refine ⟨extended.trans (.refl below [path]), fun worked other isPath => ?_⟩
              cases isPath
              exact settled below cause worked
      | _ =>
        refine ⟨.refl tree _, fun worked other isPath => ?_⟩
        cases isPath
        exact settled tree _ worked

theorem made_makeDirectories (path : String) (tree : FileTree) :
    tree.Made (tree.makeDirectories path).2 (path :: Path.above path) := by
  unfold makeDirectories
  split
  · exact .refl tree _
  · exact (made_makeAll _ tree).1

theorem makeDirectories_of_leads (leads : tree.leadsToDirectory path = true) :
    tree.makeDirectories path = (.ok (), tree) := by
  obtain ⟨place, found⟩ := leadsToDirectory_iff.mp leads
  have refused : tree.makeDirectory path = .error .alreadyExists := by
    obtain ⟨arrival, followed, rfl, there, _⟩ := find_eq_ok.mp found
    have taken : ∃ named, tree.follow .never path = .ok named ∧
        (tree.at? named.place).isSome = true := by
      rcases follow_never followed with same | ⟨named, target, names, link⟩
      · exact ⟨arrival, same, by simp [there]⟩
      · exact ⟨named, names, by simp [link]⟩
    obtain ⟨named, names, occupied⟩ := taken
    unfold makeDirectory
    simp [names, occupied, bind, Except.bind]
    rfl
  unfold makeDirectories
  split
  · rfl
  · unfold makeAll
    rw [refused]
    dsimp only
    unfold makeAll.settle
    simp [leads]

theorem makeDirectories_again {later : FileTree}
    (made : tree.makeDirectories path = (.ok (), tree')) (keeps : tree'.KeepsWays later) :
    later.makeDirectories path = (.ok (), later) := by
  by_cases here : Path.steps path = []
  · unfold makeDirectories
    rw [if_pos here]
  · have result : makeAll (path :: Path.above path) tree = (.ok (), tree') := by
      rw [← made, makeDirectories, if_neg here]
    obtain ⟨_, leads⟩ := made_makeAll (path :: Path.above path) tree
    rw [result] at leads
    obtain ⟨place, found⟩ := leadsToDirectory_iff.mp (leads rfl path (by simp))
    obtain ⟨_, _, _, there, _⟩ := find_eq_ok.mp found
    exact makeDirectories_of_leads (leadsToDirectory_iff.mpr
      ⟨place, find_mono keeps found (keeps.directory place there) (by simp)⟩)

theorem makeParents_again {later : FileTree} (made : tree.makeParents path = (.ok (), tree'))
    (keeps : tree'.KeepsWays later) : later.makeParents path = (.ok (), later) := by
  unfold makeParents at made ⊢
  cases parent : Path.parent? path with
  | none => rfl
  | some above =>
    rw [parent] at made
    exact makeDirectories_again made keeps

end AccountKeeper.FileTree
