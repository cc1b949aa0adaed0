import AccountKeeper.Association

/-!
# Places of a file tree

A place is the list of names that lead to it from the root.  A branch holds what
stands at a place and below it; `at?`, `put`, `erase` and `cut` are its
operations, and the lemmas say what they do to every place.
-/

set_option autoImplicit false

namespace AccountKeeper

inductive FileNode where
  | file (content : ByteArray) (mode : Nat)
  | directory
  | link (target : String)

namespace FileNode

def decEq : (left right : FileNode) → Decidable (left = right)
  | .file content mode, .file content' mode' =>
    decidable_of_iff (content.data = content'.data ∧ mode = mode') (by
      simp [ByteArray.ext_iff])
  | .directory, .directory => isTrue rfl
  | .link target, .link target' => decidable_of_iff (target = target') (by simp)
  | .file _ _, .directory => isFalse nofun
  | .file _ _, .link _ => isFalse nofun
  | .directory, .file _ _ => isFalse nofun
  | .directory, .link _ => isFalse nofun
  | .link _, .file _ _ => isFalse nofun
  | .link _, .directory => isFalse nofun

instance : DecidableEq FileNode := FileNode.decEq

end FileNode

abbrev Place := List String

/-- What stands at a place, and the branches below it with their names. -/
inductive FileBranch where
  | grow (node : Option FileNode) (below : List (String × FileBranch))

namespace FileBranch

def bare : FileBranch := .grow none []

def at? : FileBranch → Place → Option FileNode
  | .grow node _, [] => node
  | .grow _ below, name :: rest =>
    match below.lookup name with
    | none => none
    | some inner => inner.at? rest

/-- The branch with a name, which is bare if there is none. -/
def inner (name : String) : FileBranch → FileBranch
  | .grow _ below => (below.lookup name).getD bare

/-- Changes the branch at a place; a missing one is bare before the change. -/
def change (update : FileBranch → FileBranch) : Place → FileBranch → FileBranch
  | [], branch => update branch
  | name :: rest, .grow node below =>
    .grow node (Association.put name (change update rest ((below.lookup name).getD bare)) below)

def withNode (node : Option FileNode) : FileBranch → FileBranch
  | .grow _ below => .grow node below

def put (branch : FileBranch) (place : Place) (node : FileNode) : FileBranch :=
  branch.change (withNode (some node)) place

/-- Removes what stands at a place; what stands below stays. -/
def erase (branch : FileBranch) (place : Place) : FileBranch :=
  branch.change (withNode none) place

def cut (branch : FileBranch) (place : Place) : FileBranch :=
  branch.change (fun _ => bare) place

@[simp] theorem at?_bare (place : Place) : bare.at? place = none := by
  cases place <;> rfl

theorem at?_inner (branch : FileBranch) (name : String) (place : Place) :
    (branch.inner name).at? place = branch.at? (name :: place) := by
  obtain ⟨_, below⟩ := branch
  simp only [inner, at?]
  cases below.lookup name with
  | none => simp
  | some inner => simp

theorem at?_withNode (branch : FileBranch) (node : Option FileNode) (place : Place) :
    (branch.withNode node).at? place = if place = [] then node else branch.at? place := by
  obtain ⟨_, below⟩ := branch
  cases place <;> simp [withNode, at?]

/-- Giving a place another node changes that place and nothing else. -/
theorem at?_change_withNode (branch : FileBranch) (node : Option FileNode)
    (place other : Place) :
    (branch.change (withNode node) place).at? other =
      if other = place then node else branch.at? other := by
  induction place generalizing branch other with
  | nil => exact at?_withNode branch node other
  | cons name rest ih =>
    obtain ⟨here, below⟩ := branch
    cases other with
    | nil => simp [change, at?]
    | cons first others =>
      simp only [change, at?, Association.lookup_put]
      by_cases same : first = name
      · subst same
        simp only [if_true, ih, List.cons.injEq, true_and]
        cases below.lookup first with
        | none => simp
        | some inner => simp
      · simp [same]

mutual

def nodes (here : Place) : FileBranch → List (Place × FileNode)
  | .grow node below => (node.map fun node => (here, node)).toList ++ nodesBelow here below

def nodesBelow (here : Place) : List (String × FileBranch) → List (Place × FileNode)
  | [] => []
  | (name, branch) :: rest => branch.nodes (here ++ [name]) ++ nodesBelow here rest

end

end FileBranch

end AccountKeeper
