import AccountKeeper.Action
import AccountKeeper.Files.Branch
import AccountKeeper.Files.Fault
import AccountKeeper.Files.Path

/-!
# File trees

A file tree maps absolute places to regular files, directories and symbolic
links.  The operations follow links as an operating system does: reading,
writing and setting permissions act on what a link points to, removal and
inspection act on the link itself.  A slash at the end of a path insists on a
directory.
-/

set_option autoImplicit false

namespace AccountKeeper

structure FileTree where
  root : FileBranch := .bare
  workingDirectory : Place := []

namespace FileTree

/-- Steps that following one path may take: more than the longest path with all its links needs. -/
def stepLimit : Nat := 100000

def linkLimit : Nat := 40

def nameLimit : Nat := 255

def pathLimit : Nat := 4095

def newFileMode : Nat := 0o644

/-- What stands at a place, the root being a directory. -/
def at? (tree : FileTree) (place : Place) : Option FileNode :=
  if place = [] then some .directory else tree.root.at? place

def put (tree : FileTree) (place : Place) (node : FileNode) : FileTree :=
  { tree with root := tree.root.put place node }

def erase (tree : FileTree) (place : Place) : FileTree :=
  { tree with root := tree.root.erase place }

/-- Putting changes what stands at its place and nothing else. -/
theorem at?_put (tree : FileTree) (place other : Place) (node : FileNode) (h : place ≠ []) :
    (tree.put place node).at? other = if other = place then some node else tree.at? other := by
  by_cases root : other = []
  · subst root
    simp [at?, Ne.symm h]
  · have changed := tree.root.at?_change_withNode (some node) place other
    simpa [at?, put, FileBranch.put, root] using changed

theorem at?_erase (tree : FileTree) (place other : Place) (h : place ≠ []) :
    (tree.erase place).at? other = if other = place then none else tree.at? other := by
  by_cases root : other = []
  · subst root
    simp [at?, Ne.symm h]
  · have changed := tree.root.at?_change_withNode none place other
    simpa [at?, erase, FileBranch.erase, root] using changed

/-! ## Following paths -/

structure Arrival where
  place : Place
  named : Bool
  slash : Bool

/-- The names from the root to a place, the last one in front, each with the branch it leads to. -/
abbrev Trail := List (String × FileBranch)

namespace Trail

def place (trail : Trail) : Place :=
  (trail.map Prod.fst).reverse

def branch (tree : FileTree) : Trail → FileBranch
  | [] => tree.root
  | (_, branch) :: _ => branch

def further (tree : FileTree) (trail : Trail) (name : String) : Trail :=
  (name, (trail.branch tree).inner name) :: trail

def ofPlace (tree : FileTree) (place : Place) : Trail :=
  place.foldl (further tree) []

/-- What stands behind some names further stands below those names. -/
theorem at?_branch_foldl (tree : FileTree) (trail : Trail) (names rest : Place) :
    ((names.foldl (further tree) trail).branch tree).at? rest =
      (trail.branch tree).at? (names ++ rest) := by
  induction names generalizing trail with
  | nil => rfl
  | cons name names ih =>
    rw [List.foldl_cons, ih]
    exact FileBranch.at?_inner _ _ _

theorem at?_branch_ofPlace (tree : FileTree) (place rest : Place) :
    ((ofPlace tree place).branch tree).at? rest = tree.root.at? (place ++ rest) :=
  at?_branch_foldl tree [] place rest

end Trail

/-- When a link at the end of a path is passed, given whether a slash follows it. -/
abbrev Passing := Bool → Bool

namespace Passing

/-- To use what the link points to. -/
def always : Passing := fun _ => true

/-- To inspect the link, unless a slash asks for what it points to. -/
def bySlash : Passing := fun slash => slash

/-- To create what the link points to, which cannot have a slash behind it. -/
def unlessSlash : Passing := fun slash => !slash

/-- To change the directory in which the link is. -/
def never : Passing := fun _ => false

end Passing

/--
Follows the names `rest` from the end of the trail `here`, which is a directory;
`slash` says whether a slash ends the path.  The last name need not be in use.
-/
def walk (tree : FileTree) (passing : Passing) :
    Nat → Nat → Trail → List String → Bool → Except FileFault Arrival
  | 0, _, _, _, _ => .error .tooManyLinks
  | _ + 1, _, here, [], slash => .ok ⟨here.place, false, slash⟩
  | steps + 1, links, here, name :: rest, slash =>
    if name = "." then tree.walk passing steps links here rest slash
    else if name = ".." then tree.walk passing steps links here.tail rest slash
    else if nameLimit < name.utf8ByteSize then .error .nameTooLong
    else
      let next := here.further tree name
      match (next.branch tree).at? [] with
      | none => if rest = [] then .ok ⟨next.place, true, slash⟩ else .error .notFound
      | some .directory =>
        if rest = [] then .ok ⟨next.place, true, slash⟩
        else tree.walk passing steps links next rest slash
      | some (.file _ _) =>
        if rest = [] then .ok ⟨next.place, true, slash⟩ else .error .notADirectory
      | some (.link target) =>
        if rest = [] ∧ ¬passing slash then .ok ⟨next.place, true, slash⟩
        else
          match links with
          | 0 => .error .tooManyLinks
          | links + 1 =>
            let start := if Path.isAbsolute target then [] else here
            let insists := slash || (rest.isEmpty && Path.endsInSlash target)
            tree.walk passing steps links start (Path.parts target ++ rest) insists

def follow (tree : FileTree) (passing : Passing) (path : String) : Except FileFault Arrival :=
  if path.toList.contains '\x00' then .error .endMarkInPath
  else if path = "" then .error .notFound
  else if pathLimit < path.utf8ByteSize then .error .nameTooLong
  else
    let start := if Path.isAbsolute path then [] else Trail.ofPlace tree tree.workingDirectory
    tree.walk passing stepLimit linkLimit start (Path.parts path) (Path.endsInSlash path)

/-- The place and the node that a path leads to; a slash at its end insists on a directory. -/
def find (tree : FileTree) (passing : Passing) (path : String) :
    Except FileFault (Place × FileNode) := do
  let arrival ← tree.follow passing path
  match tree.at? arrival.place with
  | none => throw .notFound
  | some node =>
    if arrival.slash ∧ node ≠ .directory then throw .notADirectory
    else return (arrival.place, node)

def target (tree : FileTree) (path : String) : Except FileFault FileNode := do
  return (← tree.find .always path).2

def named (tree : FileTree) (path : String) : Except FileFault FileNode := do
  return (← tree.find .bySlash path).2

/-! ## Operations -/

def leads (tree : FileTree) (path : String) : Bool :=
  (tree.target path).isOk

def leadsToDirectory (tree : FileTree) (path : String) : Bool :=
  (tree.target path).toOption = some .directory

def read (tree : FileTree) (path : String) : Except FileFault ByteArray := do
  match ← tree.target path with
  | .file content _ => return content
  | .directory => throw .isADirectory
  | .link _ => throw .tooManyLinks

def write (tree : FileTree) (path : String) (content : ByteArray) : Except FileFault FileTree := do
  let arrival ← tree.follow .unlessSlash path
  if arrival.slash ∨ ¬arrival.named then throw .isADirectory
  match tree.at? arrival.place with
  | none => return tree.put arrival.place (.file content newFileMode)
  | some (.file _ mode) => return tree.put arrival.place (.file content mode)
  | some .directory => throw .isADirectory
  | some (.link _) => throw .tooManyLinks

def setMode (tree : FileTree) (path : String) (mode : Nat) : Except FileFault FileTree := do
  match ← tree.find .always path with
  | (place, .file content _) => return tree.put place (.file content mode)
  | _ => return tree

def remove (tree : FileTree) (path : String) : Except FileFault FileTree := do
  let arrival ← tree.follow .never path
  if ¬arrival.named then throw .isADirectory
  match tree.at? arrival.place with
  | none => throw .notFound
  | some .directory => throw .isADirectory
  | some _ => if arrival.slash then throw .notADirectory else return tree.erase arrival.place

def makeDirectory (tree : FileTree) (path : String) : Except FileFault FileTree := do
  let arrival ← tree.follow .never path
  if ¬arrival.named ∨ (tree.at? arrival.place).isSome then throw .alreadyExists
  return tree.put arrival.place .directory

/--
Creates a directory and those above it that are missing.  The paths are given
from the last one up; directories created before a failure remain.
-/
def makeAll : List String → FileTree → Except FileFault Unit × FileTree
  | [], tree => (.ok (), tree)
  | path :: above, tree =>
    match tree.makeDirectory path with
    | .ok made => (.ok (), made)
    | .error .notFound =>
      match makeAll above tree with
      | (.error fault, below) => (.error fault, below)
      | (.ok (), below) => settle path (below.makeDirectory path) below
    | .error fault => settle path (.error fault) tree
where
  /-- A directory that exists already is as good as a new one. -/
  settle (path : String) (made : Except FileFault FileTree) (tree : FileTree) :
      Except FileFault Unit × FileTree :=
    match made with
    | .ok made => (.ok (), made)
    | .error fault =>
      (if fault = .alreadyExists ∧ tree.leadsToDirectory path then .ok () else .error fault, tree)

def makeDirectories (path : String) (tree : FileTree) : Except FileFault Unit × FileTree :=
  if Path.steps path = [] then (.ok (), tree) else makeAll (path :: Path.above path) tree

def makeParents (path : String) (tree : FileTree) : Except FileFault Unit × FileTree :=
  match Path.parent? path with
  | none => (.ok (), tree)
  | some parent => makeDirectories parent tree

/-! ## Setting up trees -/

def nodes (tree : FileTree) : List (Place × FileNode) :=
  tree.root.nodes []

def prune (tree : FileTree) (place : Place) : FileTree :=
  { tree with root := tree.root.cut place }

/-- Puts a node at a place in place of everything there, and directories above it. -/
def plant (tree : FileTree) (place : Place) (node : FileNode) : FileTree :=
  let ready := (List.range place.length).foldl (fun tree count =>
    if (tree.at? (place.take count)).isSome then tree else tree.put (place.take count) .directory)
    (tree.prune place)
  ready.put place node

end FileTree

end AccountKeeper
