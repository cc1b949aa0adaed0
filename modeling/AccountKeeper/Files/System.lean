import AccountKeeper.Files.Tree

/-!
# File systems

The file operations that the stores use, over any state.  `FileTree.system`
gives them on file trees.
-/

set_option autoImplicit false

namespace AccountKeeper

structure FileSystem (σ : Type) where
  leads : String → StateM σ Bool
  read : String → ActionE FileFault σ ByteArray
  write : String → ByteArray → ActionE FileFault σ Unit
  setMode : String → Nat → ActionE FileFault σ Unit
  remove : String → ActionE FileFault σ Unit
  /-- Whether a path names a symbolic link itself. -/
  isLink : String → ActionE FileFault σ Bool
  makeParents : String → ActionE FileFault σ Unit
  makeDirectories : String → ActionE FileFault σ Unit

namespace FileSystem

variable {σ τ : Type}

def readText (system : FileSystem σ) (path : String) : ActionE FileFault σ String := do
  let content ← system.read path
  match String.fromUTF8? content with
  | some text => return text
  | none => throw .notText

def writeText (system : FileSystem σ) (path text : String) : ActionE FileFault σ Unit :=
  system.write path text.toUTF8

def on (part : Part σ τ) (system : FileSystem τ) : FileSystem σ where
  leads path := part.liftState (system.leads path)
  read path := part.lift (system.read path)
  write path content := part.lift (system.write path content)
  setMode path mode := part.lift (system.setMode path mode)
  remove path := part.lift (system.remove path)
  isLink path := part.lift (system.isLink path)
  makeParents path := part.lift (system.makeParents path)
  makeDirectories path := part.lift (system.makeDirectories path)

end FileSystem

namespace FileTree

def looking {α : Type} (look : FileTree → Except FileFault α) : ActionE FileFault FileTree α :=
  ActionE.of fun tree => (look tree, tree)

/-- An operation that leaves the tree as it is when it fails. -/
def changing (change : FileTree → Except FileFault FileTree) : ActionE FileFault FileTree Unit :=
  ActionE.of fun tree =>
    match change tree with
    | .ok changed => (.ok (), changed)
    | .error fault => (.error fault, tree)

def system : FileSystem FileTree where
  leads path := fun tree => (tree.leads path, tree)
  read path := looking (·.read path)
  write path content := changing (·.write path content)
  setMode path mode := changing (·.setMode path mode)
  remove path := changing (·.remove path)
  isLink path := looking fun tree =>
    (tree.named path).map fun
      | .link _ => true
      | _ => false
  makeParents path := ActionE.of (makeParents path)
  makeDirectories path := ActionE.of (FileTree.makeDirectories path)

end FileTree

end AccountKeeper
