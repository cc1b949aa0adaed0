import AccountKeeper.Files.Tree
import AccountKeeper.Program

/-!
# Sessions

One run of the program over a tree of files and a terminal, as a function: what
is typed and what can be reached go in, what is printed and the changed files
come out.
-/

set_option autoImplicit false

namespace AccountKeeper

structure Session where
  files : FileTree
  terminal : Terminal := {}
  listed : List Account := []
  password : Option String := none
  randomness : Nat → Nat
  draws : Nat := 0

namespace Session

def filesPart : Part Session FileTree where
  get session := session.files
  set files session := { session with files }

def terminalPart : Part Session Terminal where
  get session := session.terminal
  set terminal session := { session with terminal }

def listedPart : Part Session (List Account) where
  get session := session.listed
  set listed session := { session with listed }

def passwordPart : Part Session (Option String) where
  get session := session.password
  set password session := { session with password }

instance : Journal Session where
  record entry session :=
    { session with terminal := Journal.record entry session.terminal }

def draw : StateM Session Nat := do
  let session ← get
  set { session with draws := session.draws + 1 }
  return session.randomness session.draws

/-- The program over a keyring, whose entries are no part of the session. -/
def programOver (cipher : Cipher) (network : Network Session) (keyring : Keyring Session) :
    Program Session where
  files := FileTree.system.on filesPart
  keyring
  cipher
  network
  draw
  terminal := terminalPart
  password := passwordPart
  listed := listedPart

def program (cipher : Cipher) (network : Network Session) : Program Session :=
  programOver cipher network Keyring.absent

/-- The configuration in a tree of files, with its path; a faulty one counts as empty. -/
def configuration? (files : FileTree) (environment : Environment) : Option (String × Config) :=
  match Config.resolvePath environment with
  | .error _ => none
  | .ok path =>
    let loaded := ((Config.loadFrom FileTree.system path).run files).1
    some (path, loaded.toOption.getD {})

def footprint (files : FileTree) (environment : Environment) : List String :=
  match configuration? files environment with
  | none => []
  | some (path, config) =>
    let secrets := (program (.age 0 0) .unreachable).backends.encrypted
      (config.secrets.directory environment)
    [path, config.settingsPath environment, config.statePath environment,
      secrets.pathOf legacySecretKey]

def runOver (session : Session) (cipher : Cipher) (network : Network Session)
    (keyring : Keyring Session) (environment : Environment) (arguments : List String) :
    Nat × Session :=
  ((programOver cipher network keyring).main environment arguments).run session

def run (session : Session) (cipher : Cipher) (network : Network Session)
    (environment : Environment) (arguments : List String) : Nat × Session :=
  session.runOver cipher network Keyring.absent environment arguments

end Session

end AccountKeeper
