import AccountKeeper.Crypto.Draws
import AccountKeeper.LogLine
import AccountKeeper.Session

/-!
# The executable

Reads the environment and the files that a run looks at, runs a session, prints
what comes out and writes the files that changed.  A question interrupts the
session; it is run again from the start with the answer added.  There is no
client for the network here, so that lookups find no server.
-/

set_option autoImplicit false

open AccountKeeper

namespace AccountKeeper.Executable

def variableNames : List String :=
  ["HOME", "XDG_CONFIG_HOME", "GH_ACCOUNTS_CONFIG", "GH_ACCOUNTS_MASTER_PASSWORD",
    "GH_ACCOUNTS_LOG_FORMAT", "GH_ACCOUNTS_LOG_LEVEL", "RUST_LOG"]

/-- The cost of sealing a secret, and the greatest cost of opening one. -/
def cipher : Cipher := .age 14 20

def readEnvironment : IO Environment := do
  let found ← variableNames.filterMapM fun name => do
    return (← IO.getEnv name).map fun value => (name, value)
  return ⟨found, none⟩

def placeOf (tree : FileTree) (path : String) : Place :=
  if Path.isAbsolute path then Path.parts path else tree.workingDirectory ++ Path.parts path

def pathOf (place : Place) : String := "/" ++ "/".intercalate place

def loadFile (tree : FileTree) (path : String) : IO FileTree := do
  let place := placeOf tree path
  try
    let content ← IO.FS.readBinFile (pathOf place)
    return tree.plant place (.file content FileTree.newFileMode)
  catch _ => return tree

def loadFiles (environment : Environment) : IO FileTree := do
  let here := (← IO.getEnv "PWD").getD "/"
  let bare : FileTree := { workingDirectory := Path.parts here }
  let first ← (Session.footprint bare environment).foldlM loadFile bare
  (Session.footprint first environment).foldlM loadFile bare

def rightsOf (mode : Nat) : IO.FileRight :=
  let right (bits : Nat) : IO.AccessRight :=
    { read := bits.testBit 2, write := bits.testBit 1, execution := bits.testBit 0 }
  { user := right (mode / 64), group := right (mode / 8), other := right mode }

def saveFiles (before after : FileTree) : IO Unit := do
  for (place, node) in after.nodes do
    match node with
    | .file content mode =>
      if before.at? place ≠ some node then
        IO.FS.createDirAll (pathOf place.dropLast)
        IO.FS.writeBinFile (pathOf place) content
        IO.setAccessRights (pathOf place) (rightsOf mode)
    | _ => pure ()
  for (place, node) in before.nodes do
    match node with
    | .file _ _ => if (after.at? place).isNone then IO.FS.removeFile (pathOf place)
    | _ => pure ()

def printPiece (format : LogFormat) : Output → IO Unit
  | .result text => IO.print text
  | .aside text => IO.eprint text
  | .report entry => IO.eprint (LogLine.render format entry)
  | .asks _ => pure ()

def readAnswer (question : Question) : IO Typed := do
  IO.eprint question.hiddenPrompt
  let line ← (← IO.getStdin).getLine
  return if line.isEmpty then .failure Terminal.endOfInput else .line (Text.trim line)

def formatOf (environment : Environment) (arguments : List String) : LogFormat :=
  match CommandLine.read arguments with
  | .run found => (Logging.ofEnvironment environment found.format found.verbose).format
  | _ => .text

/-- Runs a session, with what was typed so far, until it needs no more answers. -/
partial def converse (start : Session) (environment : Environment) (arguments : List String)
    (typed : List Typed) (shown : Nat) : IO Nat := do
  let ready := { start with terminal := { start.terminal with pending := typed } }
  let (code, final) := ready.run cipher .unreachable environment arguments
  let (output, question) := Output.untilQuestion typed.length final.terminal.output
  (output.drop shown).forM (printPiece (formatOf environment arguments))
  match question with
  | none =>
    saveFiles start.files final.files
    return code
  | some question =>
    let answer ← readAnswer question
    converse start environment arguments (typed ++ [answer]) output.length

end AccountKeeper.Executable

def main (arguments : List String) : IO UInt32 := do
  let environment ← Executable.readEnvironment
  let files ← Executable.loadFiles environment
  let seed ← IO.getRandomBytes 32
  let session : Session :=
    { files
      terminal := { attended := ← (← IO.getStdin).isTty }
      randomness := Crypto.draw seed.toList }
  return (← Executable.converse session environment arguments [] 0).toUInt32
