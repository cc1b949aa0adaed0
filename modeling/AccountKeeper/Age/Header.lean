import AccountKeeper.Age.Fault
import AccountKeeper.Text.Base64

/-!
# Headers of encrypted files

A file starts with a line that names the version.  Stanzas follow, one for each
way to obtain the file key: a line of words and a body in base 64.  The last
line holds a keyed hash of everything up to its mark.
-/

set_option autoImplicit false

namespace AccountKeeper.Age

/-- A stanza: its words, the first of which names its kind, and its body. -/
structure Stanza where
  kind : String
  arguments : List String
  body : List UInt8
  deriving DecidableEq, Repr

structure Header where
  stanzas : List Stanza
  mac : List UInt8
  covered : List UInt8
  deriving DecidableEq, Repr

namespace Header

def magic : List UInt8 := "age-encryption.org/".toUTF8.toList

def version : List UInt8 := "v1".toUTF8.toList

def stanzaMark : List UInt8 := "-> ".toUTF8.toList

def macMark : List UInt8 := "---".toUTF8.toList

def lineEnd : UInt8 := 10

def macLength : Nat := 43

def lineLength : Nat := 64

/-! ## Reading -/

/-- A reader: a value and the rest of the bytes. -/
abbrev Reader (α : Type) := List UInt8 → Except Fault (α × List UInt8)

def take (count : Nat) : Reader (List UInt8) := fun bytes =>
  if bytes.length < count then .error .incomplete else .ok (bytes.take count, bytes.drop count)

def endOfLine (otherwise : Fault) : Reader Unit
  | [] => .error .incomplete
  | b :: rest => if b = lineEnd then .ok ((), rest) else .error otherwise

def isVisible (b : UInt8) : Bool := 33 ≤ b && b ≤ 126

def asText (bytes : List UInt8) : String :=
  String.ofList (bytes.map fun b => Char.ofNat b.toNat)

def words : Reader (List String) := fun bytes =>
  let line := bytes.takeWhile fun b => isVisible b || b = 32
  let rest := bytes.drop line.length
  let found := (line.splitOnP (· = 32)).map asText
  if found.dropLast.contains "" then .error .unknownFormat
  else if rest = [] then .error .incomplete
  else if found.contains "" then .error .unknownFormat
  else do
    let ((), rest) ← endOfLine .unknownFormat rest
    return (found, rest)

def isDigit (b : UInt8) : Bool :=
  (Text.Base64.digit? (Char.ofNat b.toNat)).isSome

def runsOut : List UInt8 → Bool
  | [] => true
  | b :: rest =>
    if isDigit b then runsOut rest
    else b = lineEnd && rest.head?.all isDigit && runsOut rest

/-- The characters of a body: full lines, and then one that is shorter.  The shorter line may be
missing if the next line starts with a dash. -/
def bodyLines : Nat → Reader (List UInt8)
  | 0, _ => .error .incomplete
  | fuel + 1, bytes =>
    let line := (bytes.take lineLength).takeWhile isDigit
    match line, bytes.drop line.length with
    | _, [] => .error .incomplete
    | [], b :: rest =>
      if b = lineEnd then .ok ([], rest)
      else if macMark.head? = some b then .ok ([], bytes)
      else .error .unknownFormat
    | _, b :: rest =>
      if b = lineEnd ∧ line.length = lineLength then do
        let (more, rest) ← bodyLines fuel rest
        return (line ++ more, rest)
      else if b = lineEnd ∧ line.length % 4 ≠ 1 then .ok (line, rest)
      else .error (if runsOut bytes then .incomplete else .unknownFormat)

def decode (characters : List UInt8) : Except Fault (List UInt8) :=
  match Text.Base64.decode? (characters.map fun b => Char.ofNat b.toNat) with
  | some bytes => .ok bytes
  | none => .error .unknownFormat

def stanza : Reader Stanza := fun bytes => do
  let (found, rest) ← words bytes
  let (characters, rest) ← bodyLines (rest.length + 1) rest
  let body ← decode characters
  return (⟨found.headD "", found.drop 1, body⟩, rest)

/-- The stanzas, and what follows the mark of the last line. -/
def stanzaList : Nat → List Stanza → Reader (List Stanza)
  | 0, _, _ => .error .incomplete
  | fuel + 1, done, bytes => do
    let (mark, rest) ← take 3 bytes
    if mark = stanzaMark then
      let (next, rest) ← stanza rest
      stanzaList fuel (done ++ [next]) rest
    else if mark = macMark ∧ done ≠ [] then return (done, rest)
    else throw .unknownFormat

def firstLine : Reader Unit := fun bytes => do
  let (start, rest) ← take magic.length bytes
  if start ≠ magic then throw .invalidHeader
  let _ ← take version.length rest
  let name := rest.takeWhile isVisible
  let ((), after) ← endOfLine .invalidHeader (rest.drop name.length)
  if name = [] then throw .invalidHeader
  if name ≠ version then throw .unknownFormat
  return ((), after)

def read : Reader Header := fun bytes => do
  let ((), rest) ← firstLine bytes
  let (found, rest) ← stanzaList (rest.length + 1) [] rest
  let covered := bytes.take (bytes.length - rest.length)
  let (space, rest) ← take 1 rest
  if space ≠ [32] then throw .unknownFormat
  let (characters, rest) ← take macLength rest
  let mac ← decode characters
  let ((), rest) ← endOfLine .unknownFormat rest
  return (⟨found, mac, covered⟩, rest)

/-! ## Writing -/

def encode (bytes : List UInt8) : List UInt8 :=
  (Text.Base64.encode bytes).map fun c => c.toNat.toUInt8

/-- A header with one stanza, whose body fits on a line, up to the mark of the last line. -/
def covering (stanza : Stanza) : List UInt8 :=
  magic ++ version ++ lineEnd :: stanzaMark ++
    (" ".intercalate (stanza.kind :: stanza.arguments)).toUTF8.toList ++
    lineEnd :: encode stanza.body ++ lineEnd :: macMark

def closing (mac : List UInt8) : List UInt8 :=
  32 :: encode mac ++ [lineEnd]

end Header

end AccountKeeper.Age
