import AccountKeeper.Url.Percent

/-!
# Documents in JSON

`JsonValue.read` reads a document given as bytes.  Texts within it need not be
valid: one that is no Unicode text is kept as a text without a value, so that a
document can hold it where nobody looks.
-/

set_option autoImplicit false

namespace AccountKeeper

inductive JsonValue where
  | null
  | bool (value : Bool)
  /-- A number; nobody asks for its value. -/
  | number
  /-- A text; `none` if it is no Unicode text. -/
  | string (value : Option String)
  | array (items : List JsonValue)
  | object (members : List (Option String × JsonValue))
  deriving Repr

namespace JsonValue

def symbols (bytes : List UInt8) : List Char :=
  bytes.map fun byte => Char.ofNat byte.toNat

def skipBlanks (text : List Char) : List Char :=
  text.dropWhile fun c => c = ' ' || c = '\t' || c = '\n' || c = '\r'

/-! ## Texts -/

/-- What has been read of a text: its bytes in reverse, unless it is no Unicode text. -/
abbrev TextBytes := Option (List UInt8)

def TextBytes.push (bytes : List UInt8) (text : TextBytes) : TextBytes :=
  text.map (bytes.reverse ++ ·)

def TextBytes.value? (text : TextBytes) : Option String :=
  text.bind fun bytes => String.fromUTF8? ⟨bytes.reverse.toArray⟩

def shortEscape? (c : Char) : Option Char :=
  match c with
  | '"' => some '"'
  | '\\' => some '\\'
  | '/' => some '/'
  | 'b' => some '\x08'
  | 'f' => some '\x0C'
  | 'n' => some '\n'
  | 'r' => some '\r'
  | 't' => some '\t'
  | _ => none

def fourDigits? (text : List Char) : Option (Nat × List Char) :=
  match text with
  | a :: b :: c :: d :: rest =>
    match Url.Percent.hexValue? a, Url.Percent.hexValue? b, Url.Percent.hexValue? c,
      Url.Percent.hexValue? d with
    | some a, some b, some c, some d => some (a * 4096 + b * 256 + c * 16 + d, rest)
    | _, _, _, _ => none
  | _ => none

/-- The second half of a character written in two halves, and what follows it. -/
def lowHalf? (text : List Char) : Option (Nat × List Char) :=
  match text with
  | '\\' :: 'u' :: rest =>
    match fourDigits? rest with
    | some (value, rest) =>
      if 0xDC00 ≤ value ∧ value ≤ 0xDFFF then some (value - 0xDC00, rest) else none
    | none => none
  | _ => none

/-- The character of a numbered escape; `none` for one half of a character. -/
def numberedEscape? (text : List Char) : Option (Option Char × List Char) :=
  match fourDigits? text with
  | none => none
  | some (value, rest) =>
    if 0xD800 ≤ value ∧ value ≤ 0xDBFF then
      match lowHalf? rest with
      | some (low, rest) =>
        some (some (Char.ofNat (0x10000 + (value - 0xD800) * 0x400 + low)), rest)
      | none => some (none, rest)
    else if 0xDC00 ≤ value ∧ value ≤ 0xDFFF then some (none, rest)
    else some (some (Char.ofNat value), rest)

def readText : Nat → TextBytes → List Char → Option (Option String × List Char)
  | 0, _, _ => none
  | fuel + 1, read, text =>
    match text with
    | '"' :: rest => some (read.value?, rest)
    | '\\' :: 'u' :: rest =>
      match numberedEscape? rest with
      | some (some c, rest) => readText fuel (read.push (String.utf8EncodeChar c)) rest
      | some (none, rest) => readText fuel none rest
      | none => none
    | '\\' :: c :: rest =>
      match shortEscape? c with
      | some c => readText fuel (read.push (String.utf8EncodeChar c)) rest
      | none => none
    | c :: rest =>
      if c.toNat < 0x20 ∨ c = '\\' then none
      else readText fuel (read.push [c.toNat.toUInt8]) rest
    | [] => none

/-! ## Numbers -/

def dropDigits? (text : List Char) : Option (List Char) :=
  match text with
  | c :: rest => if c.isDigit then some (rest.dropWhile Char.isDigit) else none
  | [] => none

/-- Drops the digits before the point: a single zero, or digits that start with another one. -/
def dropWhole? (text : List Char) : Option (List Char) :=
  match text with
  | '0' :: c :: rest => if c.isDigit then none else some (c :: rest)
  | _ => dropDigits? text

def dropFraction? (text : List Char) : Option (List Char) :=
  match text with
  | '.' :: rest => dropDigits? rest
  | _ => some text

def dropExponent? (text : List Char) : Option (List Char) :=
  match text with
  | c :: rest =>
    if c = 'e' ∨ c = 'E' then
      match rest with
      | '+' :: rest => dropDigits? rest
      | '-' :: rest => dropDigits? rest
      | _ => dropDigits? rest
    else some text
  | [] => some []

def dropNumber? (text : List Char) : Option (List Char) :=
  let unsigned :=
    match text with
    | '-' :: rest => rest
    | _ => text
  (dropWhole? unsigned).bind fun rest => (dropFraction? rest).bind dropExponent?

/-! ## Values -/

def dropMark? (mark : Char) (text : List Char) : Option (List Char) :=
  match skipBlanks text with
  | c :: rest => if c = mark then some rest else none
  | [] => none

def dropWord? (word : String) (text : List Char) : Option (List Char) :=
  if word.toList.isPrefixOf text then some (text.drop word.length) else none

abbrev Reader (α : Type) := List Char → Option (α × List Char)

mutual

def readValue : Nat → Reader JsonValue
  | 0, _ => none
  | fuel + 1, text =>
    match skipBlanks text with
    | '[' :: rest =>
      match skipBlanks rest with
      | ']' :: rest => some (.array [], rest)
      | rest => (readItems fuel rest).map fun (items, rest) => (.array items, rest)
    | '\x7b' :: rest =>
      match skipBlanks rest with
      | '\x7d' :: rest => some (.object [], rest)
      | rest => (readMembers fuel rest).map fun (members, rest) => (.object members, rest)
    | '"' :: rest => (readText fuel (some []) rest).map fun (value, rest) => (.string value, rest)
    | 'n' :: rest => (dropWord? "ull" rest).map fun rest => (.null, rest)
    | 't' :: rest => (dropWord? "rue" rest).map fun rest => (.bool true, rest)
    | 'f' :: rest => (dropWord? "alse" rest).map fun rest => (.bool false, rest)
    | rest => (dropNumber? rest).map fun rest => (.number, rest)

def readItems : Nat → Reader (List JsonValue)
  | 0, _ => none
  | fuel + 1, text =>
    match readValue fuel text with
    | none => none
    | some (item, rest) =>
      match skipBlanks rest with
      | ']' :: rest => some ([item], rest)
      | ',' :: rest =>
        (readItems fuel rest).map fun (items, rest) => (item :: items, rest)
      | _ => none

def readMembers : Nat → Reader (List (Option String × JsonValue))
  | 0, _ => none
  | fuel + 1, text =>
    match readMember fuel text with
    | none => none
    | some (member, rest) =>
      match skipBlanks rest with
      | '\x7d' :: rest => some ([member], rest)
      | ',' :: rest =>
        (readMembers fuel rest).map fun (members, rest) => (member :: members, rest)
      | _ => none

def readMember : Nat → Reader (Option String × JsonValue)
  | 0, _ => none
  | fuel + 1, text =>
    match dropMark? '"' text with
    | none => none
    | some rest =>
      match readText fuel (some []) rest with
      | none => none
      | some (name, rest) =>
        match dropMark? ':' rest with
        | none => none
        | some rest => (readValue fuel rest).map fun (value, rest) => ((name, value), rest)

end

/-- Reads a document: one value with nothing but blanks around it. -/
def read (bytes : List UInt8) : Option JsonValue :=
  let text := symbols bytes
  match readValue (4 * text.length + 4) text with
  | some (value, rest) => if skipBlanks rest = [] then some value else none
  | none => none

end JsonValue

end AccountKeeper
