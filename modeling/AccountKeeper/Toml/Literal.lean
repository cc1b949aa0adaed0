import AccountKeeper.Toml.Datetime
import AccountKeeper.Toml.Value

/-!
# Literals

Readers for the texts, numbers, truth values and dates of a configuration
document, and for its keys.
-/

set_option autoImplicit false

namespace AccountKeeper.Toml.Literal

/-! ## Characters -/

def isGap (c : Char) : Bool := c = ' ' || c = '\t'

/-- Characters allowed in comments and quoted texts: no control character except the tab. -/
def isPlain (c : Char) : Bool :=
  c = '\t' || (0x20 ≤ c.toNat && c.toNat ≠ 0x7F)

def isBareKeyChar (c : Char) : Bool :=
  c.isAlphanum || c = '-' || c = '_'

def skipGaps (text : List Char) : List Char :=
  text.dropWhile isGap

def afterLineEnd : List Char → Option (List Char)
  | '\n' :: rest => some rest
  | '\r' :: '\n' :: rest => some rest
  | _ => none

/-! ## Texts -/

def hexValue (c : Char) : Option Nat :=
  if c.isDigit then some (c.toNat - '0'.toNat)
  else if 'a' ≤ c ∧ c ≤ 'f' then some (c.toNat - 'a'.toNat + 10)
  else if 'A' ≤ c ∧ c ≤ 'F' then some (c.toNat - 'A'.toNat + 10)
  else none

def readCodePoint (count : Nat) : Reader Char := fun text =>
  let digits := text.take count
  if digits.length ≠ count then none
  else
    match digits.mapM hexValue with
    | none => none
    | some values =>
      let code := values.foldl (fun value d => value * 16 + d) 0
      if code < 0xD800 ∨ (0xDFFF < code ∧ code < 0x110000) then
        some (Char.ofNat code, text.drop count)
      else none

def readEscape : Reader Char
  | 'b' :: rest => some ('\x08', rest)
  | 't' :: rest => some ('\t', rest)
  | 'n' :: rest => some ('\n', rest)
  | 'f' :: rest => some ('\x0C', rest)
  | 'r' :: rest => some ('\r', rest)
  | '"' :: rest => some ('"', rest)
  | '\\' :: rest => some ('\\', rest)
  | 'u' :: rest => readCodePoint 4 rest
  | 'U' :: rest => readCodePoint 8 rest
  | _ => none

/-- Rest of a text in double quotes on one line; `fuel` bounds its length. -/
def readBasic : Nat → Reader (List Char)
  | 0, _ => none
  | fuel + 1, text =>
    match text with
    | '"' :: rest => some ([], rest)
    | '\\' :: rest =>
      match readEscape rest with
      | none => none
      | some (c, rest) => (readBasic fuel rest).map fun (body, rest) => (c :: body, rest)
    | c :: rest =>
      if isPlain c then (readBasic fuel rest).map fun (body, rest) => (c :: body, rest) else none
    | [] => none

def readLiteral : Reader (List Char)
  | '\'' :: rest => some ([], rest)
  | c :: rest =>
    if isPlain c then (readLiteral rest).map fun (body, rest) => (c :: body, rest) else none
  | [] => none

/-- What follows a backslash at the end of a line and the blank lines after it. -/
def afterLineJoin (text : List Char) : Option (List Char) :=
  match afterLineEnd (skipGaps text) with
  | none => none
  | some rest => some (skipLines rest.length rest)
where
  skipLines : Nat → List Char → List Char
    | 0, rest => rest
    | fuel + 1, rest =>
      match afterLineEnd (skipGaps rest) with
      | none => skipGaps rest
      | some later => skipLines fuel later

/-- A line end directly after the opening quotes does not belong to the text. -/
def dropFirstLineEnd (text : List Char) : List Char :=
  (afterLineEnd text).getD text

/--
Rest of a text between triple quotes `quote`.  Up to two quotes may stand in
the text, also directly before the closing ones.  Escapes are known if `escapes` holds.
-/
def readMultiline (quote : Char) (escapes : Bool) : Nat → Reader (List Char)
  | 0, _ => none
  | fuel + 1, text =>
    let run := (text.takeWhile (· = quote)).length
    if 3 ≤ run then
      if run ≤ 5 then some (List.replicate (run - 3) quote, text.drop run)
      else some ([quote, quote], text.drop 5)
    else
      match text with
      | [] => none
      | '\\' :: rest =>
        if escapes then
          match afterLineJoin rest with
          | some rest => readMultiline quote escapes fuel rest
          | none =>
            match readEscape rest with
            | none => none
            | some (c, rest) =>
              (readMultiline quote escapes fuel rest).map fun (body, rest) => (c :: body, rest)
        else (readMultiline quote escapes fuel rest).map fun (body, rest) => ('\\' :: body, rest)
      | c :: rest =>
        match afterLineEnd text with
        | some rest =>
          (readMultiline quote escapes fuel rest).map fun (body, rest) => ('\n' :: body, rest)
        | none =>
          if isPlain c then
            (readMultiline quote escapes fuel rest).map fun (body, rest) => (c :: body, rest)
          else none

def readText : Reader (List Char)
  | '"' :: '"' :: '"' :: rest =>
    readMultiline '"' true (rest.length + 1) (dropFirstLineEnd rest)
  | '\'' :: '\'' :: '\'' :: rest =>
    readMultiline '\'' false (rest.length + 1) (dropFirstLineEnd rest)
  | '"' :: rest => readBasic (rest.length + 1) rest
  | '\'' :: rest => readLiteral rest
  | _ => none

/-! ## Keys -/

def keyLimit : Nat := 79

def readSimpleKey : Reader (List Char)
  | '"' :: rest => readBasic (rest.length + 1) rest
  | '\'' :: rest => readLiteral rest
  | text =>
    let key := text.takeWhile isBareKeyChar
    if key = [] then none else some (key, text.dropWhile isBareKeyChar)

def readKeys : Nat → Reader (List String)
  | 0, _ => none
  | fuel + 1, text => do
    let (key, rest) ← readSimpleKey (skipGaps text)
    match skipGaps rest with
    | '.' :: later =>
      match readKeys fuel later with
      | some (keys, rest) => some (String.ofList key :: keys, rest)
      | none => none
    | rest => some ([String.ofList key], rest)

def readKey : Reader (List String) := fun text =>
  match readKeys (text.length + 1) text with
  | some (keys, rest) => if keys.length ≤ keyLimit then some (keys, rest) else none
  | none => none

/-! ## Numbers -/

/-- Digits of a kind, where single underscores may stand between two digits. -/
def readDigitRun (isDigit : Char → Bool) : Nat → Reader (List Char)
  | 0, _ => none
  | fuel + 1, text =>
    match text with
    | [] => none
    | c :: rest =>
      if isDigit c then
        match rest with
        | '_' :: later => (readDigitRun isDigit fuel later).map fun (ds, rest) => (c :: ds, rest)
        | d :: _ =>
          if isDigit d then (readDigitRun isDigit fuel rest).map fun (ds, rest) => (c :: ds, rest)
          else some ([c], rest)
        | [] => some ([c], [])
      else none

def readZeroDigits : Reader (List Char) := fun text =>
  readDigitRun Char.isDigit (text.length + 1) text

def readSign : List Char → Bool × List Char
  | '-' :: rest => (true, rest)
  | '+' :: rest => (false, rest)
  | text => (false, text)

/-- Decimal digits without a leading zero, or the single digit zero. -/
def readDecimalDigits : Reader (List Char)
  | '0' :: rest => some (['0'], rest)
  | text => readZeroDigits text

def decimalValue (digits : List Char) : Nat :=
  digits.foldl (fun value d => value * 10 + (d.toNat - '0'.toNat)) 0

/-- Whole numbers of 64 bits. -/
def inRange (value : Int) : Bool :=
  -9223372036854775808 ≤ value && value < 9223372036854775808

def readBased (base : Nat) (text : List Char) : Option (Scalar × List Char) :=
  let isDigit := fun c => match hexValue c with
    | some value => decide (value < base)
    | none => false
  match readDigitRun isDigit (text.length + 1) text with
  | none => none
  | some (digits, rest) =>
    let value := digits.foldl (fun value c => value * base + (hexValue c).getD 0) 0
    if inRange value then some (.integer value, rest) else none

def readFraction : List Char → Option (List Char × List Char)
  | '.' :: rest => readZeroDigits rest
  | rest => some ([], rest)

def readExponent : List Char → Option (Option Int × List Char)
  | mark :: rest =>
    if mark = 'e' ∨ mark = 'E' then
      let (negative, rest) := readSign rest
      match readZeroDigits rest with
      | none => none
      | some (digits, rest) =>
        let value : Int := decimalValue digits
        some (some (if negative then -value else value), rest)
    else some (none, mark :: rest)
  | [] => some (none, [])

def readDecimal (text : List Char) : Option (Scalar × List Char) := do
  let (negative, unsigned) := readSign text
  let (whole, rest) ← readDecimalDigits unsigned
  let (fraction, rest') ← readFraction rest
  let (exponent, rest'') ← readExponent rest'
  if fraction = [] ∧ exponent = none then
    let value : Int := decimalValue whole
    let value := if negative then -value else value
    if inRange value then some (.integer value, rest) else none
  else
    let number := Binary64.ofDecimal negative (decimalValue (whole ++ fraction))
      (exponent.getD 0 - fraction.length)
    if number = .infinity false then none else some (.float number, rest'')

def readSpecial (text : List Char) : Option (Scalar × List Char) :=
  let (negative, rest) := readSign text
  match rest with
  | 'i' :: 'n' :: 'f' :: rest => some (.float (.infinity negative), rest)
  | 'n' :: 'a' :: 'n' :: rest => some (.float .nan, rest)
  | _ => none

def readNumber (text : List Char) : Option (Scalar × List Char) :=
  match Datetime.attempt text with
  | .found value rest => some (.datetime value, rest)
  | .malformed => none
  | .absent =>
    match text with
    | '0' :: 'x' :: rest => readBased 16 rest
    | '0' :: 'o' :: rest => readBased 8 rest
    | '0' :: 'b' :: rest => readBased 2 rest
    | _ =>
      match readSpecial text with
      | some found => some found
      | none => readDecimal text

def readScalar : Reader Scalar := fun text =>
  match text with
  | [] => none
  | c :: rest =>
    if c = '"' ∨ c = '\'' then
      (readText text).map fun (body, rest) => (.string (String.ofList body), rest)
    else if c = '+' ∨ c = '-' ∨ c.isDigit then readNumber text
    else if c = 'i' ∨ c = 'n' then readSpecial text
    else if c = 't' ∧ rest.take 3 = ['r', 'u', 'e'] then some (.boolean true, rest.drop 3)
    else if c = 'f' ∧ rest.take 4 = ['a', 'l', 's', 'e'] then some (.boolean false, rest.drop 4)
    else none

end AccountKeeper.Toml.Literal
