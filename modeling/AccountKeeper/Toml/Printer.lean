import AccountKeeper.Toml.Literal

/-!
# Printing documents

A table is printed as a document that reads back as the same table: first the
plain entries, then the tables below it, each under its header.  A table with
nothing of its own to print has no header, and lists of tables have one header
in double brackets for each table.
-/

set_option autoImplicit false

namespace AccountKeeper.Toml.Printer

/-! ## Texts -/

/-- Control characters that can only be written as escapes; tab and line end are not among them. -/
def needsEscape (c : Char) : Bool :=
  (c.toNat < 0x20 && c ≠ '\t' && c ≠ '\n') || c.toNat = 0x7F

def longestRun (mark : Char) (text : List Char) : Nat :=
  (text.foldl (fun (longest, current) c =>
    if c = mark then (max longest (current + 1), current + 1) else (longest, 0)) (0, 0)).1

inductive Quotation where
  | basic
  | literal
  | multilineBasic
  | multilineLiteral
  deriving DecidableEq, Repr

/-- The first way that needs no escapes, or else double quotes. -/
def quotation (text : List Char) : Quotation :=
  let escape := text.any needsEscape
  let line := text.contains '\n'
  let slash := text.contains '\\'
  let double := longestRun '"' text
  let single := longestRun '\'' text
  if !escape && !slash && double = 0 && !line then .basic
  else if !escape && single = 0 && !line then .literal
  else if !escape && !slash && double ≤ 2 then .multilineBasic
  else if !escape && single ≤ 2 then .multilineLiteral
  else if line then .multilineBasic
  else .basic

def fourDigits (n : Nat) : List Char :=
  let digits := (Nat.toDigits 16 n).map Char.toUpper
  List.replicate (4 - digits.length) '0' ++ digits

/-- Characters between double quotes: at most `quotes` of them may stand together unescaped. -/
def escaped (multiline : Bool) (quotes : Nat) : Nat → List Char → List Char
  | _, [] => []
  | run, c :: rest =>
    match c with
    | '\x08' => '\\' :: 'b' :: escaped multiline quotes 0 rest
    | '\t' => '\\' :: 't' :: escaped multiline quotes 0 rest
    | '\x0C' => '\\' :: 'f' :: escaped multiline quotes 0 rest
    | '\r' => '\\' :: 'r' :: escaped multiline quotes 0 rest
    | '\\' => '\\' :: '\\' :: escaped multiline quotes 0 rest
    | '\n' =>
      (if multiline then ['\n'] else ['\\', 'n']) ++ escaped multiline quotes 0 rest
    | '"' =>
      if run < quotes then '"' :: escaped multiline quotes (run + 1) rest
      else '\\' :: '"' :: escaped multiline quotes 0 rest
    | c =>
      if needsEscape c then
        '\\' :: 'u' :: fourDigits c.toNat ++ escaped multiline quotes 0 rest
      else c :: escaped multiline quotes 0 rest

def text (value : String) : String :=
  let body := value.toList
  let opening := if body.contains '\n' then ['\n'] else []
  String.ofList <|
    match quotation body with
    | .basic => '"' :: escaped false 0 0 body ++ ['"']
    | .literal => '\'' :: body ++ ['\'']
    | .multilineBasic => ['"', '"', '"'] ++ opening ++ escaped true 2 0 body ++ ['"', '"', '"']
    | .multilineLiteral => ['\'', '\'', '\''] ++ opening ++ body ++ ['\'', '\'', '\'']

def isBareKeyChar (c : Char) : Bool :=
  c.isAlphanum || c = '-' || c = '_'

def key (name : String) : String :=
  let body := name.toList
  let escape := body.any fun c => needsEscape c || c = '\n'
  if body ≠ [] ∧ body.all isBareKeyChar then name
  else if !escape && !body.contains '\\' && !body.contains '"' then
    String.ofList ('"' :: body ++ ['"'])
  else if !escape && !body.contains '\'' then
    String.ofList ('\'' :: body ++ ['\''])
  else
    String.ofList ('"' :: escaped false 0 0 body ++ ['"'])

/-! ## Values -/

def float : Binary64 → String
  | .nan => "nan"
  | .infinity negative => if negative then "-inf" else "inf"
  | .finite negative mantissa exponent => Binary64.finiteText negative mantissa exponent

def scalar : Scalar → String
  | .string value => text value
  | .integer value => toString value
  | .float value => float value
  | .boolean value => if value then "true" else "false"
  | .datetime value => value.display

mutual

def value : Value → String
  | .scalar v => scalar v
  | .array [] => "[]"
  | .array [item] => "[" ++ value item ++ "]"
  | .array items => "[\n" ++ itemLines items ++ "]"
  | .table [] => "\x7b\x7d"
  | .table entries => "\x7b " ++ pairs entries ++ " \x7d"

def itemLines : List Value → String
  | [] => ""
  | item :: rest => "    " ++ value item ++ ",\n" ++ itemLines rest

def pairs : List (String × Value) → String
  | [] => ""
  | [(name, v)] => key name ++ " = " ++ value v
  | (name, v) :: rest => key name ++ " = " ++ value v ++ ", " ++ pairs rest

end

/-! ## Tables -/

def isTable : Value → Bool
  | .table _ => true
  | _ => false

/-- Whether an entry gets headers: a table, or a list of nothing but tables. -/
def isHeaded : Value → Bool
  | .table _ => true
  | .array items => items ≠ [] && items.all isTable
  | .scalar _ => false

def assignments (entries : Entries) : String :=
  String.join <| entries.map fun (name, v) =>
    if isHeaded v then "" else key name ++ " = " ++ value v ++ "\n"

def header (opening closing : String) (path : List String) : String :=
  opening ++ ".".intercalate (path.map key) ++ closing ++ "\n"

mutual

def parts (path : List String) : List (String × Value) → List String
  | [] => []
  | (name, v) :: rest => part (path ++ [name]) v ++ parts path rest

def part (path : List String) : Value → List String
  | .scalar _ => []
  | .table entries =>
    let own :=
      if entries = [] ∨ entries.any (fun entry => !isHeaded entry.2) then
        [header "[" "]" path ++ assignments entries]
      else []
    own ++ parts path entries
  | .array items => if isHeaded (.array items) then listedParts path items else []

def listedParts (path : List String) : List Value → List String
  | [] => []
  | .table entries :: rest =>
    (header "[[" "]]" path ++ assignments entries) :: parts path entries ++ listedParts path rest
  | _ :: rest => listedParts path rest

end

end Printer

/-! ## Numbers of a program -/

inductive PrintFault where
  | outOfRange (kind : String)
  deriving DecidableEq, Repr

def PrintFault.message : PrintFault → String
  | outOfRange kind => "out-of-range value for " ++ kind ++ " type"

/-- The value of a natural number, which documents can hold below two to the power of 63. -/
def Value.natural (kind : String) (value : Nat) : Except PrintFault Value :=
  if Literal.inRange value then .ok (.integer value) else .error (.outOfRange kind)

/-- The document of a top-level table; headers are set off by blank lines. -/
def print (entries : Entries) : String :=
  let top := Printer.assignments entries
  let rest := Printer.parts [] entries
  "\n".intercalate (if top = "" then rest else top :: rest)

end AccountKeeper.Toml
