import AccountKeeper.Toml.Document
import AccountKeeper.Toml.Fault

/-!
# Decoding documents

Turning the items of a document into the values a program works with.  A record
may be written as a table, whose entries are taken in the order of the document
and whose unknown entries are passed over, or as a list of its fields in their
order.
-/

set_option autoImplicit false

namespace AccountKeeper.Toml

abbrev Decoder (α : Type) := Item → Except Mismatch α

namespace Decoder

def string : Decoder String
  | .scalar (.string text) => .ok text
  | item => .error (.kind item.described "a string")

/-- A whole number from 0 up to a bound, which faults call by a name. -/
def natBelow (bound : Nat) (name : String) : Decoder Nat
  | .scalar (.integer value) =>
    if 0 ≤ value ∧ value < bound then .ok value.toNat
    else .error (.value ("integer `" ++ toString value ++ "`") name)
  | item => .error (.kind item.described name)

def list {α : Type} (decode : Decoder α) : Decoder (List α)
  | .array items => items.mapM decode
  | .tables items => items.mapM decode
  | item => .error (.kind item.described "a sequence")

def parsed {α : Type} (read : String → Except String α) : Decoder α := fun item => do
  match read (← string item) with
  | .ok value => return value
  | .error reason => throw (.refused reason)

/-- How a record was written, which decides how an absent field is reported. -/
inductive Layout where
  | named
  | listed (count : Nat) (expected : String)

def Layout.absent (layout : Layout) (field : String) : Mismatch :=
  match layout with
  | named => .missingField field
  | listed count expected => .length count expected

def recordSize (name : String) (count : Nat) : String :=
  "struct " ++ name ++ " with " ++ Nat.repr count ++ (if count = 1 then " element" else " elements")

def takeFields {ρ : Type} (take : ρ → String → Item → Except Mismatch ρ) (start : ρ)
    (fields : List (String × Item)) : Except Mismatch ρ :=
  fields.foldlM (fun partly (key, item) => take partly key item) start

/-- A record with the given fields, collected by `take`, which passes over unknown keys. -/
def fields {ρ : Type} (name : String) (keys : List String)
    (take : ρ → String → Item → Except Mismatch ρ) (start : ρ) : Decoder (ρ × Layout)
  | .table _ entries => do return (← takeFields take start entries, .named)
  | .array items => listed items
  | .tables items => listed items
  | .scalar (.datetime _) => .ok (start, .named)
  | item => .error (.kind item.described ("struct " ++ name))
where
  listed (items : List Item) : Except Mismatch (ρ × Layout) := do
    return (← takeFields take start (keys.zip items),
      .listed items.length (recordSize name keys.length))

/-- One of several names, written as a text or as a table with an empty value under the name. -/
def choice {α : Type} (known : List (String × α)) : Decoder α
  | .scalar (.string text) => named text
  | .table _ [] => .error .noEntry
  | .table _ [(key, item)] => do
    let value ← named key
    match item with
    | .tables items => if items.isEmpty then return value else throw (.notEmpty "array")
    | .array items => if items.isEmpty then return value else throw (.notEmpty "table")
    | .table _ entries => if entries.isEmpty then return value else throw (.notEmpty "table")
    | .scalar scalar => throw (.notTable scalar.kindName)
  | .table _ _ => .error .manyEntries
  | _ => .error .notName
where
  named (text : String) : Except Mismatch α :=
    match known.lookup text with
    | some value => .ok value
    | none => .error (.unknownName text (known.map (·.1)))

def document {α : Type} (decode : Decoder α) (text : String) : Except Fault α :=
  match Document.read text with
  | none => .error .notADocument
  | some entries => (decode (.table .headed entries)).mapError .mismatch

end Decoder

end AccountKeeper.Toml
