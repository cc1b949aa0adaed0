import AccountKeeper.Toml.Value

/-!
# Items of a document

A document is read into items, which differ from values in that they keep how a
table came about: written inline, opened by a header, implied by a longer
header, or implied by a dotted key.  These decide which later lines of the
document may still add to the table.
-/

set_option autoImplicit false

namespace AccountKeeper.Toml

structure TableForm where
  braced : Bool
  /-- Not written itself, but implied by something below it. -/
  implied : Bool
  /-- Implied by a dotted key. -/
  dotted : Bool
  deriving DecidableEq, Repr

def TableForm.headed : TableForm := ⟨false, false, false⟩

inductive Item where
  | scalar (value : Scalar)
  | array (items : List Item)
  | table (form : TableForm) (entries : List (String × Item))
  /-- Tables opened one after the other by headers in double brackets. -/
  | tables (items : List Item)
  deriving Repr, Inhabited

namespace Item

def datetimeKey : String := "$__toml_private_datetime"

mutual

/-- The value of an item; the entries of tables come in the order of their keys.  A table whose
first key is `datetimeKey` stands for a date or time and must have one under that key. -/
def toValue? : Item → Option Value
  | scalar value => some (.scalar value)
  | array items => (toValues? items).map .array
  | table _ ((key, item) :: rest) =>
    if key = datetimeKey then
      match item with
      | scalar (.string text) => (Datetime.ofText? text).map fun value => .scalar (.datetime value)
      | _ => none
    else
      match item.toValue?, toEntries? rest with
      | some value, some entries => some (.table (Entries.sorted ((key, value) :: entries)))
      | _, _ => none
  | table _ [] => some (.table [])
  | tables items => (toValues? items).map .array

def toValues? : List Item → Option (List Value)
  | [] => some []
  | item :: rest =>
    match item.toValue?, toValues? rest with
    | some value, some values => some (value :: values)
    | _, _ => none

def toEntries? : List (String × Item) → Option Entries
  | [] => some []
  | (key, item) :: rest =>
    match item.toValue?, toEntries? rest with
    | some value, some entries => some ((key, value) :: entries)
    | _, _ => none

end

end Item

end AccountKeeper.Toml
