import AccountKeeper.Association
import AccountKeeper.Decimal.Binary64
import AccountKeeper.Toml.Datetime

/-!
# Values of configuration documents

A value is a text, a number, a truth value, a date or time, a list of values or
a table of named values.  `Entries.get?`, `Entries.insert` and `Entries.erase` are
the operations on the entries of a table.
-/

set_option autoImplicit false

namespace AccountKeeper.Toml

inductive Scalar where
  | string (text : String)
  | integer (value : Int)
  | float (value : Binary64)
  | boolean (value : Bool)
  | datetime (value : Datetime)
  deriving DecidableEq, Repr

inductive Value where
  | scalar (value : Scalar)
  | array (items : List Value)
  | table (entries : List (String × Value))
  deriving Repr, Inhabited

/-- The entries of a table, in the order in which they are written. -/
abbrev Entries := List (String × Value)

namespace Value

mutual

def same : Value → Value → Bool
  | scalar a, scalar b => a = b
  | array xs, array ys => sameItems xs ys
  | table xs, table ys => sameEntries xs ys
  | _, _ => false

def sameItems : List Value → List Value → Bool
  | [], [] => true
  | x :: xs, y :: ys => same x y && sameItems xs ys
  | _, _ => false

def sameEntries : List (String × Value) → List (String × Value) → Bool
  | [], [] => true
  | (k, x) :: xs, (l, y) :: ys => k = l && same x y && sameEntries xs ys
  | _, _ => false

end

mutual

theorem same_iff : ∀ a b : Value, same a b = true ↔ a = b
  | scalar a, scalar b => by simp [same]
  | array xs, array ys => by simp [same, sameItems_iff xs ys]
  | table xs, table ys => by simp [same, sameEntries_iff xs ys]
  | scalar _, array _ => by simp [same]
  | scalar _, table _ => by simp [same]
  | array _, scalar _ => by simp [same]
  | array _, table _ => by simp [same]
  | table _, scalar _ => by simp [same]
  | table _, array _ => by simp [same]

theorem sameItems_iff : ∀ xs ys : List Value, sameItems xs ys = true ↔ xs = ys
  | [], [] => by simp [sameItems]
  | x :: xs, y :: ys => by simp [sameItems, same_iff x y, sameItems_iff xs ys]
  | [], _ :: _ => by simp [sameItems]
  | _ :: _, [] => by simp [sameItems]

theorem sameEntries_iff :
    ∀ xs ys : List (String × Value), sameEntries xs ys = true ↔ xs = ys
  | [], [] => by simp [sameEntries]
  | (k, x) :: xs, (l, y) :: ys => by
    simp [sameEntries, same_iff x y, sameEntries_iff xs ys]
  | [], _ :: _ => by simp [sameEntries]
  | _ :: _, [] => by simp [sameEntries]

end

instance : DecidableEq Value := fun a b =>
  decidable_of_iff (same a b = true) (same_iff a b)

abbrev string (text : String) : Value := scalar (.string text)

abbrev integer (value : Int) : Value := scalar (.integer value)

end Value

namespace Entries

def get? (entries : Entries) (key : String) : Option Value :=
  entries.lookup key

/-- Puts a value under a key, in place of the value there, else before the first greater key. -/
def insert (key : String) (value : Value) : Entries → Entries
  | [] => [(key, value)]
  | (k, v) :: rest =>
    if key = k then (key, value) :: rest
    else if key < k then (key, value) :: (k, v) :: rest
    else (k, v) :: insert key value rest

def erase (key : String) (entries : Entries) : Entries :=
  entries.filter (·.1 ≠ key)

@[simp] theorem get?_nil (key : String) : get? [] key = none := rfl

theorem get?_cons (key k : String) (v : Value) (rest : Entries) :
    get? ((k, v) :: rest) key = if key = k then some v else get? rest key :=
  Association.lookup_front key k v rest

theorem get?_insert (key other : String) (value : Value) (entries : Entries) :
    get? (insert key value entries) other =
      if other = key then some value else get? entries other := by
  induction entries with
  | nil => simp [insert, get?_cons]
  | cons entry rest ih =>
    obtain ⟨k, v⟩ := entry
    by_cases h : key = k
    · subst h
      by_cases same : other = key <;> simp [insert, get?_cons, same]
    · by_cases less : key < k
      · simp [insert, h, less, get?_cons]
      · by_cases same : other = k
        · subst same
          simp [insert, h, less, get?_cons, Ne.symm h]
        · simp [insert, h, less, get?_cons, same, ih]

theorem get?_erase (key other : String) (entries : Entries) :
    get? (erase key entries) other = if other = key then none else get? entries other :=
  Association.lookup_without key other entries

def sorted (entries : Entries) : Entries :=
  entries.foldl (fun done entry => insert entry.1 entry.2 done) []

end Entries

end AccountKeeper.Toml
