import AccountKeeper.Toml.Item
import AccountKeeper.Toml.Literal

/-!
# Documents

A document is a sequence of lines: assignments to keys, headers that open
tables, comments and blank lines.  `Document.read` reads a whole document or
refuses it; `parse` gives its value.
-/

set_option autoImplicit false

namespace AccountKeeper.Toml

abbrev ItemEntries := List (String × Item)

namespace Document

open Literal

/-! ## Tables under construction -/

def replaceItem (key : String) (item : Item) (entries : ItemEntries) : ItemEntries :=
  entries.map fun entry => if entry.1 = key then (key, item) else entry

structure OpenTable where
  form : TableForm
  entries : ItemEntries

/-- A change to one table, refused where the rules of the format forbid it. -/
abbrev TableChange (α : Type) := OpenTable → Option (α × OpenTable)

/--
Applies a change to the table that a sequence of keys leads to.  Missing tables
on the way are implied.  A dotted key (`dotted`) may not pass through a table
that was written out, and only other braced tables can be entered between
braces (`braced`).  A list of headed tables is entered at its last table.
-/
def changeAt {α : Type} (braced dotted : Bool) (change : TableChange α) :
    List String → TableChange α
  | [], table => change table
  | key :: keys, table =>
    match table.entries.lookup key with
    | none =>
      match changeAt braced dotted change keys ⟨⟨braced, true, dotted⟩, []⟩ with
      | none => none
      | some (result, inner) =>
        let entry := (key, Item.table inner.form inner.entries)
        some (result, { table with entries := table.entries ++ [entry] })
    | some (.table form entries) =>
      if form.braced ≠ braced ∨ (dotted ∧ ¬form.implied) then none
      else
        match changeAt braced dotted change keys ⟨form, entries⟩ with
        | none => none
        | some (result, inner) =>
          let item := Item.table inner.form inner.entries
          some (result, { table with entries := replaceItem key item table.entries })
    | some (.tables tables) =>
      match tables.getLast? with
      | some (.table form entries) =>
        match changeAt braced dotted change keys ⟨form, entries⟩ with
        | none => none
        | some (result, inner) =>
          let item := Item.tables (tables.dropLast ++ [.table inner.form inner.entries])
          some (result, { table with entries := replaceItem key item table.entries })
      | _ => none
    | some _ => none

def changeAbove {α : Type} (braced dotted : Bool) (change : String → TableChange α)
    (keys : List String) : TableChange α :=
  match keys.getLast? with
  | none => fun _ => none
  | some key => changeAt braced dotted (change key) keys.dropLast

/--
Adds an entry that must be new.  A table is extended by the kind of key that
made it: through a dotted key (`through`) exactly if a dotted key implied it.
-/
def addNew (through : Bool) (item : Item) (key : String) : TableChange Unit := fun table =>
  if table.form.dotted ≠ through ∨ (table.entries.lookup key).isSome then none
  else some ((), { table with entries := table.entries ++ [(key, item)] })

def assign (braced : Bool) (keys : List String) (item : Item) : TableChange Unit :=
  let dotted := 1 < keys.length
  changeAbove braced dotted (addNew dotted item) keys

/-- Takes the entries of a table that longer headers implied; an absent table has none. -/
def takeImplied (key : String) : TableChange ItemEntries := fun table =>
  match table.entries.lookup key with
  | none => some ([], table)
  | some (.table form entries) =>
    if form.braced ∨ ¬form.implied ∨ form.dotted then none
    else some (entries, { table with entries := table.entries.filter (·.1 ≠ key) })
  | some _ => none

def addTable (item : Item) (key : String) : TableChange Unit := fun table =>
  if (table.entries.lookup key).isSome then none
  else some ((), { table with entries := table.entries ++ [(key, item)] })

def addListed (item : Item) (key : String) : TableChange Unit := fun table =>
  match table.entries.lookup key with
  | none => some ((), { table with entries := table.entries ++ [(key, .tables [item])] })
  | some (.tables tables) =>
    let longer := Item.tables (tables ++ [item])
    some ((), { table with entries := replaceItem key longer table.entries })
  | some _ => none

/-! ## Values -/

def nestingLimit : Nat := 79

def afterComment (text : List Char) : Option (List Char) :=
  afterLineEnd (text.dropWhile isPlain)

def skipBlankLines : Nat → List Char → Option (List Char)
  | 0, text => some text
  | fuel + 1, text =>
    match skipGaps text with
    | '#' :: rest =>
      match afterComment rest with
      | none => none
      | some rest => skipBlankLines fuel rest
    | rest =>
      match afterLineEnd rest with
      | some rest => skipBlankLines fuel rest
      | none => some rest

mutual

def readValue : Nat → Nat → Reader Item
  | 0, _, _ => none
  | fuel + 1, depth, text =>
    match text with
    | '[' :: rest =>
      if nestingLimit ≤ depth then none
      else
        match readItems fuel (depth + 1) rest with
        | none => none
        | some (items, rest) => some (.array items, rest)
    | '\x7b' :: rest =>
      if nestingLimit ≤ depth then none
      else
        let braced : TableForm := ⟨true, false, false⟩
        match skipGaps rest with
        | '\x7d' :: rest => some (.table braced [], rest)
        | rest =>
          match readPairs fuel (depth + 1) [] rest with
          | none => none
          | some (entries, rest) => some (.table braced entries, rest)
    | _ =>
      match readScalar text with
      | none => none
      | some (value, rest) => some (.scalar value, rest)

def readItems : Nat → Nat → Reader (List Item)
  | 0, _, _ => none
  | fuel + 1, depth, text =>
    match skipBlankLines text.length text with
    | none => none
    | some (']' :: rest) => some ([], rest)
    | some rest =>
      match readValue fuel depth rest with
      | none => none
      | some (item, rest) =>
        match skipBlankLines rest.length rest with
        | none => none
        | some (']' :: rest) => some ([item], rest)
        | some (',' :: rest) =>
          match readItems fuel depth rest with
          | none => none
          | some (items, rest) => some (item :: items, rest)
        | some _ => none

def readPairs : Nat → Nat → ItemEntries → Reader ItemEntries
  | 0, _, _, _ => none
  | fuel + 1, depth, done, text =>
    match readKey text with
    | some (keys, '=' :: rest) =>
      match readValue fuel depth (skipGaps rest) with
      | none => none
      | some (item, rest) =>
        match assign true keys item ⟨⟨true, false, false⟩, done⟩ with
        | none => none
        | some ((), table) =>
          match skipGaps rest with
          | '\x7d' :: rest => some (table.entries, rest)
          | ',' :: rest => readPairs fuel depth table.entries rest
          | _ => none
    | _ => none

end

/-! ## Lines -/

def afterLine (text : List Char) : Option (List Char) :=
  match skipGaps text with
  | [] => some []
  | '#' :: rest =>
    match rest.dropWhile isPlain with
    | [] => some []
    | rest => afterLineEnd rest
  | rest => afterLineEnd rest

structure Header where
  keys : List String
  listed : Bool

/-- A document being read: the tables done so far, and the table of the last header. -/
structure Draft where
  root : OpenTable
  header : Option Header
  table : OpenTable

def Draft.start : Draft := ⟨⟨.headed, []⟩, none, ⟨.headed, []⟩⟩

/-- Puts the table of the last header into its place; the result is the top level. -/
def Draft.close (draft : Draft) : Option OpenTable :=
  match draft.header with
  | none => some draft.table
  | some header =>
    let item := Item.table draft.table.form draft.table.entries
    let add := if header.listed then addListed item else addTable item
    (changeAbove false false add header.keys draft.root).map (·.2)

/-- Opens the table of a header; a table that longer headers implied is continued. -/
def Draft.openHeader (draft : Draft) (header : Header) : Option Draft := do
  let root ← draft.close
  if header.listed then
    some ⟨root, some header, ⟨.headed, []⟩⟩
  else
    let (entries, root) ← changeAbove false false takeImplied header.keys root
    some ⟨root, some header, ⟨.headed, entries⟩⟩

def readHeader (text : List Char) : Option (Header × List Char) :=
  match text with
  | '[' :: rest =>
    match readKey rest with
    | some (keys, ']' :: ']' :: rest) => (afterLine rest).map fun rest => (⟨keys, true⟩, rest)
    | _ => none
  | _ =>
    match readKey text with
    | some (keys, ']' :: rest) => (afterLine rest).map fun rest => (⟨keys, false⟩, rest)
    | _ => none

def readAssignment (text : List Char) : Option (List String × Item × List Char) :=
  match readKey text with
  | some (keys, '=' :: rest) =>
    let rest := skipGaps rest
    match readValue (2 * rest.length + 2) 0 rest with
    | none => none
    | some (item, rest) => (afterLine rest).map fun rest => (keys, item, rest)
  | _ => none

def readLines : Nat → Draft → List Char → Option OpenTable
  | 0, _, _ => none
  | fuel + 1, draft, text =>
    match skipGaps text with
    | [] => draft.close
    | '#' :: rest =>
      match afterLine ('#' :: rest) with
      | none => none
      | some rest => readLines fuel draft rest
    | '[' :: rest =>
      match readHeader rest with
      | none => none
      | some (header, rest) =>
        match draft.openHeader header with
        | none => none
        | some draft => readLines fuel draft rest
    | text =>
      match afterLineEnd text with
      | some rest => readLines fuel draft rest
      | none =>
        match readAssignment text with
        | none => none
        | some (keys, item, rest) =>
          match assign false keys item draft.table with
          | none => none
          | some ((), table) => readLines fuel { draft with table } rest

def read (text : String) : Option ItemEntries :=
  let characters :=
    match text.toList with
    | '\uFEFF' :: rest => rest
    | other => other
  (readLines (characters.length + 1) .start characters).map (·.entries)

end Document

/-- The top-level table of a document, the entries of tables in the order of their keys. -/
def parse (text : String) : Option Entries :=
  ((Document.read text).bind Item.toEntries?).map Entries.sorted

end AccountKeeper.Toml
