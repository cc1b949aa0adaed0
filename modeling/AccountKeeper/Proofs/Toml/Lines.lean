import AccountKeeper.Proofs.Toml.Text
import AccountKeeper.Toml.Document

/-!
# Lines of a document

What the reader of documents makes of single lines: blank lines, headers in
double brackets, and assignments of scalars to bare keys.  `Reads` joins lines.
-/

set_option autoImplicit false

namespace AccountKeeper.Toml

open Literal

/-! ## Keys -/

/-- A key that needs no quotes. -/
structure IsBareKey (key : String) : Prop where
  nonempty : key.toList ≠ []
  bare : ∀ c ∈ key.toList, Literal.isBareKeyChar c = true

instance (key : String) : Decidable (IsBareKey key) :=
  decidable_of_iff (key.toList ≠ [] ∧ key.toList.all Literal.isBareKeyChar = true)
    ⟨fun bare => ⟨bare.1, List.all_eq_true.mp bare.2⟩,
      fun bare => ⟨bare.nonempty, List.all_eq_true.mpr bare.bare⟩⟩

theorem IsBareKey.printed {key : String} (bare : IsBareKey key) : Printer.key key = key := by
  unfold Printer.key
  dsimp only
  rw [if_pos ⟨bare.nonempty, List.all_eq_true.mpr bare.bare⟩]

theorem takeWhile_bare (key later : List Char) (bare : ∀ c ∈ key, Literal.isBareKeyChar c = true)
    (ends : ∀ c ∈ later.head?, Literal.isBareKeyChar c = false) :
    (key ++ later).takeWhile Literal.isBareKeyChar = key ∧
      (key ++ later).dropWhile Literal.isBareKeyChar = later := by
  induction key with
  | nil =>
    cases later with
    | nil => exact ⟨rfl, rfl⟩
    | cons c later => simp [ends c (by simp)]
  | cons c key ih =>
    obtain ⟨taken, dropped⟩ := ih fun c' member => bare c' (List.mem_cons_of_mem c member)
    simp [bare c (by simp), taken, dropped]

/-- Characters of bare keys are neither gaps nor any of the marks of the format. -/
theorem bareKeyChar_ne (c : Char) (bare : Literal.isBareKeyChar c = true) :
    isGap c = false ∧ c ≠ '"' ∧ c ≠ '\'' ∧ c ≠ '#' ∧ c ≠ '[' ∧ c ≠ '\n' ∧ c ≠ '\r' := by
  refine ⟨?_, ?_, ?_, ?_, ?_, ?_, ?_⟩
  · unfold isGap
    by_cases space : c = ' '
    · rw [space] at bare
      cases bare
    · by_cases tab : c = '\t'
      · rw [tab] at bare
        cases bare
      · simp [space, tab]
  all_goals
    rintro rfl
    cases bare

theorem readKey_bare (key : String) (later : List Char) (bare : IsBareKey key)
    (ends : ∀ c ∈ later.head?, Literal.isBareKeyChar c = false)
    (single : (skipGaps later).head? ≠ some '.') :
    readKey (key.toList ++ later) = some ([key], skipGaps later) := by
  obtain ⟨taken, dropped⟩ := takeWhile_bare key.toList later bare.bare ends
  obtain ⟨c, rest, split⟩ := List.exists_cons_of_ne_nil bare.nonempty
  obtain ⟨noGap, noQuote, noMark, _⟩ := bareKeyChar_ne c (bare.bare c (by simp [split]))
  have starts : skipGaps (key.toList ++ later) = key.toList ++ later := by
    simp [skipGaps, split, noGap]
  have simpleKey : readSimpleKey (key.toList ++ later) = some (key.toList, later) := by
    rw [split, List.cons_append, readSimpleKey]
    · rw [← List.cons_append, ← split, taken, dropped]
      simp [bare.nonempty]
    · exact fun _ isQuote => noQuote (List.cons.inj isQuote).1
    · exact fun _ isMark => noMark (List.cons.inj isMark).1
  have keys : readKeys ((key.toList ++ later).length + 1) (key.toList ++ later) =
      some ([key], skipGaps later) := by
    unfold readKeys
    rw [starts, simpleKey]
    simp only [Option.bind_eq_bind, Option.bind_some]
    split
    · rename_i dot
      simp [dot] at single
    · rw [String.ofList_toList]
  unfold readKey
  rw [keys]
  rfl

/-! ## Assignments -/

theorem text_starts (value : String) : ∃ mark rest, (Printer.text value).toList = mark :: rest ∧
    (mark = '"' ∨ mark = '\'') := by
  unfold Printer.text
  rw [String.toList_ofList]
  cases Printer.quotation value.toList with
  | basic => exact ⟨_, _, rfl, .inl rfl⟩
  | literal => exact ⟨_, _, rfl, .inr rfl⟩
  | multilineBasic => exact ⟨_, _, rfl, .inl rfl⟩
  | multilineLiteral => exact ⟨_, _, rfl, .inr rfl⟩

theorem readScalar_text (value : String) (rest : List Char) (double : lead '"' rest = 0)
    (single : lead '\'' rest = 0) :
    readScalar ((Printer.text value).toList ++ rest) = some (.string value, rest) := by
  have read := readText_text value rest double single
  obtain ⟨mark, body, starts, quote⟩ := text_starts value
  rw [starts, List.cons_append] at read ⊢
  unfold readScalar
  simp only [if_pos quote, read, Option.map_some, String.ofList_toList]

/-- A scalar that is read back where the line ends behind its printed form. -/
structure Legible (value : Scalar) : Prop where
  starts : ∃ mark rest, (Printer.scalar value).toList = mark :: rest ∧ isGap mark = false ∧
    mark ≠ '[' ∧ mark ≠ '\x7b'
  read : ∀ rest, readScalar ((Printer.scalar value).toList ++ '\n' :: rest) =
    some (value, '\n' :: rest)

theorem legible_string (text : String) : Legible (.string text) where
  starts := by
    obtain ⟨mark, rest, starts, quote⟩ := text_starts text
    refine ⟨mark, rest, starts, ?_⟩
    rcases quote with rfl | rfl <;> simp [isGap]
  read rest := readScalar_text text ('\n' :: rest) (lead_other _ _ _ (by decide))
    (lead_other _ _ _ (by decide))

namespace Document

theorem readValue_scalar {value : Scalar} (legible : Legible value) (rest : List Char)
    (fuel depth : Nat) :
    readValue (fuel + 1) depth ((Printer.scalar value).toList ++ '\n' :: rest) =
      some (.scalar value, '\n' :: rest) := by
  have read := legible.read rest
  obtain ⟨mark, body, starts, -, noList, noTable⟩ := legible.starts
  rw [starts, List.cons_append] at read ⊢
  rw [readValue, read]
  · exact fun later bracket => noList (List.cons.inj bracket).1
  · exact fun later brace => noTable (List.cons.inj brace).1

theorem readAssignment_scalar (key : String) {value : Scalar} (legible : Legible value)
    (rest : List Char) (bare : IsBareKey key) :
    readAssignment (key.toList ++ ' ' :: '=' :: ' ' ::
        ((Printer.scalar value).toList ++ '\n' :: rest)) =
      some ([key], .scalar value, rest) := by
  have read := readKey_bare key
    (' ' :: '=' :: ' ' :: ((Printer.scalar value).toList ++ '\n' :: rest)) bare
    (by simp [Literal.isBareKeyChar]) (by simp [skipGaps, isGap])
  obtain ⟨mark, body, starts, noGap, -⟩ := legible.starts
  have gap : skipGaps (' ' :: ((Printer.scalar value).toList ++ '\n' :: rest)) =
      (Printer.scalar value).toList ++ '\n' :: rest := by
    have space : isGap ' ' = true := rfl
    simp [skipGaps, space, noGap, starts]
  have equals : skipGaps (' ' :: '=' :: ' ' ::
      ((Printer.scalar value).toList ++ '\n' :: rest)) =
      '=' :: ' ' :: ((Printer.scalar value).toList ++ '\n' :: rest) := by
    simp [skipGaps, isGap]
  rw [equals] at read
  unfold readAssignment
  rw [read]
  simp only [gap]
  rw [readValue_scalar legible rest]
  rfl

theorem assign_bare (key : String) (item : Item) (table : OpenTable)
    (headed : table.form.dotted = false) (new : table.entries.lookup key = none) :
    assign false [key] item table =
      some ((), { table with entries := table.entries ++ [(key, item)] }) := by
  change addNew false item key table = _
  simp [addNew, headed, new]

/-! ## Lines -/

/-- Reading lines leads from one draft and text to another, with fuel to spare. -/
def Reads (draft : Draft) (text : List Char) (draft' : Draft) (rest : List Char) : Prop :=
  ∀ fuel, text.length < fuel →
    ∃ fuel', rest.length < fuel' ∧ readLines fuel draft text = readLines fuel' draft' rest

namespace Reads

theorem refl (draft : Draft) (text : List Char) : Reads draft text draft text :=
  fun fuel enough => ⟨fuel, enough, rfl⟩

theorem trans {first second third : Draft} {text later rest : List Char}
    (before : Reads first text second later) (after : Reads second later third rest) :
    Reads first text third rest := by
  intro fuel enough
  obtain ⟨fuel', enough', read⟩ := before fuel enough
  obtain ⟨fuel'', enough'', read'⟩ := after fuel' enough'
  exact ⟨fuel'', enough'', read.trans read'⟩

/-- At the end of the text the last table is put into its place. -/
theorem readLines_eq {draft final : Draft} {text : List Char} (reads : Reads draft text final [])
    (fuel : Nat) (enough : text.length < fuel) : readLines fuel draft text = final.close := by
  obtain ⟨fuel', enough', read⟩ := reads fuel enough
  obtain ⟨fuel', rfl⟩ := Nat.exists_eq_add_one.mpr (Nat.zero_lt_of_lt enough')
  exact read

theorem of_step {draft draft' : Draft} {text rest : List Char}
    (shorter : rest.length < text.length)
    (step : ∀ fuel, readLines (fuel + 1) draft text = readLines fuel draft' rest) :
    Reads draft text draft' rest := by
  intro fuel enough
  obtain ⟨fuel, rfl⟩ := Nat.exists_eq_add_one.mpr (Nat.zero_lt_of_lt enough)
  exact ⟨fuel, by omega, step fuel⟩

theorem blank (draft : Draft) (rest : List Char) : Reads draft ('\n' :: rest) draft rest :=
  of_step (by simp) (fun _ => rfl)

theorem assignment (draft : Draft) (key : String) {value : Scalar} (legible : Legible value)
    (rest : List Char) (bare : IsBareKey key) (headed : draft.table.form.dotted = false)
    (new : draft.table.entries.lookup key = none) :
    Reads draft
      (key.toList ++ ' ' :: '=' :: ' ' :: ((Printer.scalar value).toList ++ '\n' :: rest))
      { draft with table := { draft.table with
          entries := draft.table.entries ++ [(key, .scalar value)] } } rest := by
  refine of_step (by simp; omega) fun fuel => ?_
  have read := readAssignment_scalar key legible rest bare
  have assigned := assign_bare key (.scalar value) draft.table headed new
  obtain ⟨c, others, split⟩ := List.exists_cons_of_ne_nil bare.nonempty
  obtain ⟨noGap, _, _, noComment, noBracket, noLine, noReturn⟩ :=
    bareKeyChar_ne c (bare.bare c (by simp [split]))
  rw [split, List.cons_append] at read ⊢
  have starts : ∀ later, skipGaps (c :: later) = c :: later := by
    intro later
    simp [skipGaps, noGap]
  have noLineEnd : ∀ later, afterLineEnd (c :: later) = none := by
    intro later
    unfold afterLineEnd
    split <;> simp_all
  rw [readLines, starts]
  split
  · rename_i isEnd
    cases isEnd
  · rename_i isComment
    exact absurd (List.cons.inj isComment).1 noComment
  · rename_i isBracket
    exact absurd (List.cons.inj isBracket).1 noBracket
  · rename_i other
    simp only [noLineEnd, read, assigned]

theorem listedHeader (draft : Draft) (root : OpenTable) (key : String) (rest : List Char)
    (bare : IsBareKey key) (closes : draft.close = some root) :
    Reads draft ('[' :: '[' :: (key.toList ++ ']' :: ']' :: '\n' :: rest))
      ⟨root, some ⟨[key], true⟩, ⟨.headed, []⟩⟩ rest := by
  refine of_step (by simp; omega) fun fuel => ?_
  have read := readKey_bare key (']' :: ']' :: '\n' :: rest) bare
    (by simp [Literal.isBareKeyChar]) (by simp [skipGaps, isGap])
  have header : readHeader ('[' :: (key.toList ++ ']' :: ']' :: '\n' :: rest)) =
      some (⟨[key], true⟩, rest) := by
    simp only [readHeader, read]
    rfl
  have opened : draft.openHeader ⟨[key], true⟩ =
      some ⟨root, some ⟨[key], true⟩, ⟨.headed, []⟩⟩ := by
    unfold Draft.openHeader
    rw [closes]
    rfl
  have starts : skipGaps ('[' :: '[' :: (key.toList ++ ']' :: ']' :: '\n' :: rest)) =
      '[' :: '[' :: (key.toList ++ ']' :: ']' :: '\n' :: rest) := rfl
  rw [readLines, starts]
  simp only [header, opened]

end Reads

/-! ## Assignments one after the other -/

def scalarEntries (scalars : List (String × Scalar)) : Entries :=
  scalars.map fun entry => (entry.1, .scalar entry.2)

def scalarItems (scalars : List (String × Scalar)) : ItemEntries :=
  scalars.map fun entry => (entry.1, .scalar entry.2)

theorem parts_scalarEntries (path : List String) (scalars : List (String × Scalar)) :
    Printer.parts path (scalarEntries scalars) = [] := by
  induction scalars with
  | nil => rfl
  | cons entry scalars ih =>
    simp only [scalarEntries, List.map_cons, Printer.parts] at ih ⊢
    rw [ih]
    rfl

theorem assignments_cons (key : String) (value : Scalar) (scalars : List (String × Scalar))
    (bare : IsBareKey key) (rest : List Char) :
    (Printer.assignments (scalarEntries ((key, value) :: scalars))).toList ++ rest =
      key.toList ++ ' ' :: '=' :: ' ' :: ((Printer.scalar value).toList ++
        '\n' :: ((Printer.assignments (scalarEntries scalars)).toList ++ rest)) := by
  unfold Printer.assignments scalarEntries
  simp [Printer.isHeaded, Printer.value, bare.printed]

theorem new_of_nodup {items : ItemEntries} {key : String} {others : List String}
    (distinct : (items.map (·.1) ++ key :: others).Nodup) : items.lookup key = none := by
  rw [List.lookup_eq_none_iff]
  intro entry member
  have apart := (List.nodup_append.mp distinct).2.2 entry.1 (List.mem_map_of_mem member) key
    (by simp)
  simpa using Ne.symm apart

theorem Reads.scalars (draft : Draft) (scalars : List (String × Scalar)) (rest : List Char)
    (bare : ∀ entry ∈ scalars, IsBareKey entry.1) (legible : ∀ entry ∈ scalars, Legible entry.2)
    (headed : draft.table.form.dotted = false)
    (distinct : (draft.table.entries.map (·.1) ++ scalars.map (·.1)).Nodup) :
    Reads draft ((Printer.assignments (scalarEntries scalars)).toList ++ rest)
      { draft with table := { draft.table with
          entries := draft.table.entries ++ scalarItems scalars } } rest := by
  induction scalars generalizing draft with
  | nil =>
    have unchanged : draft.table.entries ++ scalarItems [] = draft.table.entries := by
      simp [scalarItems]
    rw [unchanged]
    exact .refl draft rest
  | cons entry scalars ih =>
    rcases entry with ⟨key, value⟩
    have isBare := bare (key, value) (by simp)
    have isLegible := legible (key, value) (by simp)
    have new := new_of_nodup distinct
    rw [assignments_cons key value scalars isBare]
    refine (Reads.assignment draft key isLegible _ isBare headed new).trans ?_
    have continued := ih { draft with table := { draft.table with
        entries := draft.table.entries ++ [(key, .scalar value)] } }
      (fun entry member => bare entry (List.mem_cons_of_mem _ member))
      (fun entry member => legible entry (List.mem_cons_of_mem _ member)) headed
      (by simpa using distinct)
    simpa [scalarItems] using continued

/-! ## Lists of tables -/

def textEntries (texts : List (String × String)) : Entries :=
  texts.map fun entry => (entry.1, .string entry.2)

def textItems (texts : List (String × String)) : ItemEntries :=
  texts.map fun entry => (entry.1, .scalar (.string entry.2))

theorem textEntries_eq (texts : List (String × String)) :
    textEntries texts = scalarEntries (texts.map fun entry => (entry.1, .string entry.2)) := by
  simp [textEntries, scalarEntries, Function.comp_def]

theorem textItems_eq (texts : List (String × String)) :
    textItems texts = scalarItems (texts.map fun entry => (entry.1, .string entry.2)) := by
  simp [textItems, scalarItems, Function.comp_def]

theorem Reads.assignments (draft : Draft) (texts : List (String × String)) (rest : List Char)
    (bare : ∀ entry ∈ texts, IsBareKey entry.1) (headed : draft.table.form.dotted = false)
    (distinct : (draft.table.entries.map (·.1) ++ texts.map (·.1)).Nodup) :
    Reads draft ((Printer.assignments (textEntries texts)).toList ++ rest)
      { draft with table := { draft.table with
          entries := draft.table.entries ++ textItems texts } } rest := by
  have reads := Reads.scalars draft (texts.map fun entry => (entry.1, .string entry.2)) rest
    (by
      intro entry member
      obtain ⟨text, inside, rfl⟩ := List.mem_map.mp member
      exact bare text inside)
    (by
      intro entry member
      obtain ⟨_, -, rfl⟩ := List.mem_map.mp member
      exact legible_string _)
    headed (by simpa [Function.comp_def] using distinct)
  rw [textEntries_eq, textItems_eq]
  exact reads

/-- A top level that holds nothing but a list of tables opened by headers. -/
def listedRoot (name : String) (items : List Item) : OpenTable :=
  ⟨.headed, match items with
    | [] => []
    | items => [(name, .tables items)]⟩

theorem close_listed (name : String) (items : List Item) (entries : ItemEntries) :
    (Draft.mk (listedRoot name items) (some ⟨[name], true⟩) ⟨.headed, entries⟩).close =
      some (listedRoot name (items ++ [.table .headed entries])) := by
  cases items with
  | nil => rfl
  | cons first rest =>
    simp [Draft.close, changeAbove, changeAt, addListed, listedRoot, replaceItem]

def listedLines (name : String) (tables : List (List (String × String))) : List String :=
  tables.map fun texts => Printer.header "[[" "]]" [name] ++ Printer.assignments (textEntries texts)

theorem header_listed (name : String) (bare : IsBareKey name) :
    (Printer.header "[[" "]]" [name]).toList =
      '[' :: '[' :: (name.toList ++ [']', ']', '\n']) := by
  simp [Printer.header, bare.printed]

theorem Reads.listedTable (draft : Draft) (name : String) (items : List Item)
    (texts : List (String × String)) (rest : List Char) (bare : IsBareKey name)
    (bareKeys : ∀ entry ∈ texts, IsBareKey entry.1) (distinct : (texts.map (·.1)).Nodup)
    (closes : draft.close = some (listedRoot name items)) :
    Reads draft ((Printer.header "[[" "]]" [name] ++
        Printer.assignments (textEntries texts)).toList ++ rest)
      ⟨listedRoot name items, some ⟨[name], true⟩, ⟨.headed, textItems texts⟩⟩ rest := by
  have headed := Reads.listedHeader draft (listedRoot name items) name
    ((Printer.assignments (textEntries texts)).toList ++ rest) bare closes
  have filled := Reads.assignments
    ⟨listedRoot name items, some ⟨[name], true⟩, ⟨.headed, []⟩⟩ texts rest bareKeys rfl
    (by simpa using distinct)
  rw [String.toList_append, header_listed name bare]
  simpa using headed.trans filled

theorem Reads.listedTables (draft : Draft) (name : String) (items : List Item)
    (tables : List (List (String × String))) (bare : IsBareKey name)
    (bareKeys : ∀ texts ∈ tables, ∀ entry ∈ texts, IsBareKey entry.1)
    (distinct : ∀ texts ∈ tables, (texts.map (·.1)).Nodup)
    (closes : draft.close = some (listedRoot name items)) :
    ∃ final : Draft, final.close = some (listedRoot name
        (items ++ tables.map fun texts => .table .headed (textItems texts))) ∧
      Reads draft ((listedLines name tables).flatMap fun line => '\n' :: line.toList) final [] := by
  induction tables generalizing draft items with
  | nil => exact ⟨draft, by simpa using closes, .refl draft []⟩
  | cons texts tables ih =>
    have blank := Reads.blank draft ((Printer.header "[[" "]]" [name] ++
        Printer.assignments (textEntries texts)).toList ++
      (listedLines name tables).flatMap fun line => '\n' :: line.toList)
    have table := Reads.listedTable draft name items texts
      ((listedLines name tables).flatMap fun line => '\n' :: line.toList) bare
      (bareKeys texts (by simp)) (distinct texts (by simp)) closes
    obtain ⟨final, ends, others⟩ := ih _ (items ++ [.table .headed (textItems texts)])
      (fun texts member => bareKeys texts (List.mem_cons_of_mem _ member))
      (fun texts member => distinct texts (List.mem_cons_of_mem _ member))
      (close_listed name items (textItems texts))
    refine ⟨final, by simpa using ends, ?_⟩
    have reads := (blank.trans table).trans others
    simpa [listedLines] using reads

def listedTables (tables : List (List (String × String))) : Value :=
  .array (tables.map fun texts => .table (textEntries texts))

theorem parts_textEntries (path : List String) (texts : List (String × String)) :
    Printer.parts path (textEntries texts) = [] := by
  rw [textEntries_eq]
  exact parts_scalarEntries path _

theorem listedParts_eq (name : String) (tables : List (List (String × String))) :
    Printer.listedParts [name] (tables.map fun texts => .table (textEntries texts)) =
      listedLines name tables := by
  induction tables with
  | nil => rfl
  | cons texts tables ih =>
    simp only [List.map_cons, Printer.listedParts, listedLines, parts_textEntries] at ih ⊢
    rw [ih]
    rfl

theorem toList_lines (line : String) (lines : List String) :
    ("\n".intercalate (line :: lines)).toList =
      line.toList ++ lines.flatMap fun line => '\n' :: line.toList := by
  induction lines generalizing line with
  | nil => simp
  | cons next lines ih =>
    rw [String.intercalate_cons_cons, String.toList_append, ih next]
    simp

theorem print_listed (name : String) (texts : List (String × String))
    (tables : List (List (String × String))) :
    (print [(name, listedTables (texts :: tables))]).toList =
      (Printer.header "[[" "]]" [name] ++ Printer.assignments (textEntries texts)).toList ++
        (listedLines name tables).flatMap fun line => '\n' :: line.toList := by
  have headed : Printer.isHeaded (listedTables (texts :: tables)) = true := by
    simp [listedTables, Printer.isHeaded, Printer.isTable]
  have top : Printer.assignments [(name, listedTables (texts :: tables))] = "" := by
    simp [Printer.assignments, headed]
  have below : Printer.parts [] [(name, listedTables (texts :: tables))] =
      listedLines name (texts :: tables) := by
    unfold listedTables at headed ⊢
    rw [Printer.parts, Printer.part, if_pos headed, Printer.parts, List.append_nil,
      List.nil_append, listedParts_eq]
  unfold print
  rw [top, below]
  exact toList_lines _ _

/-- A list of tables of texts reads back as it was printed. -/
theorem read_listed (name : String) (tables : List (List (String × String)))
    (nonempty : tables ≠ []) (bare : IsBareKey name)
    (bareKeys : ∀ texts ∈ tables, ∀ entry ∈ texts, IsBareKey entry.1)
    (distinct : ∀ texts ∈ tables, (texts.map (·.1)).Nodup) :
    read (print [(name, listedTables tables)]) =
      some [(name, .tables (tables.map fun texts => .table .headed (textItems texts)))] := by
  obtain ⟨texts, tables, rfl⟩ := List.exists_cons_of_ne_nil nonempty
  have first := Reads.listedTable Draft.start name [] texts
    ((listedLines name tables).flatMap fun line => '\n' :: line.toList) bare
    (bareKeys texts (by simp)) (distinct texts (by simp)) rfl
  obtain ⟨final, ends, others⟩ := Reads.listedTables _ name [.table .headed (textItems texts)]
    tables bare (fun texts member => bareKeys texts (List.mem_cons_of_mem _ member))
    (fun texts member => distinct texts (List.mem_cons_of_mem _ member))
    (close_listed name [] (textItems texts))
  have reads := first.trans others
  rw [← print_listed] at reads
  have starts : ∃ rest, (print [(name, listedTables (texts :: tables))]).toList = '[' :: rest := by
    rw [print_listed, String.toList_append, header_listed name bare]
    exact ⟨_, rfl⟩
  obtain ⟨rest, starts⟩ := starts
  have lines := reads.readLines_eq _ (Nat.lt_succ_self _)
  unfold Document.read
  rw [starts] at lines ⊢
  change (readLines ('[' :: rest).length.succ .start ('[' :: rest)).map (·.entries) = _
  rw [lines, ends]
  rfl

end Document

end AccountKeeper.Toml
