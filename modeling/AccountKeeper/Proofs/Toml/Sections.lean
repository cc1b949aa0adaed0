import AccountKeeper.Proofs.Toml.Lines

/-!
# Documents of sections

A section is a table of scalars under a plain header.  A document that holds
nothing but sections reads back as it was printed (`Document.read_sections`).
-/

set_option autoImplicit false

namespace AccountKeeper.Toml

open Literal

structure Section where
  name : String
  scalars : List (String × Scalar)

namespace Section

def entry (part : Section) : String × Value :=
  (part.name, .table (Document.scalarEntries part.scalars))

def item (part : Section) : String × Item :=
  (part.name, .table .headed (Document.scalarItems part.scalars))

/-- A section whose name and keys need no quotes and whose scalars are read back. -/
structure IsPlain (part : Section) : Prop where
  bare : ∀ key ∈ part.name :: part.scalars.map (·.1), IsBareKey key
  legible : ∀ entry ∈ part.scalars, Legible entry.2
  distinct : (part.scalars.map (·.1)).Nodup

theorem IsPlain.name {part : Section} (plain : part.IsPlain) : IsBareKey part.name :=
  plain.bare part.name (List.mem_cons_self ..)

def line (part : Section) : String :=
  Printer.header "[" "]" [part.name] ++
    Printer.assignments (Document.scalarEntries part.scalars)

end Section

namespace Document

/-! ## Printing -/

theorem parts_section (part : Section) (rest : Entries) :
    Printer.parts [] (part.entry :: rest) = part.line :: Printer.parts [] rest := by
  have own : scalarEntries part.scalars = [] ∨
      (scalarEntries part.scalars).any (fun entry => !Printer.isHeaded entry.2) = true := by
    cases part.scalars with
    | nil => exact .inl rfl
    | cons entry scalars => exact .inr (by simp [scalarEntries, Printer.isHeaded])
  unfold Section.entry
  rw [Printer.parts, Printer.part, if_pos own, parts_scalarEntries]
  rfl

theorem parts_sections (sections : List Section) :
    Printer.parts [] (sections.map Section.entry) = sections.map Section.line := by
  induction sections with
  | nil => rfl
  | cons first sections ih =>
    rw [List.map_cons, parts_section, ih]
    rfl

theorem assignments_sections (sections : List Section) :
    Printer.assignments (sections.map Section.entry) = "" := by
  induction sections with
  | nil => rfl
  | cons first sections ih =>
    unfold Printer.assignments at ih ⊢
    rw [List.map_cons, List.map_cons, String.join_cons, ih]
    rfl

theorem toList_line (part : Section) (bare : IsBareKey part.name) :
    part.line.toList = '[' :: (part.name.toList ++ ']' :: '\n' ::
      (Printer.assignments (scalarEntries part.scalars)).toList) := by
  simp [Section.line, Printer.header, bare.printed]

theorem print_sections (first : Section) (sections : List Section) :
    (print ((first :: sections).map Section.entry)).toList =
      first.line.toList ++ (sections.map Section.line).flatMap fun line => '\n' :: line.toList := by
  unfold print
  rw [assignments_sections, parts_sections]
  exact toList_lines _ _

/-! ## Reading -/

theorem Reads.header (draft : Draft) (root : OpenTable) (name : String) (rest : List Char)
    (bare : IsBareKey name) (closes : draft.close = some root)
    (new : root.entries.lookup name = none) :
    Reads draft ('[' :: (name.toList ++ ']' :: '\n' :: rest))
      ⟨root, some ⟨[name], false⟩, ⟨.headed, []⟩⟩ rest := by
  refine of_step (by simp; omega) fun fuel => ?_
  have read := readKey_bare name (']' :: '\n' :: rest) bare
    (by simp [Literal.isBareKeyChar]) (by simp [skipGaps, isGap])
  obtain ⟨c, others, cut⟩ := List.exists_cons_of_ne_nil bare.nonempty
  obtain ⟨-, -, -, -, noBracket, -⟩ := bareKeyChar_ne c (bare.bare c (by simp [cut]))
  have header : readHeader (name.toList ++ ']' :: '\n' :: rest) =
      some (⟨[name], false⟩, rest) := by
    rw [cut, List.cons_append] at read ⊢
    rw [readHeader, read]
    · rfl
    · exact fun _ isBracket => noBracket (List.cons.inj isBracket).1
  have opened : draft.openHeader ⟨[name], false⟩ =
      some ⟨root, some ⟨[name], false⟩, ⟨.headed, []⟩⟩ := by
    have taken : changeAbove false false takeImplied [name] root = some ([], root) := by
      change takeImplied name root = _
      unfold takeImplied
      rw [new]
    unfold Draft.openHeader
    rw [closes]
    dsimp only
    rw [Option.bind_eq_bind, Option.bind_some, if_neg Bool.false_ne_true, taken]
    rfl
  have starts : skipGaps ('[' :: (name.toList ++ ']' :: '\n' :: rest)) =
      '[' :: (name.toList ++ ']' :: '\n' :: rest) := rfl
  rw [readLines, starts]
  simp only [header, opened]

theorem close_section (part : Section) (items : ItemEntries)
    (new : items.lookup part.name = none) :
    (Draft.mk ⟨.headed, items⟩ (some ⟨[part.name], false⟩)
        ⟨.headed, scalarItems part.scalars⟩).close =
      some ⟨.headed, items ++ [part.item]⟩ := by
  have added : changeAbove false false
      (addTable (.table .headed (scalarItems part.scalars))) [part.name] ⟨.headed, items⟩ =
        some ((), ⟨.headed, items ++ [part.item]⟩) := by
    change addTable _ part.name _ = _
    unfold addTable
    simp [new, Section.item]
  unfold Draft.close
  dsimp only
  rw [if_neg Bool.false_ne_true, added]
  rfl

theorem Reads.ofSection (draft : Draft) (part : Section) (items : ItemEntries)
    (rest : List Char) (plain : part.IsPlain) (new : items.lookup part.name = none)
    (closes : draft.close = some ⟨.headed, items⟩) :
    Reads draft (part.line.toList ++ rest)
      ⟨⟨.headed, items⟩, some ⟨[part.name], false⟩,
        ⟨.headed, scalarItems part.scalars⟩⟩ rest := by
  have headed := Reads.header draft ⟨.headed, items⟩ part.name
    ((Printer.assignments (scalarEntries part.scalars)).toList ++ rest) plain.name closes new
  have filled := Reads.scalars
    ⟨⟨.headed, items⟩, some ⟨[part.name], false⟩, ⟨.headed, []⟩⟩ part.scalars rest
    (fun entry member => plain.bare entry.1 (.tail _ (List.mem_map_of_mem member)))
    plain.legible rfl (by simpa using plain.distinct)
  rw [toList_line part plain.name]
  simpa using headed.trans filled

/-- Each section closes the one before it; the names tell them apart. -/
theorem Reads.sections (draft : Draft) (sections : List Section) (items : ItemEntries)
    (plain : ∀ part ∈ sections, part.IsPlain)
    (distinct : (items.map (·.1) ++ sections.map (·.name)).Nodup)
    (closes : draft.close = some ⟨.headed, items⟩) :
    ∃ final : Draft, final.close = some ⟨.headed, items ++ sections.map Section.item⟩ ∧
      Reads draft ((sections.map Section.line).flatMap fun line => '\n' :: line.toList)
        final [] := by
  induction sections generalizing draft items with
  | nil => exact ⟨draft, by simpa using closes, .refl draft []⟩
  | cons first sections ih =>
    have new := new_of_nodup distinct
    have blank := Reads.blank draft (first.line.toList ++
      (sections.map Section.line).flatMap fun line => '\n' :: line.toList)
    have read := Reads.ofSection draft first items
      ((sections.map Section.line).flatMap fun line => '\n' :: line.toList)
      (plain first (by simp)) new closes
    obtain ⟨final, ends, others⟩ := ih _ (items ++ [first.item])
      (fun part member => plain part (List.mem_cons_of_mem _ member))
      (by simpa [Section.item] using distinct) (close_section first items new)
    refine ⟨final, by simpa using ends, ?_⟩
    simpa using (blank.trans read).trans others

theorem read_sections (sections : List Section) (nonempty : sections ≠ [])
    (plain : ∀ part ∈ sections, part.IsPlain)
    (distinct : (sections.map (·.name)).Nodup) :
    read (print (sections.map Section.entry)) = some (sections.map Section.item) := by
  obtain ⟨first, sections, rfl⟩ := List.exists_cons_of_ne_nil nonempty
  have opening := Reads.ofSection Draft.start first []
    ((sections.map Section.line).flatMap fun line => '\n' :: line.toList)
    (plain first (by simp)) rfl rfl
  obtain ⟨final, ends, others⟩ := Reads.sections _ sections [first.item]
    (fun part member => plain part (List.mem_cons_of_mem _ member))
    (by simpa [Section.item] using distinct) (close_section first [] rfl)
  have reads := opening.trans others
  rw [← print_sections] at reads
  have starts : ∃ rest, (print ((first :: sections).map Section.entry)).toList = '[' :: rest := by
    rw [print_sections, toList_line first (plain first (by simp)).name]
    exact ⟨_, rfl⟩
  obtain ⟨rest, starts⟩ := starts
  have lines := reads.readLines_eq _ (Nat.lt_succ_self _)
  unfold Document.read
  rw [starts] at lines ⊢
  change (readLines ('[' :: rest).length.succ .start ('[' :: rest)).map (·.entries) = _
  rw [lines, ends]
  rfl

end Document

end AccountKeeper.Toml
