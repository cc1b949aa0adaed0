/-!
# Pieces between marks

Cutting a text at every occurrence of one character, or at the last one.
-/

set_option autoImplicit false

namespace AccountKeeper.Text

/-- Pieces of a text between the occurrences of `mark`; there is one more piece than marks. -/
def pieces (mark : Char) : List Char → List (List Char)
  | [] => [[]]
  | c :: rest =>
    if c = mark then [] :: pieces mark rest
    else
      match pieces mark rest with
      | [] => [[c]]
      | first :: others => (c :: first) :: others

def splitLast (mark : Char) : List Char → Option (List Char × List Char)
  | [] => none
  | c :: rest =>
    match splitLast mark rest with
    | some (before, after) => some (c :: before, after)
    | none => if c = mark then some ([], rest) else none

def splitFirst (mark : Char) : List Char → Option (List Char × List Char)
  | [] => none
  | c :: rest =>
    if c = mark then some ([], rest)
    else (splitFirst mark rest).map fun (before, after) => (c :: before, after)

/-- Whether `part` occurs in a text as a block of consecutive characters. -/
def hasInfix (part : List Char) : List Char → Bool
  | [] => part.isEmpty
  | c :: rest => part.isPrefixOf (c :: rest) || hasInfix part rest

theorem pieces_ne_nil (mark : Char) (text : List Char) : pieces mark text ≠ [] := by
  cases text with
  | nil => simp [pieces]
  | cons c rest =>
    unfold pieces
    split
    · simp
    · split <;> simp

theorem pieces_without (mark : Char) (text : List Char) (without : mark ∉ text) :
    pieces mark text = [text] := by
  induction text with
  | nil => rfl
  | cons c text ih =>
    have other : c ≠ mark := by
      rintro rfl
      exact without (by simp)
    have rest := ih fun member => without (List.mem_cons_of_mem c member)
    simp [pieces, other, rest]

theorem pieces_append (mark : Char) (first rest : List Char) :
    pieces mark (first ++ mark :: rest) = pieces mark first ++ pieces mark rest := by
  induction first with
  | nil => simp [pieces]
  | cons c first ih =>
    by_cases same : c = mark
    · simp [pieces, same, ih]
    · simp only [List.cons_append, pieces, if_neg same, ih]
      obtain ⟨piece, others, split⟩ := List.exists_cons_of_ne_nil (pieces_ne_nil mark first)
      rw [split]
      rfl

theorem splitLast_eq_none (mark : Char) (text : List Char) :
    splitLast mark text = none ↔ mark ∉ text := by
  induction text with
  | nil => simp [splitLast]
  | cons c rest ih =>
    cases found : splitLast mark rest with
    | some halves =>
      have known : mark ∈ rest := by
        apply Classical.byContradiction
        intro absent
        rw [ih.mpr absent] at found
        cases found
      simp [splitLast, found, known]
    | none =>
      have absent : mark ∉ rest := ih.mp found
      by_cases same : c = mark
      · simp [splitLast, found, same]
      · simp [splitLast, found, same, absent, Ne.symm same]

/-- The part behind the last mark has no mark in it. -/
theorem splitLast_eq_some (mark : Char) (text before after : List Char) :
    splitLast mark text = some (before, after) ↔
      text = before ++ mark :: after ∧ mark ∉ after := by
  induction text generalizing before with
  | nil => simp [splitLast]
  | cons c rest ih =>
    cases found : splitLast mark rest with
    | some halves =>
      obtain ⟨first, last⟩ := halves
      simp only [splitLast, found, Option.some.injEq, Prod.mk.injEq]
      constructor
      · rintro ⟨rfl, rfl⟩
        obtain ⟨whole, absent⟩ := (ih first).mp found
        exact ⟨by rw [whole]; rfl, absent⟩
      · rintro ⟨whole, absent⟩
        cases before with
        | nil =>
          obtain ⟨_, rfl⟩ := List.cons.inj whole
          rw [(splitLast_eq_none mark rest).mpr absent] at found
          cases found
        | cons d others =>
          obtain ⟨rfl, rest_eq⟩ := List.cons.inj whole
          have halves := (ih others).mpr ⟨rest_eq, absent⟩
          rw [found] at halves
          cases halves
          exact ⟨rfl, rfl⟩
    | none =>
      have without : mark ∉ rest := (splitLast_eq_none mark rest).mp found
      simp only [splitLast, found]
      constructor
      · intro split
        by_cases same : c = mark
        · rw [if_pos same] at split
          cases split
          exact ⟨by rw [same]; rfl, without⟩
        · rw [if_neg same] at split
          cases split
      · rintro ⟨whole, absent⟩
        cases before with
        | nil =>
          obtain ⟨rfl, rfl⟩ := List.cons.inj whole
          exact if_pos rfl
        | cons d others =>
          obtain ⟨_, rest_eq⟩ := List.cons.inj whole
          exact absurd (by simp [rest_eq]) without

theorem hasInfix_iff (part text : List Char) : hasInfix part text = true ↔ part <:+: text := by
  induction text with
  | nil => simp [hasInfix]
  | cons c rest ih => simp [hasInfix, List.infix_cons_iff, ih]

end AccountKeeper.Text
