/-!
# Blank characters

The characters with the Unicode property `White_Space`, and the removal of
such characters from the two ends of a text.
-/

set_option autoImplicit false

namespace AccountKeeper.Text

/-- The property `White_Space` of the Unicode standard. -/
def isBlank (c : Char) : Bool :=
  let code := c.toNat
  (9 ≤ code && code ≤ 13) || code = 0x20 || code = 0x85 || code = 0xA0 || code = 0x1680 ||
    (0x2000 ≤ code && code ≤ 0x200A) || code = 0x2028 || code = 0x2029 || code = 0x202F ||
    code = 0x205F || code = 0x3000

/-- Drops the longest tail whose characters all satisfy `p`. -/
def dropTailWhile (p : Char → Bool) (text : List Char) : List Char :=
  (text.reverse.dropWhile p).reverse

def trimBlanks (text : List Char) : List Char :=
  dropTailWhile isBlank (text.dropWhile isBlank)

def trim (text : String) : String :=
  String.ofList (trimBlanks text.toList)

/-- The part that is dropped satisfies `p` throughout, and the part that is kept does not end in
it. -/
theorem dropTailWhile_spec (p : Char → Bool) (text : List Char) :
    ∃ tail, text = dropTailWhile p text ++ tail ∧ (∀ c ∈ tail, p c = true) ∧
      ∀ c ∈ (dropTailWhile p text).getLast?, p c = false := by
  refine ⟨(text.reverse.takeWhile p).reverse, ?_, ?_, ?_⟩
  · unfold dropTailWhile
    rw [← List.reverse_append, List.takeWhile_append_dropWhile, List.reverse_reverse]
  · intro c member
    have taken : (text.reverse.takeWhile p).all p = true := List.all_takeWhile
    exact List.all_eq_true.mp taken c (List.mem_reverse.mp member)
  · intro c last
    have head : (text.reverse.dropWhile p).head? = some c := by
      rw [← List.getLast?_reverse]
      exact last
    have first := List.head?_dropWhile_not p text.reverse
    rw [head] at first
    exact first

theorem dropTailWhile_append (p : Char → Bool) (kept tail : List Char)
    (ends : ∀ c ∈ kept.getLast?, p c = false) :
    dropTailWhile p (kept ++ tail) = kept ++ dropTailWhile p tail := by
  have first : kept.reverse.dropWhile p = kept.reverse := by
    cases reversed : kept.reverse with
    | nil => rfl
    | cons c rest =>
      have last : p c = false := ends c (by rw [List.getLast?_eq_head?_reverse, reversed]; rfl)
      rw [List.dropWhile_cons_of_neg (by simp [last])]
  unfold dropTailWhile
  rw [List.reverse_append, List.dropWhile_append]
  split
  · rename_i dropped
    rw [List.isEmpty_iff.mp dropped, first, List.reverse_reverse]
    simp
  · rw [List.reverse_append, List.reverse_reverse]

theorem dropTailWhile_eq_self (p : Char → Bool) (text : List Char)
    (ends : ∀ c ∈ text.getLast?, p c = false) : dropTailWhile p text = text := by
  have whole := dropTailWhile_append p text [] ends
  rw [List.append_nil] at whole
  rw [whole]
  exact List.append_nil text

theorem dropTailWhile_all (p : Char → Bool) (tail : List Char) (all : ∀ c ∈ tail, p c = true) :
    dropTailWhile p tail = [] := by
  obtain ⟨dropped, whole, _, ends⟩ := dropTailWhile_spec p tail
  cases last : (dropTailWhile p tail).getLast? with
  | none => exact List.getLast?_eq_none_iff.mp last
  | some c =>
    have member : c ∈ tail := by
      rw [whole]
      exact List.mem_append_left dropped (List.mem_of_getLast? last)
    have outside : p c = false := ends c last
    rw [all c member] at outside
    cases outside

/-- There is no blank at either end. -/
structure Trimmed (text : List Char) : Prop where
  head : ∀ c ∈ text.head?, isBlank c = false
  last : ∀ c ∈ text.getLast?, isBlank c = false

/-- A core is what is left of a text without the blanks at its two ends. -/
structure IsCore (text core : List Char) : Prop extends Trimmed core where
  around : ∃ before after, text = before ++ core ++ after ∧
    (∀ c ∈ before, isBlank c = true) ∧ ∀ c ∈ after, isBlank c = true

theorem Trimmed.of_unblank {text : List Char} (unblank : ∀ c ∈ text, isBlank c = false) :
    Trimmed text where
  head c first := unblank c (List.mem_of_head? first)
  last c ends := unblank c (List.mem_of_getLast? ends)

/-- Behind a part without blanks at its ends only the rest is trimmed. -/
theorem trimBlanks_append (kept tail : List Char) (nonempty : kept ≠ []) (trimmed : Trimmed kept) :
    trimBlanks (kept ++ tail) = kept ++ dropTailWhile isBlank tail := by
  have front : (kept ++ tail).dropWhile isBlank = kept ++ tail := by
    cases kept with
    | nil => exact absurd rfl nonempty
    | cons c rest =>
      rw [List.cons_append, List.dropWhile_cons_of_neg]
      simp [trimmed.head c rfl]
  unfold trimBlanks
  rw [front, dropTailWhile_append isBlank kept tail trimmed.last]

theorem isCore_trimBlanks (text : List Char) : IsCore text (trimBlanks text) := by
  obtain ⟨tail, whole, blank, last⟩ := dropTailWhile_spec isBlank (text.dropWhile isBlank)
  refine ⟨⟨?_, last⟩, text.takeWhile isBlank, tail, ?_, ?_, blank⟩
  · intro c first
    have head : (text.dropWhile isBlank).head? = some c := by
      rw [whole, List.head?_append]
      unfold trimBlanks at first
      rw [Option.mem_def.mp first]
      rfl
    have outside := List.head?_dropWhile_not isBlank text
    rw [head] at outside
    exact outside
  · rw [List.append_assoc]
    unfold trimBlanks
    rw [← whole, List.takeWhile_append_dropWhile]
  · intro c member
    have taken : (text.takeWhile isBlank).all isBlank = true := List.all_takeWhile
    exact List.all_eq_true.mp taken c member

end AccountKeeper.Text
