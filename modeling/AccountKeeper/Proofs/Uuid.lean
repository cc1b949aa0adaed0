import AccountKeeper.Account

/-!
# Written identifiers

An identifier is read back from its written form, so different identifiers have
different forms, and different accounts keep their tokens under different keys.
-/

set_option autoImplicit false

namespace AccountKeeper

namespace Uuid

/-! ## Digits -/

theorem digit?_digitChar : ∀ d : Fin 16, digit? (digitChar d) = some d := by
  decide

theorem digitChar_plain : ∀ d : Fin 16, digitChar d ≠ '-' ∧ (digitChar d).utf8Size = 1 := by
  decide

theorem mapM_digit? (digits : List (Fin 16)) :
    (digits.map digitChar).mapM digit? = some digits := by
  induction digits with
  | nil => rfl
  | cons d digits ih => simp [digit?_digitChar, ih]

theorem ofDigits?_digits (id : Uuid) : ofDigits? id.digits.toList = some id := by
  rcases id with ⟨⟨digits, count⟩⟩
  simp [ofDigits?, Vector.toList, count]

/-! ## Groups -/

/-- A text cut into groups of the given lengths; the last one takes what is left. -/
def groupsOf : List Nat → List Char → List (List Char)
  | [], rest => [rest]
  | [n], text => [text.take n]
  | n :: lengths, text => text.take n :: groupsOf lengths (text.drop n)

theorem pieces_hyphenate (lengths : List Nat) (text : List Char) (without : '-' ∉ text) :
    Text.pieces '-' (hyphenate lengths text) = groupsOf lengths text := by
  induction lengths generalizing text with
  | nil => exact Text.pieces_without '-' text without
  | cons n lengths ih =>
    have first : '-' ∉ text.take n := fun member => without (List.mem_of_mem_take member)
    have rest : '-' ∉ text.drop n := fun member => without (List.mem_of_mem_drop member)
    cases lengths with
    | nil => exact Text.pieces_without '-' _ first
    | cons m lengths =>
      rw [hyphenate, Text.pieces_append, Text.pieces_without '-' _ first, ih _ rest]
      · rfl
      · simp

theorem groupsOf_exact (lengths : List Nat) (text : List Char) (nonempty : lengths ≠ [])
    (total : text.length = lengths.foldr (· + ·) 0) :
    (groupsOf lengths text).map List.length = lengths ∧
      (groupsOf lengths text).flatten = text := by
  induction lengths generalizing text with
  | nil => exact absurd rfl nonempty
  | cons n lengths ih =>
    cases lengths with
    | nil =>
      have whole : text.length = n := by simpa using total
      simp [groupsOf, ← whole]
    | cons m lengths =>
      rw [List.foldr_cons] at total
      obtain ⟨counts, joined⟩ := ih (text.drop n) (by simp) (by rw [List.length_drop]; omega)
      rw [groupsOf, List.map_cons, List.flatten_cons, counts, joined, List.length_take,
        List.take_append_drop]
      · exact ⟨by rw [Nat.min_eq_left (by omega)], rfl⟩
      · simp

theorem hyphenate_all (lengths : List Nat) (text : List Char) (nonempty : lengths ≠ [])
    (total : text.length = lengths.foldr (· + ·) 0) :
    (hyphenate lengths text).length + 1 = text.length + lengths.length ∧
      ∀ c ∈ hyphenate lengths text, c = '-' ∨ c ∈ text := by
  induction lengths generalizing text with
  | nil => exact absurd rfl nonempty
  | cons n lengths ih =>
    cases lengths with
    | nil =>
      have whole : text.length = n := by simpa using total
      simp only [hyphenate, ← whole, List.take_length, List.length_cons, List.length_nil]
      exact ⟨trivial, fun c member => .inr member⟩
    | cons m lengths =>
      rw [List.foldr_cons] at total
      obtain ⟨count, chars⟩ := ih (text.drop n) (by simp) (by rw [List.length_drop]; omega)
      rw [hyphenate]
      · constructor
        · rw [List.length_append, List.length_cons, List.length_take, List.length_cons]
          rw [List.length_drop] at count
          omega
        · intro c member
          rcases List.mem_append.mp member with taken | hyphen
          · exact .inr (List.mem_of_mem_take taken)
          · rcases List.mem_cons.mp hyphen with isHyphen | dropped
            · exact .inl isHyphen
            · exact (chars c dropped).imp id List.mem_of_mem_drop
      · simp

theorem byteLength_ascii (text : List Char) (ascii : ∀ c ∈ text, c.utf8Size = 1) :
    byteLength text = text.length := by
  have general : ∀ start, text.foldl (fun length c => length + c.utf8Size) start =
      start + text.length := by
    induction text with
    | nil => simp
    | cons c text ih =>
      intro start
      rw [List.foldl_cons, ih (fun c' member => ascii c' (List.mem_cons_of_mem c member)),
        ascii c (by simp), List.length_cons]
      omega
  simpa [byteLength] using general 0

/-! ## Round trip -/

/-- An identifier is read back from its written form. -/
theorem parse_display (id : Uuid) : parse id.display = .ok id := by
  have count : (id.digits.toList.map digitChar).length = groupLengths.foldr (· + ·) 0 := by
    rw [List.length_map, Vector.length_toList]
    rfl
  have noHyphen : '-' ∉ id.digits.toList.map digitChar := by
    intro member
    obtain ⟨d, _, isHyphen⟩ := List.mem_map.mp member
    exact (digitChar_plain d).1 isHyphen
  obtain ⟨length, chars⟩ := hyphenate_all groupLengths _ (by decide) count
  obtain ⟨groups, joined⟩ := groupsOf_exact groupLengths _ (by decide) count
  generalize written : hyphenate groupLengths (id.digits.toList.map digitChar) = text
    at length chars
  have ascii : ∀ c ∈ text, c.utf8Size = 1 := by
    intro c member
    rcases chars c member with rfl | digit
    · rfl
    · obtain ⟨d, _, rfl⟩ := List.mem_map.mp digit
      exact (digitChar_plain d).2
  have size : byteLength text = 36 := by
    rw [byteLength_ascii text ascii]
    rw [count] at length
    simpa [groupLengths] using length
  have read : readGroups text = .ok id := by
    unfold readGroups
    rw [← written, pieces_hyphenate groupLengths _ noHyphen]
    simp only [groups, joined, mapM_digit?, if_true, Option.bind_some, ofDigits?_digits]
    rfl
  unfold parse display
  rw [written, String.toList_ofList]
  rcases undress text with ⟨dress, inner⟩
  simp [size, longest, read]

theorem display_chars (id : Uuid) :
    ∀ c ∈ id.display.toList, c = '-' ∨ ∃ d, c = digitChar d := by
  have count : (id.digits.toList.map digitChar).length = groupLengths.foldr (· + ·) 0 := by
    rw [List.length_map, Vector.length_toList]
    rfl
  intro c member
  rw [display, String.toList_ofList] at member
  rcases (hyphenate_all groupLengths _ (by decide) count).2 c member with hyphen | digit
  · exact .inl hyphen
  · obtain ⟨d, _, rfl⟩ := List.mem_map.mp digit
    exact .inr ⟨d, rfl⟩

theorem display_injective (id other : Uuid) (same : id.display = other.display) : id = other := by
  have read := parse_display id
  rw [same, parse_display other] at read
  exact (Except.ok.inj read).symm

end Uuid

theorem AccountId.secretKey_injective (id other : AccountId)
    (same : id.secretKey = other.secretKey) : id = other := by
  have shown : id.uuid.display = other.uuid.display := by
    have characters := congrArg String.toList same
    simp only [secretKey, display, String.toList_append] at characters
    exact String.toList_inj.mp (List.append_cancel_left characters)
  rcases id with ⟨uuid⟩
  rcases other with ⟨uuid'⟩
  rw [Uuid.display_injective uuid uuid' shown]

end AccountKeeper
