import AccountKeeper.Text.Ascii
import AccountKeeper.Text.Blank
import AccountKeeper.Text.Lowercase

/-!
# Lower case once and twice

The lower-case form of a text is its own lower-case form, although the form of
a sigma depends on the characters around it.  Blanks, colons and slashes are
not among the characters that the mapping brings into a text.
-/

set_option autoImplicit false

namespace AccountKeeper.Text

/-- A blank, or a character that separates the parts of an address. -/
def isSeparator (c : Char) : Bool :=
  isBlank c || c = ':' || c = '/'

/-! ## The table of the mapping -/

namespace CaseRun

/-- Whether the run has a rule for a code point. -/
def maps (run : CaseRun) (code : Nat) : Bool :=
  run.first.ble code && code.ble run.last && ((code - run.first) % run.step).beq 0

def image (run : CaseRun) (code : Nat) : Nat :=
  ((code : Int) + run.offset).toNat

def codes (run : CaseRun) : List Nat :=
  ((List.range (run.last - run.first + 1)).map (run.first + ·)).filter run.maps

/-- Whether the images of the run lie among the code points of another one. -/
def meets (run other : CaseRun) : Bool :=
  other.first.ble (run.image run.last) && (run.image run.first).ble other.last

def avoids (run : CaseRun) (range : Nat × Nat) : Bool :=
  (run.image run.last).blt range.1 || range.2.blt (run.image run.first)

variable (run : CaseRun) (code : Nat)

theorem maps_iff : run.maps code = true ↔
    run.first ≤ code ∧ code ≤ run.last ∧ (code - run.first) % run.step = 0 := by
  simp [maps, and_assoc]

theorem mem_codes (mapped : run.maps code = true) : code ∈ run.codes := by
  obtain ⟨low, high, _⟩ := (run.maps_iff code).mp mapped
  refine List.mem_filter.mpr ⟨List.mem_map.mpr ⟨code - run.first, ?_, ?_⟩, mapped⟩
  · exact List.mem_range.mpr (by omega)
  · omega

theorem image_bounds (mapped : run.maps code = true) :
    run.image run.first ≤ run.image code ∧ run.image code ≤ run.image run.last := by
  obtain ⟨low, high, _⟩ := (run.maps_iff code).mp mapped
  unfold image
  omega

end CaseRun

/-- Code points that are not the lower case of other ones: blanks, slash and colon, the one letter
whose lower case has two characters, and what are no characters at all. -/
def barred : List (Nat × Nat) :=
  [(0x9, 0xD), (0x20, 0x20), (0x2F, 0x2F), (0x3A, 0x3A), (0x85, 0x85), (0xA0, 0xA0),
    (0x130, 0x130), (0x1680, 0x1680), (0x2000, 0x200A), (0x2028, 0x2029), (0x202F, 0x202F),
    (0x205F, 0x205F), (0x3000, 0x3000), (0xD800, 0xDFFF)]

theorem runs_apart :
    (lowercaseRuns.toList.all fun run =>
      (lowercaseRuns.toList.filter run.meets).all fun other =>
        run.codes.all fun code => !other.maps (run.image code)) = true := by
  decide +kernel

theorem runs_avoid :
    (lowercaseRuns.toList.all fun run =>
      (run.image run.last).blt 0x110000 && barred.all run.avoids) = true := by
  decide +kernel

/-- No rule of the table is for this code point. -/
def IsSettled (code : Nat) : Prop :=
  code ≠ 0x130 ∧ ∀ run ∈ lowercaseRuns, run.maps code = false

/-- What a rule maps to is a character that no rule is for, and no separator. -/
structure Lands (code : Nat) : Prop where
  settled : IsSettled code
  valid : code.isValidChar
  plain : ∀ range ∈ barred, code < range.1 ∨ range.2 < code

theorem lands_image (run : CaseRun) (code : Nat) (listed : run ∈ lowercaseRuns)
    (mapped : run.maps code = true) : Lands (run.image code) := by
  obtain ⟨low, high⟩ := run.image_bounds code mapped
  have avoided := List.all_eq_true.mp runs_avoid run (Array.mem_toList_iff.mpr listed)
  rw [Bool.and_eq_true] at avoided
  have plain : ∀ range ∈ barred, run.image code < range.1 ∨ range.2 < run.image code := by
    intro range member
    have apart := List.all_eq_true.mp avoided.2 range member
    simp only [CaseRun.avoids, Bool.or_eq_true, Nat.blt_eq] at apart
    omega
  have bound : run.image run.last < 0x110000 := by simpa using avoided.1
  have surrogates := plain (0xD800, 0xDFFF) (by decide)
  have dotted := plain (0x130, 0x130) (by decide)
  refine ⟨⟨by omega, ?_⟩, by simp only [Nat.isValidChar]; omega, plain⟩
  intro other among
  cases mapped_again : other.maps (run.image code) with
  | false => rfl
  | true =>
    obtain ⟨first, last, _⟩ := (other.maps_iff _).mp mapped_again
    have meets : run.meets other = true := by
      simp only [CaseRun.meets, Bool.and_eq_true, Nat.ble_eq]
      omega
    have apart := List.all_eq_true.mp runs_apart run (Array.mem_toList_iff.mpr listed)
    have others := List.all_eq_true.mp apart other
      (List.mem_filter.mpr ⟨Array.mem_toList_iff.mpr among, meets⟩)
    have never := List.all_eq_true.mp others code (run.mem_codes code mapped)
    rw [mapped_again] at never
    cases never

/-! ## Single characters -/

/-- A character that the mapping leaves alone. -/
def Lowered (c : Char) : Prop :=
  lowerChar c = [c]

theorem lowered_of_isSettled (c : Char) (settled : IsSettled c.toNat) : Lowered c := by
  unfold Lowered lowerChar
  split
  · have capitals : (⟨0x41, 0x5A, 1, 32⟩ : CaseRun) ∈ lowercaseRuns :=
      Array.mem_toList_iff.mp List.mem_cons_self
    have unmapped := settled.2 _ capitals
    have small : ¬(c.val ≥ 'A'.val ∧ c.val ≤ 'Z'.val) := by
      rintro ⟨low, high⟩
      have mapped := (CaseRun.maps_iff ⟨0x41, 0x5A, 1, 32⟩ c.toNat).mpr
        ⟨low, high, Nat.mod_one _⟩
      rw [unmapped] at mapped
      cases mapped
    rw [toLower_of_not_capital c small]
  · rw [if_neg (fun dotted => settled.1 (by rw [dotted]; rfl))]
    split
    · rfl
    · rename_i run found
      have listed : run ∈ lowercaseRuns := mem_of_bisect _ _ _ _ _ _ found
      obtain ⟨low, high⟩ := bounds_of_bisect _ _ _ _ _ _ found
      split
      · rename_i phase
        have mapped := (run.maps_iff c.toNat).mpr ⟨low, high, phase⟩
        rw [settled.2 run listed] at mapped
        cases mapped
      · rfl

/-- The lower case of a character is the character itself, or what a rule maps it to. -/
theorem lowerChar_cases (c : Char) :
    lowerChar c = [c] ∨ lowerChar c = ['i', '\u0307'] ∨
      ∃ d, lowerChar c = [d] ∧ Lands d.toNat := by
  unfold lowerChar
  split
  · by_cases capital : c.val ≥ 'A'.val ∧ c.val ≤ 'Z'.val
    · have mapped := (CaseRun.maps_iff ⟨0x41, 0x5A, 1, 32⟩ c.toNat).mpr
        ⟨capital.1, capital.2, Nat.mod_one _⟩
      have lands := lands_image _ _ (Array.mem_toList_iff.mp List.mem_cons_self) mapped
      refine .inr (.inr ⟨c.toLower, rfl, ?_⟩)
      rw [toNat_toLower c capital]
      exact lands
    · rw [toLower_of_not_capital c capital]
      exact .inl rfl
  · split
    · exact .inr (.inl rfl)
    · split
      · exact .inl rfl
      · rename_i run found
        have listed : run ∈ lowercaseRuns := mem_of_bisect _ _ _ _ _ _ found
        obtain ⟨low, high⟩ := bounds_of_bisect _ _ _ _ _ _ found
        split
        · rename_i phase
          have mapped := (run.maps_iff c.toNat).mpr ⟨low, high, phase⟩
          have lands := lands_image run c.toNat listed mapped
          refine .inr (.inr ⟨_, rfl, ?_⟩)
          change Lands (Char.ofNat (run.image c.toNat)).toNat
          unfold Char.ofNat
          rw [dif_pos lands.valid]
          exact lands
        · exact .inl rfl

theorem isSettled_of_unmapped (code : Nat) (other : code ≠ 0x130)
    (unmapped : (lowercaseRuns.toList.all fun run => !run.maps code) = true) :
    IsSettled code := by
  refine ⟨other, ?_⟩
  intro run listed
  have never := List.all_eq_true.mp unmapped run (Array.mem_toList_iff.mpr listed)
  cases mapped : run.maps code with
  | false => rfl
  | true =>
    rw [mapped] at never
    cases never

theorem lowered_of_mem_lowerChar (c d : Char) (member : d ∈ lowerChar c) : Lowered d := by
  rcases lowerChar_cases c with same | dotted | ⟨image, mapped, lands⟩
  · rw [same] at member
    rw [List.mem_singleton.mp member]
    exact same
  · rw [dotted] at member
    apply lowered_of_isSettled
    simp only [List.mem_cons, List.not_mem_nil, or_false] at member
    rcases member with rfl | rfl
    · exact isSettled_of_unmapped _ (by decide) (by decide +kernel)
    · exact isSettled_of_unmapped _ (by decide) (by decide +kernel)
  · rw [mapped] at member
    rw [List.mem_singleton.mp member]
    exact lowered_of_isSettled image lands.settled

theorem not_isSeparator_of_lands (c : Char) (lands : Lands c.toNat) : isSeparator c = false := by
  have plain := lands.plain
  simp only [barred, List.forall_mem_cons] at plain
  cases separates : isSeparator c with
  | false => rfl
  | true =>
    exfalso
    simp only [isSeparator, isBlank, Bool.or_eq_true, Bool.and_eq_true, decide_eq_true_eq]
      at separates
    rcases separates with (blank | rfl) | rfl
    · omega
    · exact absurd plain (by decide)
    · exact absurd plain (by decide)

theorem eq_of_separator_mem_lowerChar (c d : Char) (member : d ∈ lowerChar c)
    (separates : isSeparator d = true) : d = c := by
  rcases lowerChar_cases c with same | dotted | ⟨image, mapped, lands⟩
  · rw [same] at member
    exact List.mem_singleton.mp member
  · rw [dotted] at member
    simp only [List.mem_cons, List.not_mem_nil, or_false] at member
    rcases member with rfl | rfl
    · cases separates
    · cases separates
  · rw [mapped] at member
    rw [List.mem_singleton.mp member, not_isSeparator_of_lands image lands] at separates
    cases separates

/-! ## Texts -/

/-- A character of the lower-case form comes from one of the text, or is a form of sigma. -/
theorem mem_lowerAfter (before text : List Char) (d : Char) (member : d ∈ lowerAfter before text) :
    (∃ c ∈ text, d ∈ lowerChar c) ∨ d = 'ς' ∨ d = 'σ' := by
  induction text generalizing before with
  | nil => cases member
  | cons c rest ih =>
    rw [lowerAfter] at member
    rcases List.mem_append.mp member with here | later
    · split at here
      · split at here
        · exact .inr (.inl (List.mem_singleton.mp here))
        · exact .inr (.inr (List.mem_singleton.mp here))
      · exact .inl ⟨c, List.mem_cons_self, here⟩
    · rcases ih (c :: before) later with ⟨c', among, mapped⟩ | sigma
      · exact .inl ⟨c', List.mem_cons_of_mem c among, mapped⟩
      · exact .inr sigma

theorem lowered_of_mem_lowercase (text : List Char) (d : Char) (member : d ∈ lowercase text) :
    Lowered d := by
  rcases mem_lowerAfter [] text d member with ⟨c, _, mapped⟩ | rfl | rfl
  · exact lowered_of_mem_lowerChar c d mapped
  · exact lowered_of_isSettled _ (isSettled_of_unmapped _ (by decide) (by decide +kernel))
  · exact lowered_of_isSettled _ (isSettled_of_unmapped _ (by decide) (by decide +kernel))

theorem lowerAfter_of_lowered (before text : List Char) (lowered : ∀ c ∈ text, Lowered c) :
    lowerAfter before text = text := by
  induction text generalizing before with
  | nil => rfl
  | cons c rest ih =>
    have first : Lowered c := lowered c List.mem_cons_self
    have capital : c ≠ 'Σ' := by
      rintro rfl
      have settled : lowerChar 'Σ' = ['σ'] := by decide +kernel
      rw [Lowered, settled] at first
      cases first
    rw [lowerAfter, if_neg capital, first, ih (c :: before) fun c' member =>
      lowered c' (List.mem_cons_of_mem c member)]
    rfl

theorem lowercase_lowercase (text : List Char) : lowercase (lowercase text) = lowercase text :=
  lowerAfter_of_lowered [] (lowercase text) (lowered_of_mem_lowercase text)

/-- A separator in the lower-case form of a text stands in the text itself. -/
theorem mem_of_separator_mem_lowercase (text : List Char) (d : Char)
    (member : d ∈ lowercase text) (separates : isSeparator d = true) : d ∈ text := by
  rcases mem_lowerAfter [] text d member with ⟨c, among, mapped⟩ | rfl | rfl
  · rw [eq_of_separator_mem_lowerChar c d mapped separates]
    exact among
  · cases separates
  · cases separates

theorem lowercase_ne_nil (text : List Char) (nonempty : text ≠ []) : lowercase text ≠ [] := by
  cases text with
  | nil => exact absurd rfl nonempty
  | cons c rest =>
    intro empty
    have first := (List.append_eq_nil_iff.mp empty).1
    split at first
    · split at first <;> cases first
    · rcases lowerChar_cases c with same | dotted | ⟨image, mapped, _⟩
      · rw [same] at first
        cases first
      · rw [dotted] at first
        cases first
      · rw [mapped] at first
        cases first

end AccountKeeper.Text
