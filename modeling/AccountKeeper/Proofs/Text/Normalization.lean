import AccountKeeper.Text.Normalization

/-!
# What the composed normal form keeps

Composing a text merges a character with marks behind it, so a character of the
text need not be one of its normal form.  An ASCII character that is no part of
any composed character is: `mem_normalize`.  The marks that divide an address are
such characters.
-/

set_option autoImplicit false

namespace AccountKeeper.Text

/-- Characters that divide an address: before a port, behind a password, and in place of a slash. -/
def dividers : List Char := [':', '@', '\\']

theorem CodeMap.mem_ofLines {lines : List (Nat × String)} {entry : Nat × List Char}
    (member : entry ∈ (ofLines lines).entries) :
    ∃ line ∈ lines, line.1 ≤ entry.1 ∧ entry.2 ∈ readLine line.2 := by
  unfold ofLines at member
  rw [List.mem_toArray] at member
  obtain ⟨line, here, among⟩ := List.mem_flatMap.mp member
  obtain ⟨⟨text, i⟩, numbered, rfl⟩ := List.mem_map.mp among
  exact ⟨line, here, Nat.le_add_right line.1 i, List.fst_mem_of_mem_zipIdx numbered⟩

theorem CodeMap.get?_eq_none {table : CodeMap} {c : Char}
    (missing : ∀ entry ∈ table.entries, entry.1 ≠ c.toNat) : table.get? c = none := by
  cases found : table.get? c with
  | none => rfl
  | some text =>
    obtain ⟨entry, here, -⟩ := Option.map_eq_some_iff.mp found
    obtain ⟨low, high⟩ := bounds_of_bisect _ _ _ _ _ _ here
    exact absurd (Nat.le_antisymm low high) (missing entry (mem_of_bisect _ _ _ _ _ _ here))

namespace Normalization

/-! ## The table of composed characters -/

/-- A line of the table starts behind the ASCII characters and composes no divider. -/
def isPlainLine (first : Nat) (line : List Char) : Bool :=
  Nat.ble 0x80 first &&
    ((pieces ' ' line).map fun text => (pieces '+' text).map CodeMap.readCode).all
      (·.all (!dividers.contains ·))

theorem isPlainLine_ofList {first : Nat} {text : List Char}
    (plain : isPlainLine first text = true) :
    isPlainLine (first, String.ofList text).1 (first, String.ofList text).2.toList = true := by
  rw [String.toList_ofList, plain]

/-- The lines of the table are checked one by one, each as a list of characters. -/
theorem composed_plain : ∃ lines, composed = .ofLines lines ∧
    ∀ line ∈ lines, isPlainLine line.1 line.2.toList = true := by
  refine ⟨_, rfl, ?_⟩
  repeat refine List.forall_mem_cons.mpr ⟨isPlainLine_ofList rfl, ?_⟩
  exact nofun

theorem plain_of_mem_composed {entry : Nat × List Char} (member : entry ∈ composed.entries) :
    0x80 ≤ entry.1 ∧ ∀ c ∈ entry.2, c ∉ dividers := by
  obtain ⟨lines, table, plain⟩ := composed_plain
  rw [table] at member
  obtain ⟨line, here, first, among⟩ := CodeMap.mem_ofLines member
  have checked := plain line here
  simp only [isPlainLine, Bool.and_eq_true, Nat.ble_eq, List.all_eq_true] at checked
  refine ⟨Nat.le_trans checked.1 first, fun c inside divides => ?_⟩
  have apart := checked.2 entry.2 among c inside
  rw [List.contains_iff_mem.mpr divides] at apart
  cases apart

/-! ## The three steps -/

/-- An ASCII character that is no part of a composed one. -/
structure Solitary (c : Char) : Prop where
  ascii : c.toNat < 0x80
  apart : ∀ entry ∈ composed.entries, c ∉ entry.2

theorem solitary_of_divides {c : Char} (divides : c ∈ dividers) : Solitary c where
  ascii := by
    have low : ∀ d ∈ dividers, d.toNat < 0x80 := by simp [dividers]
    exact low c divides
  apart entry member inside := (plain_of_mem_composed member).2 c inside divides

variable {c : Char}

theorem partsOf_of_none {table : CodeMap} (noLetters : letters? c = none)
    (noParts : table.get? c = none) (depth : Nat) : partsOf table depth c = [c] := by
  cases depth with
  | zero => rfl
  | succ depth => rw [partsOf, noLetters, noParts]

theorem Solitary.partsOf (solitary : Solitary c) (depth : Nat) :
    partsOf composed depth c = [c] := by
  have low := solitary.ascii
  refine partsOf_of_none (if_neg fun syllable => ?_)
    (CodeMap.get?_eq_none fun entry member => ?_) depth
  · have high : 0xAC00 ≤ c.toNat := syllable.1
    omega
  · have high := (plain_of_mem_composed member).1
    omega

theorem parts_of_keyOf? {table : CodeMap} {text : List Char}
    (found : table.keyOf? text = some c) : ∃ entry ∈ table.entries, entry.2 = text := by
  obtain ⟨entry, here, rfl⟩ := Option.map_eq_some_iff.mp found
  exact ⟨entry, Array.mem_of_find?_eq_some here, by simpa using Array.find?_some here⟩

/-- A solitary character is not composed with another one, whichever of the two comes first. -/
theorem Solitary.compose?_eq_some (solitary : Solitary c) {first second whole : Char}
    (composes : compose? first second = some whole) : c ≠ first ∧ c ≠ second := by
  have low := solitary.ascii
  unfold compose? at composes
  cases syllable : syllable? first second with
  | some letter =>
    have high : 0x1100 ≤ first.toNat ∧ 0x1100 ≤ second.toNat := by
      unfold syllable? at syllable
      dsimp only at syllable
      split at syllable
      · next lead => exact ⟨lead.1, Nat.le_trans (by decide) lead.2.2.1⟩
      · split at syllable
        · next tail =>
          exact ⟨Nat.le_trans (by decide) tail.1,
            Nat.le_trans (by decide) (Nat.le_of_lt tail.2.2.2.1)⟩
        · cases syllable
    constructor
    · rintro rfl
      omega
    · rintro rfl
      omega
  | none =>
    rw [syllable, Option.none_or] at composes
    obtain ⟨entry, member, parts⟩ := parts_of_keyOf? composes
    have outside := solitary.apart entry member
    rw [parts] at outside
    exact ⟨fun same => outside (by simp [same]), fun same => outside (by simp [same])⟩

theorem Solitary.mem_composeFrom (solitary : Solitary c) (base : Char) (passed rest : List Char)
    (member : c = base ∨ c ∈ passed ∨ c ∈ rest) : c ∈ composeFrom base passed rest := by
  fun_induction composeFrom base passed rest with
  | case1 base passed => simpa using member
  | case2 base passed d rest free whole composes ih =>
    have parts := solitary.compose?_eq_some (Option.filter_eq_some_iff.mp composes).1
    refine ih (.inr ?_)
    rcases member with here | here | here
    · exact absurd here parts.1
    · exact .inl here
    · exact .inr ((List.mem_cons.mp here).resolve_left parts.2)
  | case3 base passed d rest free apart starter ih =>
    rcases member with rfl | here | here
    · simp
    · simp [here]
    · have later := ih ((List.mem_cons.mp here).imp id .inr)
      simp [later]
  | case4 base passed d rest free apart mark ih =>
    refine ih ?_
    rcases member with here | here | here
    · exact .inl here
    · exact .inr (.inl (List.mem_cons_of_mem d here))
    · exact .inr ((List.mem_cons.mp here).imp (by simp [·]) id)

theorem Solitary.mem_compose (solitary : Solitary c) {text : List Char} (member : c ∈ text) :
    c ∈ compose text := by
  rw [← List.takeWhile_append_dropWhile (p := fun d => decide (markClass d ≠ 0)) (l := text),
    List.mem_append] at member
  unfold compose
  rw [List.mem_append]
  refine member.imp id fun here => ?_
  cases dropped : text.dropWhile (markClass · ≠ 0) with
  | nil =>
    rw [dropped] at here
    cases here
  | cons base rest =>
    rw [dropped] at here
    exact solitary.mem_composeFrom base [] rest ((List.mem_cons.mp here).imp id .inr)

end Normalization

theorem mem_normalize {c : Char} (solitary : Normalization.Solitary c) {text : List Char}
    (member : c ∈ text) : c ∈ normalize text := by
  unfold normalize
  split
  · exact member
  · refine solitary.mem_compose ((Normalization.order_perm _).mem_iff.mpr ?_)
    exact List.mem_flatMap.mpr ⟨c, member, by rw [solitary.partsOf]; simp⟩

end AccountKeeper.Text
