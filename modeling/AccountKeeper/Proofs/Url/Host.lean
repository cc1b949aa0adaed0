import AccountKeeper.Proofs.Text.Normalization
import AccountKeeper.Url.Host

/-!
# What a host cannot be read from

Reading a host takes percent forms apart, maps characters, composes them and
reads labels of punycode.  No step loses one of the characters that divide an
address, and a label may have none.  Between brackets stands an address of
version 6, which has colons but no other divider.  So a text with a divider is
no host, except for the colons between brackets: `undivided_of_parse`.
-/

set_option autoImplicit false

namespace AccountKeeper

theorem exists_of_mapM {α β : Type} {f : α → Option β} {items : List α} {results : List β}
    (read : items.mapM f = some results) {item : α} (member : item ∈ items) :
    ∃ result ∈ results, f item = some result := by
  induction items generalizing results with
  | nil => cases member
  | cons first rest ih =>
    rw [List.mapM_cons] at read
    obtain ⟨result, own, read⟩ := Option.bind_eq_some_iff.mp read
    obtain ⟨others, later, read⟩ := Option.bind_eq_some_iff.mp read
    cases read
    rcases List.mem_cons.mp member with rfl | among
    · exact ⟨result, List.mem_cons_self, own⟩
    · obtain ⟨found, here, known⟩ := ih later among
      exact ⟨found, List.mem_cons_of_mem result here, known⟩

namespace Text

theorem exists_piece_of_mem {mark c : Char} (other : c ≠ mark) {text : List Char}
    (member : c ∈ text) : ∃ piece ∈ pieces mark text, c ∈ piece := by
  induction text with
  | nil => cases member
  | cons d rest ih =>
    by_cases same : d = mark
    · obtain ⟨piece, here, inside⟩ :=
        ih ((List.mem_cons.mp member).resolve_left fun first => other (first.trans same))
      exact ⟨piece, by simp [pieces, same, here], inside⟩
    · obtain ⟨first, others, split⟩ := List.exists_cons_of_ne_nil (pieces_ne_nil mark rest)
      have whole : pieces mark (d :: rest) = (d :: first) :: others := by
        simp [pieces, same, split]
      rw [whole]
      rcases List.mem_cons.mp member with rfl | later
      · exact ⟨_, List.mem_cons_self, List.mem_cons_self⟩
      · obtain ⟨piece, here, inside⟩ := ih later
        rw [split] at here
        rcases List.mem_cons.mp here with rfl | among
        · exact ⟨_, List.mem_cons_self, List.mem_cons_of_mem d inside⟩
        · exact ⟨piece, List.mem_cons_of_mem _ among, inside⟩

namespace Utf8

theorem eq_of_mem_encodeChar {c d : Char} (ascii : c.toNat < 0x80)
    (member : UInt8.ofNat c.toNat ∈ String.utf8EncodeChar d) : d = c := by
  have value : d.toNat = d.val.toNat := rfl
  have numbers : d.toNat = c.toNat := by
    unfold String.utf8EncodeChar at member
    dsimp only at member
    split at member
    · simp only [List.mem_cons, List.not_mem_nil, or_false, ← UInt8.toNat_inj,
        UInt8.toNat_ofNat'] at member
      omega
    · repeat' split at member
      all_goals
        simp only [List.mem_cons, List.not_mem_nil, or_false, ← UInt8.toNat_inj,
          UInt8.toNat_ofNat'] at member
        omega
  exact Char.ext (UInt32.toNat_inj.mp numbers)

theorem mem_of_fromUTF8? {bytes : List UInt8} {name : String}
    (read : String.fromUTF8? ⟨bytes.toArray⟩ = some name) {c : Char} (ascii : c.toNat < 0x80)
    (member : UInt8.ofNat c.toNat ∈ bytes) : c ∈ name.toList := by
  have same : name.toByteArray = ⟨bytes.toArray⟩ := by
    unfold String.fromUTF8? at read
    split at read
    · cases read
      rfl
    · cases read
  rw [← String.ofList_toList (s := name), String.toByteArray_ofList] at same
  have flat : name.toList.flatMap String.utf8EncodeChar = bytes := by
    unfold List.utf8Encode at same
    simpa using congrArg (fun bytes : ByteArray => bytes.data.toList) same
  rw [← flat] at member
  obtain ⟨d, here, byte⟩ := List.mem_flatMap.mp member
  rw [← eq_of_mem_encodeChar ascii byte]
  exact here

end Utf8

end Text

namespace Url

open Text

variable {c : Char}

/-! ## Dividers -/

/-- What the steps of reading a host know about a divider. -/
structure Divider (c : Char) : Prop where
  divides : c ∈ dividers
  ascii : c.toNat < 0x80
  lower : c.toLower = c
  forbidden : Domain.isForbidden c = true
  noHexDigit : Percent.hexValue? c = none
  noDigit : Punycode.digitValue? c = none
  outside : c ∉ ['%', '.', '-', '[', ']'] ++ Domain.codedLead

theorem Divider.of_divides (divides : c ∈ dividers) : Divider c := by
  rcases List.mem_cons.mp divides with rfl | rest
  · constructor <;> decide
  · rcases List.mem_cons.mp rest with rfl | rest
    · constructor <;> decide
    · rcases List.mem_cons.mp rest with rfl | rest
      · constructor <;> decide
      · cases rest

theorem Divider.mem_decode (divider : Divider c) {text : List Char} (member : c ∈ text) :
    UInt8.ofNat c.toNat ∈ Percent.decode text := by
  have percent : c ≠ '%' := fun same => divider.outside (by simp [same])
  have notDigit {d : Char} {value : Nat} (known : Percent.hexValue? d = some value) : c ≠ d := by
    rintro rfl
    rw [divider.noHexDigit] at known
    cases known
  fun_induction Percent.decode text with
  | case1 => cases member
  | case2 high low rest h l lowValue highValue ih =>
    refine List.mem_cons_of_mem _ (ih ?_)
    simpa [percent, notDigit highValue, notDigit lowValue] using member
  | case3 high low rest plain ih =>
    exact List.mem_cons_of_mem _ (ih ((List.mem_cons.mp member).resolve_left percent))
  | case4 d rest plain ih =>
    rw [List.mem_append]
    refine (List.mem_cons.mp member).imp ?_ ih
    rintro rfl
    have short : c.toNat ≤ 127 := Nat.le_of_lt_succ divider.ascii
    simp [String.utf8EncodeChar, short]

/-! ## Labels -/

namespace Punycode

/-- The digits of a number of steps are digits, so no other character is among them. -/
theorem mem_of_readSteps (noDigit : digitValue? c = none) {bias position weight value : Nat}
    {digits : List Char} {result : Nat × List Char}
    (read : readSteps bias position weight value digits = some result) (member : c ∈ digits) :
    c ∈ result.2 := by
  fun_induction readSteps bias position weight value digits with
  | case1 => cases read
  | case2 => cases read
  | case3 position weight value d rest digit known least small =>
    cases read
    refine (List.mem_cons.mp member).resolve_left ?_
    rintro rfl
    rw [noDigit] at known
    cases known
  | case4 position weight value d rest digit known least large ih =>
    refine ih read ((List.mem_cons.mp member).resolve_left ?_)
    rintro rfl
    rw [noDigit] at known
    cases known

theorem mem_of_insertAll (noDigit : digitValue? c = none) {fuel bias code place : Nat}
    {text digits result : List Char}
    (read : insertAll fuel bias code place text digits = some result)
    (member : c ∈ text ∨ c ∈ digits) : c ∈ result := by
  fun_induction insertAll fuel bias code place text digits with
  | case1 => simpa [← Option.some.inj read] using member
  | case2 => cases read
  | case3 => cases read
  | case4 fuel bias code place text digits nonempty reached rest steps size code' valid next longer
      ih =>
    refine ih read ?_
    rcases member with here | here
    · left
      have parts := List.take_append_drop next text
      rw [← parts, List.mem_append] at here
      simp only [longer, List.mem_append, List.mem_cons]
      exact here.imp id .inr
    · exact .inr (mem_of_readSteps noDigit steps here)
  | case5 => cases read

theorem mem_of_decode (noDigit : digitValue? c = none) (other : c ≠ '-') {form text : List Char}
    (read : decode form = some text) (member : c ∈ form) : c ∈ text := by
  unfold decode at read
  cases split : splitLast '-' form with
  | none =>
    rw [split] at read
    dsimp only at read
    split at read
    · exact mem_of_insertAll noDigit read (.inr member)
    · cases read
  | some halves =>
    obtain ⟨before, after⟩ := halves
    rw [split] at read
    cases before with
    | nil =>
      dsimp only at read
      split at read
      · exact mem_of_insertAll noDigit read (.inr member)
      · cases read
    | cons d before =>
      dsimp only at read
      have whole := ((splitLast_eq_some '-' form (d :: before) after).mp split).1
      rw [whole, List.mem_append, List.mem_cons (b := '-')] at member
      split at read
      · exact mem_of_insertAll noDigit read (member.imp id fun later => later.resolve_left other)
      · cases read

end Punycode

/-! ## Names -/

section Names

open Domain

theorem Divider.not_mem_of_isValidLabel (divider : Divider c) {label : List Char}
    (valid : isValidLabel label = true) : c ∉ label := by
  intro member
  unfold isValidLabel at valid
  have clear : label.any isForbidden = false := by
    simpa using (Bool.and_eq_true_iff.mp valid).2
  rw [List.any_eq_true.mpr ⟨c, member, divider.forbidden⟩] at clear
  cases clear

theorem Divider.not_mem_of_decodeLabel? (divider : Divider c) {form : List Char} {label : Label}
    (read : decodeLabel? form = some label) : c ∉ form := by
  intro member
  unfold decodeLabel? at read
  split at read
  · cases read
  · cases decoded : Punycode.decode form with
    | none =>
      rw [decoded] at read
      cases read
    | some text =>
      rw [decoded] at read
      dsimp only at read
      split at read
      · next sound =>
        have other : c ≠ '-' := fun same => divider.outside (by simp [same])
        have inside := Punycode.mem_of_decode divider.noDigit other decoded member
        exact divider.not_mem_of_isValidLabel sound.2 inside
      · cases read

theorem Divider.not_mem_of_label? (divider : Divider c) {text : List Char} {label : Label}
    (read : label? text = some label) : c ∉ text := by
  intro member
  unfold label? at read
  split at read
  · split at read
    · next coded =>
      obtain ⟨form, rfl⟩ := List.isPrefixOf_iff_prefix.mp coded
      rw [List.drop_left] at read
      refine divider.not_mem_of_decodeLabel? read ((List.mem_append.mp member).resolve_left ?_)
      exact fun lead => divider.outside (List.mem_append_right _ lead)
    · split at read
      · cases read
      · next clear => exact clear (List.any_eq_true.mpr ⟨c, member, divider.forbidden⟩)
  · split at read
    · cases read
    · next sound =>
      have valid : isValidLabel text = true := by
        rw [← Bool.not_eq_false]
        exact fun invalid => sound (.inr (.inr (by simp [invalid])))
      exact divider.not_mem_of_isValidLabel valid member

theorem Divider.mem_of_fold? (divider : Divider c) {name folded : List Char}
    (read : fold? name = some folded) (member : c ∈ name) : c ∈ folded := by
  obtain ⟨texts, mapped, rfl⟩ := Option.map_eq_some_iff.mp read
  obtain ⟨text, here, own⟩ := exists_of_mapM mapped member
  rw [mapChar?, if_pos divider.ascii, divider.lower] at own
  cases own
  refine mem_normalize (Normalization.solitary_of_divides divider.divides) ?_
  exact List.mem_flatten_of_mem here (List.mem_singleton.mpr rfl)

theorem Divider.not_mem_of_ascii? (divider : Divider c) {name ascii : List Char}
    (read : ascii? name = some ascii) : c ∉ name := by
  intro member
  obtain ⟨labels, known, -⟩ := Option.map_eq_some_iff.mp read
  obtain ⟨folded, folds, known⟩ := Option.bind_eq_some_iff.mp known
  obtain ⟨all, labelled, -⟩ := Option.bind_eq_some_iff.mp known
  have other : c ≠ '.' := fun same => divider.outside (by simp [same])
  obtain ⟨piece, here, inside⟩ := exists_piece_of_mem other (divider.mem_of_fold? folds member)
  obtain ⟨label, -, single⟩ := exists_of_mapM labelled here
  exact divider.not_mem_of_label? single inside

end Names

/-! ## Numbers of version 6 -/

namespace Host

theorem not_mem_of_byte? (divider : Divider c) {digits : List Char} {value : Nat}
    (read : byte? digits = some value) : c ∉ digits := by
  intro member
  unfold byte? at read
  split at read
  · cases read
  · split at read
    · next decimal =>
      have known := divider.noHexDigit
      rw [Percent.hexValue?, if_pos (List.all_eq_true.mp decimal c member)] at known
      cases known
    · cases read

theorem not_mem_of_tail4? (divider : Divider c) {text : List Char} {groups : List Nat}
    (read : tail4? text = some groups) : c ∉ text := by
  intro member
  have other : c ≠ '.' := fun same => divider.outside (by simp [same])
  obtain ⟨piece, here, inside⟩ := exists_piece_of_mem other member
  unfold tail4? at read
  split at read
  · next bytes =>
    obtain ⟨value, -, single⟩ := exists_of_mapM bytes here
    exact not_mem_of_byte? divider single inside
  · cases read

theorem mem_of_group? (divider : Divider c) {text rest : List Char} {value : Nat}
    (read : group? text = some (value, rest)) (member : c ∈ text) : c ∈ rest := by
  let isHex (d : Char) : Bool := (Percent.hexValue? d).isSome
  obtain ⟨behind, whole⟩ : (text.take 4).takeWhile isHex <+: text :=
    (List.takeWhile_prefix _).trans (List.take_prefix 4 text)
  have dropped : text.drop ((text.take 4).takeWhile isHex).length = behind := by
    exact (congrArg (List.drop _) whole.symm).trans List.drop_left
  unfold group? at read
  dsimp only at read
  split at read
  · cases read
  · obtain ⟨number, -, same⟩ := Option.map_eq_some_iff.mp read
    cases same
    rw [← whole, List.mem_append] at member
    rw [dropped]
    refine member.resolve_left fun digit => ?_
    have known := List.all_eq_true.mp List.all_takeWhile c digit
    simp [isHex, divider.noHexDigit] at known

/-- An address of version 6 has colons, but no other divider. -/
theorem not_mem_of_readGroups (divider : Divider c) (other : c ≠ ':') {fuel : Nat}
    {groups result : Groups} {text : List Char}
    (read : readGroups fuel groups text = some result) : c ∉ text := by
  fun_induction readGroups fuel groups text with
  | case1 => cases read
  | case2 => exact List.not_mem_nil
  | case3 => cases read
  | case4 => cases read
  | case5 fuel groups room rest once nonempty ih => simpa [other] using ih read
  | case6 fuel groups text nonempty room unread first =>
    rw [unread] at read
    cases read
  | case7 fuel groups text nonempty room value known first =>
    exact fun member => List.not_mem_nil (mem_of_group? divider known member)
  | case8 fuel groups text nonempty room value first known =>
    rw [known] at read
    cases read
  | case9 fuel groups text nonempty room value rest known more first ih =>
    rw [known] at read
    intro member
    have later := mem_of_group? divider known member
    exact ih (by simpa [more] using read) ((List.mem_cons.mp later).resolve_left other)
  | case10 fuel groups text nonempty room value rest known fits first =>
    simp only [known, if_pos fits] at read
    obtain ⟨last, bytes, -⟩ := Option.map_eq_some_iff.mp read
    exact not_mem_of_tail4? divider bytes
  | case11 fuel groups text nonempty room value rest known full first =>
    simp only [known, if_neg full] at read
    cases read
  | case12 fuel groups text nonempty room found noEnd noColon noDot known first =>
    rw [known] at read
    split at read
    · cases read
    · next same => exact (noEnd _ (Option.some.inj same)).elim
    · next same => exact (noColon _ _ (Option.some.inj same)).elim
    · next same => exact (noDot _ _ (Option.some.inj same)).elim
    · cases read

theorem not_mem_of_version6? (divider : Divider c) (other : c ≠ ':') {text : List Char}
    {groups : List Nat} (read : version6? text = some groups) : c ∉ text := by
  unfold version6? at read
  obtain ⟨result, known, -⟩ := Option.bind_eq_some_iff.mp read
  split at known
  · have rest := not_mem_of_readGroups divider other known
    simp [other, rest]
  · cases known
  · exact not_mem_of_readGroups divider other known

/-! ## Hosts -/

theorem last_of_parse {inner : List Char} {host : Host} (read : parse ('[' :: inner) = some host) :
    inner.getLast? = some ']' := by
  by_cases closed : inner.getLast? = some ']'
  · exact closed
  · unfold parse at read
    split at read
    · next same =>
      cases same
      rw [if_neg closed] at read
      cases read
    · next bare => exact (bare inner rfl).elim

/-- A host that can be read has no divider but the colons between brackets. -/
theorem undivided_of_parse {text : List Char} {host : Host} (read : parse text = some host)
    (divides : c ∈ dividers) (bare : c = ':' → text.head? ≠ some '[') : c ∉ text := by
  have divider := Divider.of_divides divides
  unfold parse at read
  split at read
  · next inner =>
    have other : c ≠ ':' := fun same => bare same rfl
    split at read
    · next closed =>
      obtain ⟨groups, known, -⟩ := Option.map_eq_some_iff.mp read
      have inside := not_mem_of_version6? divider other known
      obtain ⟨nonempty, last⟩ := List.getLast?_eq_some_iff.mp closed
      rw [last, List.dropLast_concat] at inside
      have opening : c ≠ '[' := fun same => divider.outside (by simp [same])
      have closing : c ≠ ']' := fun same => divider.outside (by simp [same])
      simp [last, inside, opening, closing]
    · cases read
  · intro member
    cases decoded : String.fromUTF8? ⟨(Percent.decode text).toArray⟩ with
    | none =>
      rw [decoded] at read
      cases read
    | some name =>
      rw [decoded] at read
      dsimp only at read
      cases known : Domain.ascii? name.toList with
      | none =>
        rw [known] at read
        cases read
      | some ascii =>
        have inside := Utf8.mem_of_fromUTF8? decoded divider.ascii (divider.mem_decode member)
        exact divider.not_mem_of_ascii? known inside

end Host

end Url

end AccountKeeper
