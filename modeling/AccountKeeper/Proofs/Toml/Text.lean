import AccountKeeper.Toml.Literal
import AccountKeeper.Toml.Printer

/-!
# Printed texts

Every text is read back from its printed form, in whichever of the four ways it
is quoted, as long as no further quote follows it.
-/

set_option autoImplicit false

namespace AccountKeeper.Toml

open Literal Printer

/-! ## Characters -/

theorem isPlain_of_not_needsEscape (c : Char) (direct : needsEscape c = false)
    (line : c ≠ '\n') : isPlain c = true := by
  by_cases tab : c = '\t'
  · simp [isPlain, tab]
  · simp only [needsEscape, Bool.or_eq_false_iff, Bool.and_eq_false_iff, decide_eq_false_iff_not]
      at direct
    simp only [isPlain, Bool.or_eq_true, Bool.and_eq_true, decide_eq_true_eq]
    have printable : ¬c.toNat < 32 := by
      rcases direct.1 with (small | isTab) | isLine
      · exact small
      · exact absurd tab isTab
      · exact absurd line isLine
    exact .inr ⟨by omega, direct.2⟩

theorem code_of_needsEscape (c : Char) (escape : needsEscape c = true) : c.toNat < 128 := by
  simp only [needsEscape, Bool.or_eq_true, Bool.and_eq_true, decide_eq_true_eq] at escape
  omega

theorem hexValue_fourDigits : ∀ code < 128, (fourDigits code).length = 4 ∧
    ((fourDigits code).mapM hexValue).map (·.foldl (fun value d => value * 16 + d) 0) =
      some code := by
  decide +kernel

theorem readCodePoint_fourDigits (c : Char) (small : c.toNat < 128) (later : List Char) :
    readCodePoint 4 (fourDigits c.toNat ++ later) = some (c, later) := by
  obtain ⟨four, value⟩ := hexValue_fourDigits c.toNat small
  obtain ⟨values, digits, code⟩ := Option.map_eq_some_iff.mp value
  unfold readCodePoint
  rw [List.take_append_of_le_length (by omega), List.drop_append_of_le_length (by omega),
    List.take_of_length_le (by omega), List.drop_of_length_le (by omega)]
  simp only [four, ne_eq, not_true_eq_false, if_false, digits, code, Char.ofNat_toNat,
    List.nil_append]
  rw [if_pos (by omega)]

/-! ## Between double quotes -/

/-- How a character is written between double quotes, after a run of unescaped quotes. -/
inductive EscapedStep (multiline : Bool) (quotes run : Nat) (c : Char) (rest : List Char) :
    Prop where
  | quote (isQuote : c = '"') (room : run < quotes)
      (written : escaped multiline quotes run (c :: rest) =
        '"' :: escaped multiline quotes (run + 1) rest)
  | escape (code : List Char)
      (reads : ∀ later, readEscape (code ++ later) = some (c, later))
      (joins : ∀ later, afterLineJoin (code ++ later) = none)
      (written : escaped multiline quotes run (c :: rest) =
        '\\' :: (code ++ escaped multiline quotes 0 rest))
  | lineEnd (isLineEnd : c = '\n') (several : multiline = true)
      (written : escaped multiline quotes run (c :: rest) =
        '\n' :: escaped multiline quotes 0 rest)
  | plain (direct : isPlain c = true) (noQuote : c ≠ '"') (noSlash : c ≠ '\\')
      (written : escaped multiline quotes run (c :: rest) =
        c :: escaped multiline quotes 0 rest)

theorem escapedStep (multiline : Bool) (quotes run : Nat) (c : Char) (rest : List Char) :
    EscapedStep multiline quotes run c rest := by
  by_cases backspace : c = '\x08'
  · subst backspace
    exact .escape ['b'] (fun _ => rfl) (fun _ => rfl) rfl
  by_cases tab : c = '\t'
  · subst tab
    exact .escape ['t'] (fun _ => rfl) (fun _ => rfl) rfl
  by_cases feed : c = '\x0C'
  · subst feed
    exact .escape ['f'] (fun _ => rfl) (fun _ => rfl) rfl
  by_cases carriage : c = '\r'
  · subst carriage
    exact .escape ['r'] (fun _ => rfl) (fun _ => rfl) rfl
  by_cases slash : c = '\\'
  · subst slash
    exact .escape ['\\'] (fun _ => rfl) (fun _ => rfl) rfl
  by_cases line : c = '\n'
  · subst line
    cases multiline with
    | true => exact .lineEnd rfl rfl rfl
    | false => exact .escape ['n'] (fun _ => rfl) (fun _ => rfl) rfl
  by_cases quote : c = '"'
  · subst quote
    by_cases room : run < quotes
    · exact .quote rfl room (by simp [escaped, room])
    · exact .escape ['"'] (fun _ => rfl) (fun _ => rfl) (by simp [escaped, room])
  cases direct : needsEscape c with
  | true =>
    refine .escape ('u' :: fourDigits c.toNat) ?_ (fun _ => rfl) (by simp [escaped, *])
    exact readCodePoint_fourDigits c (code_of_needsEscape c direct)
  | false =>
    exact .plain (isPlain_of_not_needsEscape c direct line) quote slash (by simp [escaped, *])

theorem readBasic_escaped (body rest : List Char) (run fuel : Nat) (enough : body.length < fuel) :
    readBasic fuel (escaped false 0 run body ++ '"' :: rest) = some (body, rest) := by
  induction body generalizing run fuel with
  | nil =>
    obtain ⟨fuel, rfl⟩ := Nat.exists_eq_add_one.mpr (Nat.zero_lt_of_lt enough)
    rfl
  | cons c body ih =>
    obtain ⟨fuel, rfl⟩ := Nat.exists_eq_add_one.mpr (Nat.zero_lt_of_lt enough)
    have later : body.length < fuel := by simpa using enough
    cases escapedStep false 0 run c body with
    | quote isQuote room written => omega
    | escape code reads joins written =>
      rw [written]
      simp only [readBasic, List.cons_append, List.append_assoc, reads, ih 0 fuel later]
      rfl
    | lineEnd isLineEnd several written => cases several
    | plain direct noQuote noSlash written =>
      rw [written, List.cons_append]
      unfold readBasic
      simp [direct, ih 0 fuel later]

/-! ## Runs of quotes -/

def lead (mark : Char) (text : List Char) : Nat :=
  (text.takeWhile (· = mark)).length

theorem lead_mark (mark : Char) (text : List Char) :
    lead mark (mark :: text) = lead mark text + 1 := by
  simp [lead]

theorem lead_other (mark c : Char) (text : List Char) (other : c ≠ mark) :
    lead mark (c :: text) = 0 := by
  simp [lead, other]

/-- Behind a text there are its own marks, or it is nothing but marks and the later ones follow. -/
theorem lead_append (mark : Char) (body later : List Char) :
    lead mark (body ++ later) = lead mark body ∨
      ∃ count, body = List.replicate count mark ∧
        lead mark (body ++ later) = count + lead mark later := by
  induction body with
  | nil => exact .inr ⟨0, rfl, by simp⟩
  | cons c body ih =>
    by_cases same : c = mark
    · subst same
      rw [List.cons_append, lead_mark, lead_mark]
      rcases ih with shorter | ⟨count, whole, longer⟩
      · exact .inl (by rw [shorter])
      · refine .inr ⟨count + 1, by rw [whole, List.replicate_succ], ?_⟩
        rw [longer]
        omega
    · refine .inl ?_
      rw [List.cons_append, lead_other mark c _ same, lead_other mark c _ same]

theorem lead_closing (mark : Char) (rest : List Char) (ends : lead mark rest = 0) :
    lead mark (mark :: mark :: mark :: rest) = 3 := by
  simp [lead_mark, ends]

/-- One step of the search for the longest run: the longest so far, and the current one. -/
def countRun (mark : Char) (counts : Nat × Nat) (c : Char) : Nat × Nat :=
  if c = mark then (max counts.1 (counts.2 + 1), counts.2 + 1) else (counts.1, 0)

theorem longestRun_eq (mark : Char) (text : List Char) :
    longestRun mark text = (text.foldl (countRun mark) (0, 0)).1 := rfl

theorem le_countRun (mark : Char) (text : List Char) (counts : Nat × Nat) :
    counts.1 ≤ (text.foldl (countRun mark) counts).1 ∧
      (lead mark text = 0 ∨
        counts.2 + lead mark text ≤ (text.foldl (countRun mark) counts).1) := by
  induction text generalizing counts with
  | nil => exact ⟨Nat.le_refl _, .inl rfl⟩
  | cons c text ih =>
    obtain ⟨grows, run⟩ := ih (countRun mark counts c)
    rw [List.foldl_cons]
    by_cases same : c = mark
    · rw [countRun, if_pos same] at grows run ⊢
      rw [same, lead_mark]
      dsimp only at grows run
      refine ⟨by omega, .inr ?_⟩
      rcases run with none | longer <;> omega
    · rw [countRun, if_neg same] at grows ⊢
      exact ⟨grows, .inl (lead_other mark c text same)⟩

theorem lead_le_longestRun (mark : Char) (before text : List Char) :
    lead mark text ≤ longestRun mark (before ++ text) := by
  rw [longestRun_eq, List.foldl_append]
  obtain ⟨_, none | longer⟩ :=
    le_countRun mark text (before.foldl (countRun mark) (0, 0))
  · rw [none]
    exact Nat.zero_le _
  · omega

theorem notMem_of_longestRun (mark : Char) (text : List Char) (none : longestRun mark text = 0) :
    mark ∉ text := by
  intro member
  obtain ⟨before, later, split⟩ := List.append_of_mem member
  have run := lead_le_longestRun mark before (mark :: later)
  rw [← split, none, lead_mark] at run
  omega

/-! ## Between triple quotes -/

section

variable (quote : Char) (escapes : Bool) (fuel : Nat)

theorem lead_replicate (count : Nat) (later : List Char) :
    lead quote (List.replicate count quote ++ later) = count + lead quote later := by
  induction count with
  | zero => simp
  | succ count ih =>
    rw [List.replicate_succ, List.cons_append, lead_mark, ih]
    omega

theorem readMultiline_closing (count : Nat) (rest : List Char) (few : count ≤ 2)
    (ends : lead quote rest = 0) :
    readMultiline quote escapes (fuel + 1)
        (List.replicate count quote ++ quote :: quote :: quote :: rest) =
      some (List.replicate count quote, rest) := by
  have run : lead quote (List.replicate count quote ++ quote :: quote :: quote :: rest) =
      count + 3 := by
    rw [lead_replicate, lead_closing quote rest ends]
  have behind : (List.replicate count quote ++ quote :: quote :: quote :: rest).drop (count + 3) =
      rest := by
    rw [← List.drop_drop, List.drop_left' (by simp)]
    rfl
  unfold lead at run
  unfold readMultiline
  simp only [run]
  rw [if_pos (by omega), if_pos (by omega), behind, Nat.add_sub_cancel]

theorem afterLineEnd_plain (c : Char) (text : List Char) (direct : isPlain c = true) :
    afterLineEnd (c :: text) = none := by
  unfold afterLineEnd
  split
  · rename_i isLineEnd
    cases isLineEnd
    simp [isPlain] at direct
  · rename_i isLineEnd
    cases isLineEnd
    simp [isPlain] at direct
  · rfl

theorem readMultiline_plain (c : Char) (text : List Char) (few : lead quote (c :: text) < 3)
    (direct : isPlain c = true) (noSlash : c ≠ '\\') :
    readMultiline quote escapes (fuel + 1) (c :: text) =
      (readMultiline quote escapes fuel text).map fun (body, rest) => (c :: body, rest) := by
  have short : ¬3 ≤ ((c :: text).takeWhile (· = quote)).length := Nat.not_le.mpr few
  rw [readMultiline]
  · simp only [if_neg short, afterLineEnd_plain c text direct, direct, if_true]
  · exact noSlash

theorem readMultiline_lineEnd (text : List Char) (other : '\n' ≠ quote) :
    readMultiline quote escapes (fuel + 1) ('\n' :: text) =
      (readMultiline quote escapes fuel text).map fun (body, rest) => ('\n' :: body, rest) := by
  have short : ¬3 ≤ (('\n' :: text).takeWhile (· = quote)).length := by simp [other]
  rw [readMultiline]
  · simp only [if_neg short]
    rfl
  · simp

theorem readMultiline_slash (text : List Char) (other : '\\' ≠ quote) :
    readMultiline quote false (fuel + 1) ('\\' :: text) =
      (readMultiline quote false fuel text).map fun (body, rest) => ('\\' :: body, rest) := by
  have short : ¬3 ≤ (('\\' :: text).takeWhile (· = quote)).length := by simp [other]
  rw [readMultiline]
  simp only [if_neg short]
  rfl

theorem readMultiline_escape (c : Char) (code later : List Char) (other : '\\' ≠ quote)
    (reads : readEscape (code ++ later) = some (c, later))
    (joins : afterLineJoin (code ++ later) = none) :
    readMultiline quote true (fuel + 1) ('\\' :: (code ++ later)) =
      (readMultiline quote true fuel later).map fun (body, rest) => (c :: body, rest) := by
  have short : ¬3 ≤ (('\\' :: (code ++ later)).takeWhile (· = quote)).length := by simp [other]
  rw [readMultiline]
  simp only [if_neg short, if_true, joins, reads]

end

theorem readMultiline_literal (body rest : List Char) (fuel : Nat) (enough : body.length < fuel)
    (direct : ∀ c ∈ body, needsEscape c = false)
    (runs : ∀ before later, body = before ++ later → lead '\'' later ≤ 2)
    (ends : lead '\'' rest = 0) :
    readMultiline '\'' false fuel (body ++ '\'' :: '\'' :: '\'' :: rest) = some (body, rest) := by
  induction body generalizing fuel with
  | nil =>
    obtain ⟨fuel, rfl⟩ := Nat.exists_eq_add_one.mpr (Nat.zero_lt_of_lt enough)
    exact readMultiline_closing '\'' false fuel 0 rest (by omega) ends
  | cons c body ih =>
    obtain ⟨fuel, rfl⟩ := Nat.exists_eq_add_one.mpr (Nat.zero_lt_of_lt enough)
    have continued := ih fuel (by simpa using enough)
      (fun c' member => direct c' (List.mem_cons_of_mem c member))
      (fun before later split => runs (c :: before) later (by rw [split]; rfl))
    have few : lead '\'' (c :: body) ≤ 2 := runs [] _ rfl
    rcases lead_append '\'' (c :: body) ('\'' :: '\'' :: '\'' :: rest) with
      own | ⟨count, whole, _⟩
    · have few : lead '\'' (c :: (body ++ '\'' :: '\'' :: '\'' :: rest)) < 3 := by
        rw [← List.cons_append, own]
        omega
      by_cases slash : c = '\\'
      · rw [slash, List.cons_append, readMultiline_slash _ _ _ (by decide), continued]
        rfl
      by_cases line : c = '\n'
      · rw [line, List.cons_append, readMultiline_lineEnd _ _ _ _ (by decide), continued]
        rfl
      have plain := isPlain_of_not_needsEscape c (direct c (by simp)) line
      rw [List.cons_append, readMultiline_plain _ _ _ _ _ few plain slash, continued]
      rfl
    · rw [whole] at few ⊢
      have small : count ≤ 2 := by simpa [lead] using few
      exact readMultiline_closing '\'' false fuel count rest small ends

/-- Between triple double quotes at most two quotes stand together. -/
theorem lead_escaped (body : List Char) (run : Nat) (few : run ≤ 2) :
    run + lead '"' (escaped true 2 run body) ≤ 2 := by
  induction body generalizing run with
  | nil => simpa [escaped, lead] using few
  | cons c body ih =>
    cases escapedStep true 2 run c body with
    | quote isQuote room written =>
      rw [written, lead_mark]
      have later := ih (run + 1) (by omega)
      omega
    | escape code reads joins written =>
      rw [written, lead_other _ _ _ (by decide)]
      exact few
    | lineEnd isLineEnd several written =>
      rw [written, lead_other _ _ _ (by decide)]
      exact few
    | plain direct noQuote noSlash written =>
      rw [written, lead_other _ _ _ noQuote]
      exact few

theorem escaped_eq_quotes (body : List Char) (run count : Nat)
    (quotes : escaped true 2 run body = List.replicate count '"') :
    body = List.replicate count '"' := by
  induction body generalizing run count with
  | nil =>
    cases count with
    | zero => rfl
    | succ count => simp [escaped] at quotes
  | cons c body ih =>
    cases count with
    | zero => cases escapedStep true 2 run c body <;> simp_all
    | succ count =>
      rw [List.replicate_succ] at quotes ⊢
      cases escapedStep true 2 run c body with
      | quote isQuote room written =>
        rw [written] at quotes
        rw [isQuote, ih (run + 1) count (List.cons.inj quotes).2]
      | escape code reads joins written =>
        rw [written] at quotes
        simp at quotes
      | lineEnd isLineEnd several written =>
        rw [written] at quotes
        simp at quotes
      | plain direct noQuote noSlash written =>
        rw [written] at quotes
        exact absurd (List.cons.inj quotes).1 noQuote

theorem readMultiline_escaped (body rest : List Char) (run fuel : Nat)
    (enough : body.length < fuel) (few : run ≤ 2) (ends : lead '"' rest = 0) :
    readMultiline '"' true fuel (escaped true 2 run body ++ '"' :: '"' :: '"' :: rest) =
      some (body, rest) := by
  induction body generalizing run fuel with
  | nil =>
    obtain ⟨fuel, rfl⟩ := Nat.exists_eq_add_one.mpr (Nat.zero_lt_of_lt enough)
    exact readMultiline_closing '"' true fuel 0 rest (by omega) ends
  | cons c body ih =>
    obtain ⟨fuel, rfl⟩ := Nat.exists_eq_add_one.mpr (Nat.zero_lt_of_lt enough)
    have later : body.length < fuel := by simpa using enough
    have together := lead_escaped (c :: body) run few
    rcases lead_append '"' (escaped true 2 run (c :: body)) ('"' :: '"' :: '"' :: rest) with
      own | ⟨count, whole, _⟩
    · cases escapedStep true 2 run c body with
      | quote isQuote room written =>
        have short : lead '"' ('"' ::
            (escaped true 2 (run + 1) body ++ '"' :: '"' :: '"' :: rest)) < 3 := by
          rw [← List.cons_append, ← written, own]
          omega
        rw [written, List.cons_append, readMultiline_plain _ _ _ _ _ short rfl (by decide),
          ih (run + 1) fuel later room, isQuote]
        rfl
      | escape code reads joins written =>
        rw [written, List.cons_append, List.append_assoc,
          readMultiline_escape _ _ c _ _ (by decide) (reads _) (joins _),
          ih 0 fuel later (by omega)]
        rfl
      | lineEnd isLineEnd several written =>
        rw [written, List.cons_append, readMultiline_lineEnd _ _ _ _ (by decide),
          ih 0 fuel later (by omega), isLineEnd]
        rfl
      | plain direct noQuote noSlash written =>
        have short : lead '"' (c :: (escaped true 2 0 body ++ '"' :: '"' :: '"' :: rest)) < 3 := by
          rw [lead_other _ _ _ noQuote]
          omega
        rw [written, List.cons_append, readMultiline_plain _ _ _ _ _ short direct noSlash,
          ih 0 fuel later (by omega)]
        rfl
    · have all := escaped_eq_quotes (c :: body) run count whole
      rw [whole] at together ⊢
      have small : count ≤ 2 := by
        have alone := lead_replicate '"' count []
        simp [lead] at alone together
        omega
      rw [all]
      exact readMultiline_closing '"' true fuel count rest small ends

/-! ## Whole texts -/

theorem readLiteral_plain (body rest : List Char) (direct : ∀ c ∈ body, isPlain c = true)
    (noQuote : '\'' ∉ body) : readLiteral (body ++ '\'' :: rest) = some (body, rest) := by
  induction body with
  | nil => rfl
  | cons c body ih =>
    have other : c ≠ '\'' := by
      rintro rfl
      exact noQuote (by simp)
    have continued := ih (fun c' member => direct c' (List.mem_cons_of_mem c member))
      (fun member => noQuote (List.mem_cons_of_mem c member))
    rw [List.cons_append, readLiteral]
    · rw [direct c (by simp), continued]
      rfl
    · exact other

theorem length_le_escaped (multiline : Bool) (quotes run : Nat) (body : List Char) :
    body.length ≤ (escaped multiline quotes run body).length := by
  induction body generalizing run with
  | nil => exact Nat.le_refl _
  | cons c body ih =>
    cases escapedStep multiline quotes run c body with
    | quote isQuote room written =>
      rw [written]
      simpa using ih (run + 1)
    | escape code reads joins written =>
      have shorter := ih 0
      rw [written, List.length_cons, List.length_cons, List.length_append]
      omega
    | lineEnd isLineEnd several written =>
      rw [written]
      simpa using ih 0
    | plain direct noQuote noSlash written =>
      rw [written]
      simpa using ih 0

theorem readText_basic (body rest : List Char) (ends : lead '"' rest = 0) :
    readText ('"' :: (escaped false 0 0 body ++ '"' :: rest)) = some (body, rest) := by
  have enough := length_le_escaped false 0 0 body
  rw [readText]
  · exact readBasic_escaped body rest 0 _ (by rw [List.length_append]; omega)
  · intro later triple
    cases body with
    | nil =>
      rw [(List.cons.inj triple).2, lead_mark] at ends
      omega
    | cons c body =>
      cases escapedStep false 0 0 c body with
      | quote isQuote room written => omega
      | escape code reads joins written => simp [written] at triple
      | lineEnd isLineEnd several written => cases several
      | plain direct noQuote noSlash written =>
        rw [written] at triple
        exact noQuote (List.cons.inj triple).1

theorem readText_literal (body rest : List Char) (direct : ∀ c ∈ body, isPlain c = true)
    (noQuote : '\'' ∉ body) (ends : lead '\'' rest = 0) :
    readText ('\'' :: (body ++ '\'' :: rest)) = some (body, rest) := by
  rw [readText]
  · exact readLiteral_plain body rest direct noQuote
  · intro later triple
    cases body with
    | nil =>
      rw [(List.cons.inj triple).2, lead_mark] at ends
      omega
    | cons c body =>
      rw [(List.cons.inj triple).1] at noQuote
      exact noQuote (by simp)

theorem dropFirstLineEnd_opening (body printed : List Char)
    (starts : '\n' ∉ body → afterLineEnd printed = none) :
    dropFirstLineEnd ((if body.contains '\n' then ['\n'] else []) ++ printed) = printed := by
  by_cases line : '\n' ∈ body
  · simp [line]
    rfl
  · have first : afterLineEnd printed = none := starts line
    simp [line, dropFirstLineEnd, first]

theorem readText_multilineBasic (body rest : List Char) (ends : lead '"' rest = 0) :
    readText ('"' :: '"' :: '"' :: ((if body.contains '\n' then ['\n'] else []) ++
      (escaped true 2 0 body ++ '"' :: '"' :: '"' :: rest))) = some (body, rest) := by
  have enough := length_le_escaped true 2 0 body
  have opened := dropFirstLineEnd_opening body (escaped true 2 0 body ++ '"' :: '"' :: '"' :: rest)
  rw [readText, opened]
  · refine readMultiline_escaped body rest 0 _ ?_ (by omega) ends
    rw [List.length_append, List.length_append]
    omega
  · intro oneLine
    cases body with
    | nil => rfl
    | cons c body =>
      cases escapedStep true 2 0 c body with
      | quote isQuote room written => rw [written]; rfl
      | escape code reads joins written => rw [written]; rfl
      | lineEnd isLineEnd several written => exact absurd (by simp [isLineEnd]) oneLine
      | plain direct noQuote noSlash written =>
        rw [written, List.cons_append]
        exact afterLineEnd_plain c _ direct

theorem readText_multilineLiteral (body rest : List Char)
    (direct : ∀ c ∈ body, needsEscape c = false) (runs : longestRun '\'' body ≤ 2)
    (ends : lead '\'' rest = 0) :
    readText ('\'' :: '\'' :: '\'' :: ((if body.contains '\n' then ['\n'] else []) ++
      (body ++ '\'' :: '\'' :: '\'' :: rest))) = some (body, rest) := by
  have opened := dropFirstLineEnd_opening body (body ++ '\'' :: '\'' :: '\'' :: rest)
  rw [readText, opened]
  · refine readMultiline_literal body rest _ ?_ direct ?_ ends
    · rw [List.length_append, List.length_append]
      omega
    · intro before later split
      have short := lead_le_longestRun '\'' before later
      rw [← split] at short
      omega
  · intro oneLine
    cases body with
    | nil => rfl
    | cons c body =>
      have other : c ≠ '\n' := by
        rintro rfl
        exact oneLine (by simp)
      exact afterLineEnd_plain c _
        (isPlain_of_not_needsEscape c (direct c (by simp)) other)

theorem quotation_literal (text : List Char) (chosen : quotation text = .literal) :
    (∀ c ∈ text, needsEscape c = false) ∧ '\n' ∉ text ∧ longestRun '\'' text = 0 := by
  unfold quotation at chosen
  dsimp only at chosen
  split at chosen
  · cases chosen
  split at chosen
  · rename_i literal
    simpa [and_assoc, and_left_comm, and_comm] using literal
  split at chosen
  · cases chosen
  split at chosen
  · cases chosen
  split at chosen <;> cases chosen

theorem quotation_multilineLiteral (text : List Char)
    (chosen : quotation text = .multilineLiteral) :
    (∀ c ∈ text, needsEscape c = false) ∧ longestRun '\'' text ≤ 2 := by
  unfold quotation at chosen
  dsimp only at chosen
  split at chosen
  · cases chosen
  split at chosen
  · cases chosen
  split at chosen
  · cases chosen
  split at chosen
  · rename_i literal
    simpa using literal
  split at chosen <;> cases chosen

theorem readText_text (value : String) (rest : List Char) (double : lead '"' rest = 0)
    (single : lead '\'' rest = 0) :
    readText ((Printer.text value).toList ++ rest) = some (value.toList, rest) := by
  unfold Printer.text
  rw [String.toList_ofList]
  cases quoted : quotation value.toList with
  | basic =>
    have read := readText_basic value.toList rest double
    simpa using read
  | literal =>
    obtain ⟨direct, oneLine, noQuote⟩ := quotation_literal value.toList quoted
    have plain : ∀ c ∈ value.toList, isPlain c = true := by
      intro c member
      refine isPlain_of_not_needsEscape c (direct c member) ?_
      rintro rfl
      exact oneLine member
    have read := readText_literal value.toList rest plain
      (notMem_of_longestRun '\'' value.toList noQuote) single
    simpa using read
  | multilineBasic =>
    have read := readText_multilineBasic value.toList rest double
    simpa using read
  | multilineLiteral =>
    obtain ⟨direct, runs⟩ := quotation_multilineLiteral value.toList quoted
    have read := readText_multilineLiteral value.toList rest direct runs single
    simpa using read

end AccountKeeper.Toml
