import AccountKeeper.Proofs.Toml.Lines

/-!
# Natural numbers in documents

A natural number is printed in decimal digits without leading zeros.  Where a
line ends behind them, the reader of scalars takes them for no date or time, no
number of another base and no fraction, and reads the same number back
(`legible_natural`).
-/

set_option autoImplicit false

namespace AccountKeeper.Toml

theorem head_toDigits (n : Nat) (positive : 0 < n) :
    ∃ d digits, Nat.toDigits 10 n = d :: digits ∧ d ≠ '0' := by
  induction n using Nat.strongRecOn with
  | _ n ih =>
    rcases Nat.lt_or_ge n 10 with small | large
    · refine ⟨n.digitChar, [], Nat.toDigits_of_lt_base small, fun isZero => ?_⟩
      exact absurd (Nat.digitChar_eq_zero.mp isZero) (by omega)
    · obtain ⟨d, digits, front, notZero⟩ := ih (n / 10) (by omega) (by omega)
      refine ⟨d, digits ++ [(n % 10).digitChar], ?_, notZero⟩
      rw [Nat.toDigits_of_base_le (by decide) large, front, List.cons_append]

namespace Literal

theorem ne_of_isDigit {d mark : Char} (digit : d.isDigit = true) (other : mark.isDigit = false) :
    d ≠ mark := by
  rintro rfl
  rw [digit] at other
  cases other

theorem decimal_toDigits (n : Nat) : ∀ d ∈ Nat.toDigits 10 n, d.isDigit = true :=
  fun _ member => Nat.isDigit_of_mem_toDigits (by decide) (by decide) member

theorem decimalValue_toDigits (n : Nat) : decimalValue (Nat.toDigits 10 n) = n := by
  have value : Nat.ofDigitChars 10 (Nat.toDigits 10 n) 0 = n :=
    Nat.ofDigitChars_toDigits (by decide) (by decide)
  rw [Nat.ofDigitChars_eq_foldl] at value
  simpa [decimalValue, Nat.mul_comm] using value

/-! ### A line that ends in digits -/

variable {digits : List Char}

theorem drop_line (count : Nat) (rest : List Char) (decimal : ∀ d ∈ digits, d.isDigit = true)
    (taken : ((digits ++ '\n' :: rest).take count).all Char.isDigit = true)
    (full : ((digits ++ '\n' :: rest).take count).length = count) :
    ∃ c later, (digits ++ '\n' :: rest).drop count = c :: later ∧
      (c.isDigit = true ∨ c = '\n') := by
  induction digits generalizing count with
  | nil =>
    cases count with
    | zero => exact ⟨'\n', rest, rfl, .inr rfl⟩
    | succ count => simp [Char.isDigit] at taken
  | cons d digits ih =>
    cases count with
    | zero => exact ⟨d, digits ++ '\n' :: rest, rfl, .inl (decimal d (by simp))⟩
    | succ count =>
      exact ih count (fun d' member => decimal d' (List.mem_cons_of_mem d member))
        (by simpa using fun d' member => List.all_eq_true.mp taken d' (by simpa using .inr member))
        (by simpa using full)

theorem readDigits_line {count value : Nat} {rest later : List Char}
    (decimal : ∀ d ∈ digits, d.isDigit = true)
    (read : Datetime.readDigits count (digits ++ '\n' :: rest) = some (value, later)) :
    ∃ c after, later = c :: after ∧ (c.isDigit = true ∨ c = '\n') := by
  unfold Datetime.readDigits at read
  dsimp only at read
  split at read
  · rename_i taken
    cases read
    exact drop_line count rest decimal taken.2 taken.1
  · cases read

/-- Neither a date nor a time begins with nothing but digits. -/
theorem attempt_line (rest : List Char) (decimal : ∀ d ∈ digits, d.isDigit = true) :
    Datetime.attempt (digits ++ '\n' :: rest) = .absent := by
  have noTime : Datetime.attemptTime (digits ++ '\n' :: rest) = .absent := by
    unfold Datetime.attemptTime Datetime.readBetween
    cases read : Datetime.readDigits 2 (digits ++ '\n' :: rest) with
    | none => rfl
    | some found =>
      obtain ⟨hour, later⟩ := found
      obtain ⟨c, after, rfl, next⟩ := readDigits_line decimal read
      have noColon : c ≠ ':' := by
        rintro rfl
        rcases next with digit | line
        · cases digit
        · cases line
      dsimp only
      split
      · rename_i isColon
        split at isColon
        · cases isColon
          exact absurd rfl noColon
        · cases isColon
      · rfl
  unfold Datetime.attempt
  rw [noTime]
  split
  · rename_i read
    obtain ⟨c, after, same, next⟩ := readDigits_line decimal read
    cases same
    rcases next with digit | line
    · cases digit
    · cases line
  · rfl

theorem readDigitRun_line (fuel : Nat) (rest : List Char) (decimal : ∀ d ∈ digits, d.isDigit = true)
    (nonempty : digits ≠ []) (enough : digits.length < fuel) :
    readDigitRun Char.isDigit fuel (digits ++ '\n' :: rest) = some (digits, '\n' :: rest) := by
  induction digits generalizing fuel with
  | nil => exact absurd rfl nonempty
  | cons d digits ih =>
    obtain ⟨fuel, rfl⟩ := Nat.exists_eq_add_one.mpr (Nat.zero_lt_of_lt enough)
    have digit := decimal d (by simp)
    cases digits with
    | nil =>
      change (if d.isDigit = true then _ else _) = _
      rw [if_pos digit]
      rfl
    | cons next digits =>
      have nextDigit := decimal next (by simp)
      have later := ih fuel (fun d' member => decimal d' (List.mem_cons_of_mem d member))
        (by simp) (by simpa using enough)
      rw [List.cons_append] at later ⊢
      rw [List.cons_append, readDigitRun, if_pos digit, if_pos nextDigit, later]
      · rfl
      · exact ne_of_isDigit nextDigit rfl

theorem readSign_line (rest : List Char) (decimal : ∀ d ∈ digits, d.isDigit = true)
    (nonempty : digits ≠ []) :
    readSign (digits ++ '\n' :: rest) = (false, digits ++ '\n' :: rest) := by
  obtain ⟨d, later, rfl⟩ := List.exists_cons_of_ne_nil nonempty
  have digit := decimal d (by simp)
  rw [List.cons_append, readSign]
  · exact fun _ isMinus => ne_of_isDigit digit rfl (List.cons.inj isMinus).1
  · exact fun _ isPlus => ne_of_isDigit digit rfl (List.cons.inj isPlus).1

theorem readSpecial_line (rest : List Char) (decimal : ∀ d ∈ digits, d.isDigit = true)
    (nonempty : digits ≠ []) : readSpecial (digits ++ '\n' :: rest) = none := by
  unfold readSpecial
  rw [readSign_line rest decimal nonempty]
  obtain ⟨d, later, rfl⟩ := List.exists_cons_of_ne_nil nonempty
  have digit := decimal d (by simp)
  dsimp only
  split
  · rename_i infinite
    exact absurd (List.cons.inj infinite).1 (ne_of_isDigit digit rfl)
  · rename_i notNumber
    exact absurd (List.cons.inj notNumber).1 (ne_of_isDigit digit rfl)
  · rfl

/-- What stands behind the first digit is a digit or the end of the line. -/
theorem second_of_line {rest later : List Char} {first second : Char}
    (decimal : ∀ d ∈ digits, d.isDigit = true) (nonempty : digits ≠ [])
    (line : digits ++ '\n' :: rest = first :: second :: later) :
    second.isDigit = true ∨ second = '\n' := by
  obtain ⟨d, others, rfl⟩ := List.exists_cons_of_ne_nil nonempty
  cases others with
  | nil =>
    cases line
    exact .inr rfl
  | cons next others =>
    cases line
    exact .inl (decimal second (by simp))

/-! ### Reading a number -/

theorem readDecimalDigits_toDigits (n : Nat) (rest : List Char) :
    readDecimalDigits (Nat.toDigits 10 n ++ '\n' :: rest) =
      some (Nat.toDigits 10 n, '\n' :: rest) := by
  rcases Nat.eq_zero_or_pos n with rfl | positive
  · rfl
  · have run := readDigitRun_line ((Nat.toDigits 10 n ++ '\n' :: rest).length + 1) rest
      (decimal_toDigits n) Nat.toDigits_ne_nil (by rw [List.length_append]; omega)
    obtain ⟨d, digits, starts, notZero⟩ := head_toDigits n positive
    rw [starts, List.cons_append] at run ⊢
    rw [readDecimalDigits]
    · exact run
    · exact fun later isZero => notZero (List.cons.inj isZero).1

theorem readDecimal_toDigits (n : Nat) (fits : inRange n = true) (rest : List Char) :
    readDecimal (Nat.toDigits 10 n ++ '\n' :: rest) = some (.integer n, '\n' :: rest) := by
  have noFraction : readFraction ('\n' :: rest) = some ([], '\n' :: rest) := rfl
  have noExponent : readExponent ('\n' :: rest) = some (none, '\n' :: rest) := rfl
  unfold readDecimal
  rw [readSign_line rest (decimal_toDigits n) Nat.toDigits_ne_nil]
  dsimp only
  rw [readDecimalDigits_toDigits, Option.bind_eq_bind, Option.bind_some]
  dsimp only
  rw [noFraction, Option.bind_eq_bind, Option.bind_some]
  dsimp only
  rw [noExponent, Option.bind_some, if_pos ⟨rfl, rfl⟩, decimalValue_toDigits]
  exact if_pos fits

theorem readNumber_toDigits (n : Nat) (fits : inRange n = true) (rest : List Char) :
    readNumber (Nat.toDigits 10 n ++ '\n' :: rest) = some (.integer n, '\n' :: rest) := by
  have decimal := decimal_toDigits n
  have nonempty : Nat.toDigits 10 n ≠ [] := Nat.toDigits_ne_nil
  unfold readNumber
  rw [attempt_line rest decimal]
  dsimp only
  split
  · rename_i hexadecimal
    rcases second_of_line decimal nonempty hexadecimal with digit | line
    · cases digit
    · cases line
  · rename_i octal
    rcases second_of_line decimal nonempty octal with digit | line
    · cases digit
    · cases line
  · rename_i binary
    rcases second_of_line decimal nonempty binary with digit | line
    · cases digit
    · cases line
  · rw [readSpecial_line rest decimal nonempty]
    exact readDecimal_toDigits n fits rest

theorem readScalar_toDigits (n : Nat) (fits : inRange n = true) (rest : List Char) :
    readScalar (Nat.toDigits 10 n ++ '\n' :: rest) = some (.integer n, '\n' :: rest) := by
  have number := readNumber_toDigits n fits rest
  obtain ⟨d, digits, starts⟩ := List.exists_cons_of_ne_nil (Nat.toDigits_ne_nil (b := 10) (n := n))
  have digit := decimal_toDigits n d (by simp [starts])
  rw [starts, List.cons_append] at number ⊢
  have noQuote : ¬(d = '"' ∨ d = '\'') := by
    rintro (rfl | rfl) <;> cases digit
  unfold readScalar
  dsimp only
  rw [if_neg noQuote, if_pos (.inr (.inr digit))]
  exact number

end Literal

theorem legible_natural (n : Nat) (fits : Literal.inRange n = true) : Legible (.integer n) where
  starts := by
    obtain ⟨d, digits, starts⟩ :=
      List.exists_cons_of_ne_nil (Nat.toDigits_ne_nil (b := 10) (n := n))
    have digit := Literal.decimal_toDigits n d (by simp [starts])
    have noSpace : d ≠ ' ' := Literal.ne_of_isDigit digit rfl
    have noTab : d ≠ '\t' := Literal.ne_of_isDigit digit rfl
    have printed : (Printer.scalar (.integer n)).toList = Nat.toDigits 10 n := Nat.toList_repr
    refine ⟨d, digits, printed.trans starts, ?_, Literal.ne_of_isDigit digit rfl,
      Literal.ne_of_isDigit digit rfl⟩
    simp [Literal.isGap, noSpace, noTab]
  read rest := by
    have printed : (Printer.scalar (.integer n)).toList = Nat.toDigits 10 n := Nat.toList_repr
    rw [printed]
    exact Literal.readScalar_toDigits n fits rest

end AccountKeeper.Toml
