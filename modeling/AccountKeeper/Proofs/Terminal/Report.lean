import AccountKeeper.Proofs.Terminal.Workstation

/-!
# What the status report says

The report starts with a line about the legacy account.  The theorems say what
this line is for everything that may be stored: an account is reported where the
settings and the secret can be read and amount to one, whether its address is
valid or not.
-/

set_option autoImplicit false

namespace AccountKeeper

/-- What was printed, without what was said aside. -/
def Terminal.results (terminal : Terminal) : List String :=
  terminal.output.filterMap fun
    | .result text => some text
    | _ => none

theorem Terminal.results_emit (terminal : Terminal) (piece : Output) :
    (terminal.emit piece).results = terminal.results ++
      match piece with
      | .result text => [text]
      | _ => [] := by
  unfold results emit
  rw [List.filterMap_append]
  cases piece <;> rfl

theorem Terminal.results_record (entry : JournalEntry) (terminal : Terminal) :
    (Journal.record entry terminal : Terminal).results = terminal.results := by
  change (if terminal.filter.passes entry then terminal.emit (.report entry)
    else terminal).results = _
  split
  · rw [results_emit]
    exact List.append_nil _
  · rfl

namespace Workstation

/-- The station after something was printed, which changes nothing that is kept there. -/
structure Printed (before after : Workstation) (lines : List String) : Prop where
  shelf : after.shelf = before.shelf
  results : after.terminal.results = before.terminal.results ++ lines

namespace Printed

variable {before after later : Workstation} {lines others : List String}

theorem refl (station : Workstation) : station.Printed station [] :=
  ⟨rfl, (List.append_nil _).symm⟩

theorem trans (first : before.Printed after lines) (second : after.Printed later others) :
    before.Printed later (lines ++ others) where
  shelf := second.shelf.trans first.shelf
  results := by rw [second.results, first.results, List.append_assoc]

theorem record (printed : before.Printed after lines) (entry : JournalEntry) :
    before.Printed (Journal.record entry after) lines where
  shelf := printed.shelf
  results := (Terminal.results_record entry after.terminal).trans printed.results

end Printed

section Status

variable (cipher : Cipher) (replies : Replies) (environment : Environment) (config : Config)
  (station : Workstation)

theorem print_printed (text : String) :
    station.Printed (StateT.run ((program cipher replies).print text) station).2 [text ++ "\n"] :=
  ⟨rfl, station.terminal.results_emit (.result (text ++ "\n"))⟩

/-- The lines of the report about a legacy account. -/
def legacyLines : Except Failure LegacyCredential → List String
  | .error _ => ["✓ No legacy account to migrate\n"]
  | .ok old =>
    if old.hasLegacyAccount then
      match old.readServer with
      | .ok server => ["Legacy account found on " ++ server.display ++ "\n",
          "Run 'gh-accounts migrate' to add it to the account list.\n"]
      | .error _ => ["Legacy account found, but its server address is invalid\n",
          "Run 'gh-accounts migrate' to log in again.\n"]
    else ["✓ No legacy account to migrate\n"]

theorem run_peek :
    let ended := StateT.run (installation cipher replies environment config).migration.peek station
    ended.1 = (station.legacy environment config).toOption ∧ station.Printed ended.2 [] := by
  intro ended
  have reads := station.run_readSnapshot cipher replies environment config
  simp only [ended]
  unfold Migration.peek
  rw [ActionE.run_state_bind, ActionE.run_outcome, reads]
  cases station.legacy environment config with
  | ok old => exact ⟨rfl, .refl station⟩
  | error failure => exact ⟨rfl, (Printed.refl station).record _⟩

theorem run_oldServer :
    let ended := StateT.run
      (installation cipher replies environment config).migration.oldServer station
    ended.1 = (station.legacy environment config).toOption.bind (fun old =>
        if old.hasLegacyAccount then old.readServer.toOption else none) ∧
      station.Printed ended.2 [] := by
  intro ended
  obtain ⟨answer, printed⟩ := station.run_peek cipher replies environment config
  simp only [ended]
  unfold Migration.oldServer
  rw [ActionE.run_state_bind, answer]
  cases (station.legacy environment config).toOption with
  | none => exact ⟨rfl, printed⟩
  | some old =>
    dsimp only [Option.bind]
    split
    · unfold LegacyCredential.effectiveServer
      cases old.readServer with
      | ok server => exact ⟨rfl, printed⟩
      | error failure => exact ⟨rfl, printed.record _⟩
    · exact ⟨rfl, printed⟩

theorem run_hasLegacyAccount :
    let ended := StateT.run
      (installation cipher replies environment config).migration.hasLegacyAccount station
    ended.1 = ((station.legacy environment config).toOption.any (·.hasLegacyAccount)) ∧
      station.Printed ended.2 [] := by
  intro ended
  obtain ⟨answer, printed⟩ := station.run_peek cipher replies environment config
  simp only [ended]
  unfold Migration.hasLegacyAccount
  rw [ActionE.run_state_bind, answer]
  cases (station.legacy environment config).toOption with
  | none => exact ⟨rfl, printed⟩
  | some old => exact ⟨rfl, printed⟩

theorem legacy_of_shelf {after : Workstation} (kept : after.shelf = station.shelf) :
    after.legacy environment config = station.legacy environment config := by
  unfold legacy settings text?
  rw [kept]

/-- The account is read again where its address is invalid, and amounts to the same. -/
theorem run_sayLegacy :
    station.Printed (StateT.run ((program cipher replies).sayLegacy
      (installation cipher replies environment config).migration) station).2
      (legacyLines (station.legacy environment config)) := by
  obtain ⟨server, looked⟩ := station.run_oldServer cipher replies environment config
  let asked := StateT.run (installation cipher replies environment config).migration.oldServer
    station
  obtain ⟨found, shown⟩ := asked.2.run_hasLegacyAccount cipher replies environment config
  let again := StateT.run (installation cipher replies environment config).migration.hasLegacyAccount
    asked.2
  rw [station.legacy_of_shelf environment config looked.shelf] at found
  have nothing : station.Printed (StateT.run
      ((program cipher replies).print "✓ No legacy account to migrate") again.2).2
      ["✓ No legacy account to migrate\n"] :=
    (looked.trans shown).trans (again.2.print_printed cipher replies _)
  unfold Program.sayLegacy
  rw [ActionE.run_state_bind, server]
  unfold legacyLines
  cases read : station.legacy environment config with
  | error failure =>
    rw [read] at found
    dsimp only [Except.toOption, Option.bind]
    rw [ActionE.run_state_bind, found]
    exact nothing
  | ok old =>
    rw [read] at found
    dsimp only [Except.toOption, Option.bind] at found ⊢
    cases account : old.hasLegacyAccount with
    | false =>
      rw [if_neg (by simp), ActionE.run_state_bind, found, Option.any_some, account]
      exact nothing
    | true =>
      rw [if_pos rfl, if_pos rfl]
      cases old.readServer with
      | ok place =>
        exact (looked.trans (asked.2.print_printed cipher replies _)).trans
          (print_printed cipher replies _ _)
      | error failure =>
        dsimp only
        rw [ActionE.run_state_bind, found, Option.any_some, account]
        exact ((looked.trans shown).trans (again.2.print_printed cipher replies _)).trans
          (print_printed cipher replies _ _)

/-- The report, printed in a session of its own. -/
def report : List String :=
  (((program cipher replies).status (installation cipher replies environment config)).run
    { station with terminal := { station.terminal with output := [] } }).2.terminal.results

/-- Whether the report starts otherwise than with the line that there is no legacy account. -/
def Reported : Prop :=
  (station.report cipher replies environment config).head? ≠
    some "✓ No legacy account to migrate\n"

theorem report_eq :
    station.report cipher replies environment config =
      legacyLines (station.legacy environment config) ++
        [Nat.repr station.shelf.listed.length ++ " account(s) registered\n"] := by
  let opened : Workstation := { station with terminal := { station.terminal with output := [] } }
  have said := opened.run_sayLegacy cipher replies environment config
  let after := (StateT.run ((program cipher replies).sayLegacy
    (installation cipher replies environment config).migration) opened).2
  have counted := said.trans (after.print_printed cipher replies
    (Nat.repr station.shelf.listed.length ++ " account(s) registered"))
  have ran : (((program cipher replies).status
      (installation cipher replies environment config)).run opened).2 =
      (StateT.run ((program cipher replies).print
        (Nat.repr after.shelf.listed.length ++ " account(s) registered")) after).2 := rfl
  have results := counted.results
  rw [String.append_assoc] at results
  unfold report
  rw [ran, said.shelf]
  exact results

theorem reported_iff :
    station.Reported cipher replies environment config ↔
      ∃ old, station.legacy environment config = .ok old ∧ old.hasLegacyAccount = true := by
  unfold Reported
  rw [report_eq]
  unfold legacyLines
  cases station.legacy environment config with
  | error failure => simp
  | ok old =>
    dsimp only
    cases account : old.hasLegacyAccount with
    | false => simp [account]
    | true =>
      cases old.readServer with
      | error failure => simp [account]
      | ok server =>
        have differs : "Legacy account found on " ++ server.display ++ "\n" ≠
            "✓ No legacy account to migrate\n" := by
          intro same
          have heads := congrArg (fun text : String => text.toList.head?) same
          simp at heads
        simp [account, differs]

end Status

end Workstation

end AccountKeeper
