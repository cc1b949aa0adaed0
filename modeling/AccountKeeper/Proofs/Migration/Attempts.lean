import AccountKeeper.Proofs.Migration.Holdings
import AccountKeeper.Proofs.Migration.Protocol

/-!
# Attempts at a migration

An attempt is a run in which any call on a store may fail.  `run_leads` says
that it makes of the holdings only what `Holdings.Moves` allows, and
`calm_completes` that a run without failures reaches their completion.
-/

set_option autoImplicit false

namespace AccountKeeper

namespace MigrationCall

/-- The account that a call registered, with its token. -/
def addition? : MigrationCall → Option (Account × String)
  | .addAccount account token (.ok ()) => some (account, token)
  | _ => none

/-- The call neither asks anybody nor is meant to change a store. -/
structure Quiet (call : MigrationCall) : Prop where
  lookup : call.lookup? = none
  form : call.form? = none
  write : call.isWrite = false

theorem addition_of_not_isWrite {call : MigrationCall} (unwritten : call.isWrite = false) :
    call.addition? = none := by
  cases call with
  | addAccount account token answer => cases unwritten
  | _ => rfl

theorem additions_of_none {made : List MigrationCall}
    (nothing : ∀ call ∈ made, call.addition? = none) : made.filterMap addition? = [] :=
  List.filterMap_eq_nil_iff.mpr nothing

end MigrationCall

namespace Stage

def holdings (stage : Stage) : Holdings :=
  ⟨stage.settings.settings, stage.secrets.get?, stage.accounts.entries⟩

/-- The stores do not fail by themselves. -/
structure Sound (stage : Stage) : Prop where
  reads : stage.settings.failReads = false
  writable : stage.accounts.readOnly = false

@[simp] theorem holdings_noting (stage : Stage) (made : List MigrationCall)
    (reports : List JournalEntry) : (stage.noting made reports).holdings = stage.holdings := rfl

theorem holdings_erased (stage : Stage) :
    stage.settingsCleared.secretErased.holdings = stage.holdings.cleared := by
  unfold holdings Holdings.cleared
  congr 1
  funext key
  exact SecretTable.get?_put _ _ _ _

end Stage

/-- Some calls lead from one stage to another as an attempt may. -/
structure Script.Leads (script : Script) (before after : Stage) : Prop where
  sound : before.Sound → after.Sound
  moves : ∃ made, after.calls = before.calls ++ made ∧
    Holdings.Moves script.decision before.holdings (made.filterMap MigrationCall.addition?)
      after.holdings

namespace Script

variable (script : Script) (stage : Stage)

theorem Leads.refl {script : Script} (stage : Stage) : script.Leads stage stage :=
  ⟨id, [], (List.append_nil _).symm, .stays⟩

theorem Leads.stays {script : Script} (stage : Stage) (made : List MigrationCall)
    (reports : List JournalEntry) (nothing : ∀ call ∈ made, call.addition? = none) :
    script.Leads stage (stage.noting made reports) where
  sound sound := ⟨sound.reads, sound.writable⟩
  moves := by
    refine ⟨made, rfl, ?_⟩
    rw [MigrationCall.additions_of_none nothing]
    exact .stays

theorem Leads.after_noting {script : Script} {before after : Stage} {made : List MigrationCall}
    {reports : List JournalEntry} (nothing : ∀ call ∈ made, call.addition? = none)
    (leads : script.Leads (before.noting made reports) after) : script.Leads before after where
  sound sound := leads.sound ⟨sound.reads, sound.writable⟩
  moves := by
    obtain ⟨later, calls, moves⟩ := leads.moves
    refine ⟨made ++ later, ?_, ?_⟩
    · rw [calls, Stage.calls_noting, List.append_assoc]
    · rw [List.filterMap_append, MigrationCall.additions_of_none nothing, List.nil_append]
      exact moves

/-! ## Reading and clearing legacy data -/

theorem run_snapshot :
    ∃ answer made, script.migration.legacy.readSnapshot.run stage =
        (answer, stage.noting made []) ∧
      (∀ call ∈ made, call.Quiet) ∧
      ∀ legacy, answer = .ok legacy → legacy = stage.credential := by
  have settingsQuiet : ∀ answer, MigrationCall.Quiet (.readSettings answer) :=
    fun _ => ⟨rfl, rfl, rfl⟩
  have secretQuiet : ∀ key answer, MigrationCall.Quiet (.readSecret key answer) :=
    fun _ _ => ⟨rfl, rfl, rfl⟩
  have ran := LegacyStore.run_readSnapshot script.migration.legacy stage
  rw [show script.migration.legacy.settings = script.settings from rfl, run_read,
    show script.migration.legacy.secrets = script.secrets from rfl] at ran
  cases settings : script.settingsAnswer stage with
  | error failure =>
    rw [settings] at ran
    refine ⟨.error failure, [.readSettings (.error failure)], ran, ?_, ?_⟩
    · simpa using settingsQuiet _
    · intro legacy answer
      cases answer
  | ok settings' =>
    have stored := script.settingsAnswer_ok stage settings' settings
    simp only [settings, run_getSecret, Stage.noting_noting] at ran
    refine ⟨_, _, ran, ?_, ?_⟩
    · intro call member
      rcases List.mem_append.mp member with first | second
      · rw [List.mem_singleton.mp first]
        exact settingsQuiet _
      · rw [List.mem_singleton.mp second]
        exact secretQuiet _ _
    · intro legacy answer
      unfold secretAnswer at answer
      split at answer
      · cases answer
      · cases answer
        rw [stored]
        rfl

/-- A clearing registers nothing, and breaks off at one of its two erasures or not at all. -/
theorem clear_clears :
    let after := (script.migration.legacy.clear.run stage).2
    (stage.Sound → after.Sound) ∧ stage.holdings.Clears after.holdings ∧
      ∃ made, after.calls = stage.calls ++ made ∧ ∀ call ∈ made, call.addition? = none := by
  intro after
  have ran : after = _ := congrArg Prod.snd (LegacyStore.run_clear script.migration.legacy stage)
  rw [show script.migration.legacy.settings = script.settings from rfl, run_clear,
    show script.migration.legacy.secrets = script.secrets from rfl] at ran
  cases first : script.outage stage.calls.length with
  | some failure =>
    rw [first] at ran
    rw [ran]
    exact ⟨fun sound => ⟨sound.reads, sound.writable⟩, .nothing, _, rfl, by simp; rfl⟩
  | none =>
    simp only [first, run_eraseSecret] at ran
    cases second : script.outage
        (stage.settingsCleared.noting [.clearSettings (.ok ())] []).calls.length with
    | some failure =>
      simp only [second, Stage.noting_noting] at ran
      rw [ran]
      refine ⟨fun sound => ⟨sound.reads, sound.writable⟩, .settings, _, rfl, ?_⟩
      simp
      exact ⟨rfl, rfl⟩
    | none =>
      simp only [second] at ran
      rw [ran]
      refine ⟨fun sound => ⟨sound.reads, sound.writable⟩, ?_,
        [.clearSettings (.ok ()), .writeSecret legacySecretKey none (.ok ())], ?_, ?_⟩
      · change stage.holdings.Clears stage.settingsCleared.secretErased.holdings
        rw [stage.holdings_erased]
        exact .all
      · simp
      · simp
        exact ⟨rfl, rfl⟩

/-- Whatever the step was that a run concludes, the stage is left as the clearing leaves it. -/
theorem stage_conclude (step : MigrationStep) (kept : step ≠ .cancelled) :
    ((script.migration.conclude step).run stage).2 =
      (script.migration.legacy.clear.run stage).2 := by
  have after : ∀ outcome : MigrationOutcome,
      (ActionE.run (do script.migration.legacy.clear; return outcome) stage).2 =
        (script.migration.legacy.clear.run stage).2 := by
    intro outcome
    rw [ActionE.run_bind]
    rcases script.migration.legacy.clear.run stage with ⟨answer, cleared⟩
    cases answer <;> rfl
  cases step with
  | cancelled => exact absurd rfl kept
  | registered account => exact after _
  | nothingToMigrate => exact after _

/-! ## Whole attempts -/

theorem leads_discards (informed : stage.credential.hasAnyInfo = true)
    (planned : stage.holdings.plan script.decision = .nothingToMigrate) :
    script.Leads stage ((script.migration.conclude .nothingToMigrate).run stage).2 := by
  rw [stage_conclude script stage .nothingToMigrate (by simp)]
  obtain ⟨sound, clears, made, calls, nothing⟩ := script.clear_clears stage
  refine ⟨sound, made, calls, ?_⟩
  rw [MigrationCall.additions_of_none nothing]
  exact .discards informed planned clears

/-- A registration is refused, or the account is added before the legacy data is discarded. -/
theorem leads_registers (login token : String) (server : ServerAddress)
    (informed : stage.credential.hasAnyInfo = true)
    (planned : stage.holdings.plan script.decision = .register login server token) :
    script.Leads stage ((script.migration.register login server token >>=
      script.migration.conclude).run stage).2 := by
  rw [ActionE.run_bind, run_register]
  dsimp only
  cases added : script.addition stage.drawn (script.newAccount stage login server) token with
  | error failure =>
    refine ⟨fun sound => ⟨sound.reads, sound.writable⟩, _, rfl, ?_⟩
    exact .stays
  | ok accounts =>
    dsimp only
    generalize account_eq : script.newAccount stage login server = account at added
    have accepted : stage.accounts.grown account token = .ok accounts := by
      unfold addition at added
      split at added
      · cases added
      · exact added
    obtain ⟨proper, rfl⟩ := AccountTable.grown_eq_ok _ _ _ _ accepted
    rw [stage_conclude script _ (.registered account) (by simp)]
    obtain ⟨sound, clears, made, calls, nothing⟩ := script.clear_clears _
    refine ⟨fun first => sound ⟨first.reads, first.writable⟩,
      .addAccount account token (.ok ()) :: made, ?_, ?_⟩
    · rw [calls, Stage.calls_noting, List.append_assoc]
      rfl
    · have additions : (MigrationCall.addAccount account token (.ok ()) :: made).filterMap
          MigrationCall.addition? = [(account, token)] := by
        rw [List.filterMap_cons, MigrationCall.additions_of_none nothing]
        rfl
      rw [additions]
      subst account_eq
      exact .registers _ token informed planned proper clears

theorem leads_finish (decision : Decision) (informed : stage.credential.hasAnyInfo = true)
    (planned : stage.holdings.plan script.decision = decision) :
    script.Leads stage ((script.migration.finish decision).run stage).2 := by
  cases decision with
  | nothingToMigrate => exact script.leads_discards stage informed planned
  | cancelled => exact .refl stage
  | register login server token =>
    exact script.leads_registers stage login token server informed planned

theorem listAnswer_ok (existing : List Account) (answered : script.listAnswer stage = .ok existing) :
    existing = stage.accounts.accounts := by
  unfold listAnswer at answered
  split at answered
  · cases answered
  · exact (Except.ok.inj answered).symm

theorem addition_of_mem_dealings (legacy : LegacyCredential) :
    ∀ call ∈ script.dealings legacy, call.addition? = none := by
  intro call member
  have unwritten := List.filter_eq_nil_iff.mp (script.dealings_observed legacy).1 call member
  exact MigrationCall.addition_of_not_isWrite (Bool.eq_false_iff.mpr unwritten)

/-- The step that settles a credential, together with what concludes the run. -/
theorem settle_leads (informed : stage.credential.hasAnyInfo = true) :
    script.Leads stage ((script.migration.settle script.interaction stage.credential >>=
      script.migration.conclude).run stage).2 := by
  have listing : ∀ answer, ∀ call ∈ [MigrationCall.listAccounts answer],
      call.addition? = none := by
    intro answer call member
    rw [List.mem_singleton.mp member]
    rfl
  rw [ActionE.run_bind, script.run_settle stage stage.credential]
  cases answered : script.listAnswer stage with
  | error failure => exact .stays stage _ [] (listing _)
  | ok existing =>
    have accounts := script.listAnswer_ok stage existing answered
    cases existing with
    | cons first rest =>
      have planned : stage.holdings.plan script.decision = .nothingToMigrate := by
        unfold Holdings.plan
        rw [if_neg]
        intro empty
        rw [AccountTable.accounts, show stage.accounts.entries = [] from empty] at accounts
        cases accounts
      dsimp only
      rw [Stage.noting_noting]
      refine .after_noting ?_ (script.leads_discards (stage.noting _ _) informed planned)
      rw [List.append_nil]
      exact listing _
    | nil =>
      have planned : stage.holdings.plan script.decision = script.decision stage.credential := by
        unfold Holdings.plan
        rw [if_pos]
        · rfl
        · exact List.map_eq_nil_iff.mp accounts.symm
      have finished := script.leads_finish
        ((stage.noting [.listAccounts (.ok [])] []).noting (script.dealings stage.credential)
          (script.reports stage.credential)) _ informed planned
      rw [Migration.finish, ActionE.run_bind] at finished
      exact .after_noting (listing _) (.after_noting (script.addition_of_mem_dealings _) finished)

/-- Whatever fails on the way, a run makes of the holdings what an attempt can make of them. -/
theorem run_leads (caller : Caller) :
    script.Leads stage ((script.migration.run caller script.interaction).run stage).2 := by
  cases caller with
  | runtime =>
    rw [Migration.run_runtime]
    exact .refl stage
  | interactive =>
    let opening : JournalEntry := ⟨.migration, .debug, "Migrating legacy auth"⟩
    obtain ⟨answer, made, read, quiet, known⟩ := script.run_snapshot (stage.noting [] [opening])
    have nothing : ∀ call ∈ [] ++ made, call.addition? = none := fun call member =>
      MigrationCall.addition_of_not_isWrite (quiet call member).write
    rw [Migration.run_interactive, Stage.record_eq, read, Stage.noting_noting]
    cases answer with
    | error failure => exact .stays stage _ _ nothing
    | ok legacy =>
      rw [known legacy rfl, Stage.credential_noting]
      dsimp only
      rw [Stage.record_eq, Stage.noting_noting]
      cases informed : stage.credential.hasAnyInfo with
      | false => exact .stays stage _ _ (by simpa using nothing)
      | true =>
        refine .after_noting ?_ (script.settle_leads (stage.noting _ _) informed)
        simpa using nothing

theorem run_uninformed (caller : Caller) (unknown : stage.credential.hasAnyInfo = false) :
    ∃ answer made reports, (script.migration.run caller script.interaction).run stage =
        (answer, stage.noting made reports) ∧
      (∀ call ∈ made, call.Quiet) ∧ ∀ outcome, answer = .ok outcome → outcome = {} := by
  cases caller with
  | runtime =>
    refine ⟨.error .wrongThread, [], [], ?_, by simp, ?_⟩
    · rw [Migration.run_runtime, Stage.noting_nil]
    · intro outcome answer
      cases answer
  | interactive =>
    let opening : JournalEntry := ⟨.migration, .debug, "Migrating legacy auth"⟩
    obtain ⟨answer, made, read, quiet, known⟩ := script.run_snapshot (stage.noting [] [opening])
    have silent : ∀ call ∈ [] ++ made, call.Quiet := quiet
    rw [Migration.run_interactive, Stage.record_eq, read, Stage.noting_noting]
    cases answer with
    | error failure =>
      refine ⟨.error failure, _, _, rfl, silent, ?_⟩
      intro outcome answer
      cases answer
    | ok legacy =>
      rw [known legacy rfl, Stage.credential_noting]
      dsimp only
      rw [Stage.record_eq, Stage.noting_noting, unknown, if_neg Bool.false_ne_true]
      refine ⟨.ok {}, _, _, rfl, by simpa using silent, ?_⟩
      intro outcome answer
      exact (Except.ok.inj answer).symm

end Script

/-! ## Runs without failures -/

/-- The migration came to its end: nothing failed, and the user did not cancel it. -/
def Migration.Completed (result : Except Failure MigrationOutcome) : Prop :=
  ∃ outcome, result = .ok outcome ∧ outcome.completed = true

/-- A run that leads somewhere is completed there, and any other one leaves everything. -/
def Migration.EndsAt (before : Holdings) (ended : Except Failure MigrationOutcome × Stage) :
    Option Inventory → Prop
  | some inventory => Completed ended.1 ∧ ended.2.holdings.inventory = inventory
  | none => ¬Completed ended.1 ∧ ended.2.holdings = before

namespace Script

open Migration

variable (script : Script) (stage : Stage)

theorem calm_discards (step : MigrationStep) (kept : step ≠ .cancelled) :
    let ended := (script.calm.migration.conclude step).run stage
    Completed ended.1 ∧ ended.2.holdings = stage.holdings.cleared := by
  obtain ⟨reports, concluded⟩ := script.calm_conclude stage step kept
  rw [concluded]
  exact ⟨⟨_, rfl, rfl⟩, stage.holdings_erased⟩

theorem calm_addition (account : Account) (token : String) (sound : stage.Sound)
    (alone : stage.accounts.entries = []) :
    script.calm.addition stage account token =
      (Login.require account.login).map fun _ => { entries := [(account, token)] } := by
  have empty : stage.accounts = {} := by
    have writable := sound.writable
    cases table : stage.accounts with
    | mk entries readOnly =>
      rw [table] at alone writable
      cases alone
      cases writable
      rfl
  change stage.accounts.grown account token = _
  rw [empty, AccountTable.grown_of_empty]

theorem calm_finishes (decision : Decision) (sound : stage.Sound)
    (informed : stage.holdings.credential.hasAnyInfo = true)
    (planned : stage.holdings.plan script.decision = decision) :
    EndsAt stage.holdings ((script.calm.migration.finish decision).run stage)
      (stage.holdings.completion script.decision) := by
  unfold Holdings.completion
  rw [if_pos informed, planned]
  cases decision with
  | nothingToMigrate =>
    obtain ⟨completed, discarded⟩ := script.calm_discards stage .nothingToMigrate (by simp)
    exact ⟨completed, congrArg Holdings.inventory discarded⟩
  | cancelled =>
    refine ⟨?_, rfl⟩
    rintro ⟨outcome, ended, completed⟩
    cases ended
    cases completed
  | register login server token =>
    have alone : stage.accounts.entries = [] := Holdings.alone_of_plan planned
    have added := script.calm_addition stage.drawn (script.calm.newAccount stage login server)
      token ⟨sound.reads, sound.writable⟩ alone
    rw [show (script.calm.newAccount stage login server).login = login from rfl] at added
    rw [Migration.finish, Migration.carryOut, ActionE.run_bind, run_register]
    dsimp only
    rw [added]
    cases proper : Login.require login with
    | error failure =>
      refine ⟨?_, rfl⟩
      rintro ⟨outcome, ended, _⟩
      cases ended
    | ok _ =>
      obtain ⟨completed, discarded⟩ := script.calm_discards
        ((stage.drawn.holding
          { entries := [(script.calm.newAccount stage login server, token)] }).noting
          [.addAccount (script.calm.newAccount stage login server) token (.ok ())]
          [⟨.migration, .info,
            "Registered account " ++ (script.calm.newAccount stage login server).display⟩])
        (.registered (script.calm.newAccount stage login server)) (by simp)
      refine ⟨completed, ?_⟩
      refine (congrArg Holdings.inventory discarded).trans ?_
      have unlisted : stage.holdings.inventory.logins = [] := congrArg (List.map _) alone
      rw [unlisted]
      rfl

theorem calm_completes (sound : stage.Sound) :
    EndsAt stage.holdings
      ((script.calm.migration.run .interactive script.calm.interaction).run stage)
      (stage.holdings.completion script.decision) := by
  obtain ⟨reports, ran⟩ := script.calm_run stage sound.reads
  rw [ran]
  cases informed : stage.credential.hasAnyInfo with
  | false =>
    unfold Holdings.completion
    rw [show stage.holdings.credential = stage.credential from rfl, informed]
    exact ⟨⟨{}, rfl, rfl⟩, rfl⟩
  | true =>
    rw [if_pos rfl]
    exact script.calm_finishes (stage.noting _ _) _ ⟨sound.reads, sound.writable⟩ informed rfl

end Script

end AccountKeeper
