import AccountKeeper.Proofs.Terminal.Stores
import AccountKeeper.Proofs.Terminal.Talk
import AccountKeeper.Session

/-!
# Commands that only look

`status` and `list` only look, and so does `migrate` when it fails before it
decides anything, when the user cancels it, and when it has nothing to migrate.
What it waits and asks for in between touches the terminal and the network, so
a view that neither belongs to is kept by the whole run.
-/

set_option autoImplicit false

namespace AccountKeeper

variable {σ ω : Type} [Journal σ]

namespace Migration

theorem carryOut_cancelled {migration : Migration σ} {decision : Decision} {s s' : σ}
    (carries : (migration.carryOut decision).run s = (.ok .cancelled, s')) : s' = s := by
  cases decision with
  | nothingToMigrate => cases carries
  | cancelled =>
    cases carries
    rfl
  | register login server token =>
    rw [show migration.carryOut (.register login server token) =
      migration.register login server token from rfl, run_register] at carries
    dsimp only at carries
    split at carries
    · cases carries
    · cases carries

/-- The migration fails to read the legacy data, or it ends because the user cancels or because
there is nothing to migrate. -/
inductive Idle (migration : Migration σ) (interaction : Interaction σ) (s : σ) : Prop where
  | unread (failure : Failure)
      (reads : (migration.legacy.readSnapshot.run
        (Journal.record ⟨.migration, .debug, "Migrating legacy auth"⟩ s)).1 = .error failure)
  | cancelled (outcome : MigrationOutcome)
      (runs : ((migration.run .interactive interaction).run s).1 = .ok outcome)
      (cancels : outcome.cancelled = true)
  | nothing (runs : ((migration.run .interactive interaction).run s).1 = .ok {})

/-- What is concluded without a cancellation clears the legacy data. -/
theorem conclude_not_idle {migration : Migration σ} {step : MigrationStep} {s s' : σ}
    {outcome : MigrationOutcome} (uncancelled : step ≠ .cancelled)
    (concludes : (migration.conclude step).run s = (.ok outcome, s')) :
    ¬(outcome.cancelled = true ∨ outcome = {}) := by
  rw [run_conclude, if_neg uncancelled] at concludes
  have cleared : outcome = step.outcome := by
    cases answer : (migration.legacy.clear.run s).1 with
    | error failure =>
      rw [answer] at concludes
      cases concludes
    | ok _ =>
      rw [answer] at concludes
      cases concludes
      rfl
  rw [cleared]
  cases step with
  | cancelled => exact absurd rfl uncancelled
  | registered account => simp [MigrationStep.outcome]
  | nothingToMigrate => simp [MigrationStep.outcome]

end Migration

/-- The login form of a program, with lookups by a client. -/
abbrev Program.login (program : Program σ) (client : LookupClient) : TerminalLogin σ :=
  ⟨program.terminal, Identity.resolver program.network client⟩

namespace Program

/-- The program fails to open its stores, or the migration with these stores is idle. -/
inductive Idle (program : Program σ) (environment : Environment) (s : σ) : Prop where
  | unopened (failure : Failure)
      (fails : ((program.openStores environment).run s).1 = .error failure)
  | looked (installation : Installation σ) (ready : σ)
      (opens : (program.openStores environment).run s = (.ok installation, ready))
      (idle : installation.migration.Idle (program.interaction installation) ready)

theorem Idle.of_run {program : Program σ} {environment : Environment} {s : σ}
    {outcome : MigrationOutcome}
    (runs : ((program.openStores environment >>= fun installation =>
      installation.migration.run .interactive (program.interaction installation)).run s).1 =
        .ok outcome)
    (cancels : outcome.cancelled = true) : program.Idle environment s := by
  rw [ActionE.run_bind] at runs
  rcases opens : (program.openStores environment).run s with ⟨answer, ready⟩
  rw [opens] at runs
  cases answer with
  | error failure => cases runs
  | ok installation => exact .looked installation ready opens (.cancelled outcome runs cancels)

/-- The state in which a command is begun: the log has been set up. -/
def started (program : Program σ) (environment : Environment) (arguments : Arguments) (s : σ) : σ :=
  (StateT.run (program.startLog environment
    (Logging.ofEnvironment environment arguments.format arguments.verbose)) s).2

end Program

namespace Program.Spares

variable {program : Program σ} {view : σ → ω} (spares : program.Spares view)

include spares

/-! ## Lookups and login forms -/

/-- All requests of an exchange are sent in the same way; the induction is on the redirections
that may still be followed. -/
theorem fetch (limit : Nat) (request : HttpRequest) :
    Keeps view (program.network.fetch limit request) := by
  induction limit generalizing request with
  | zero =>
    unfold Network.fetch
    dsimp only
    split
    · exact .pure _
    · refine .bind (spares.send request) fun answer => ?_
      split
      · exact .pure _
      · exact .pure _
      · split <;> exact .pure _
  | succ limit ih =>
    unfold Network.fetch
    dsimp only
    split
    · exact .pure _
    · refine .bind (spares.send request) fun answer => ?_
      split
      · exact .pure _
      · exact .pure _
      · split
        · exact .pure _
        · exact .bind (ih _) fun _ => .pure _
        · exact .pure _
        · exact .pure _

theorem tellVerdict (server : ServerAddress) (answer : Except HttpFault HttpReply × Nat) : Keeps view
    (do
      let result := Identity.verdict server answer.1
      match result with
      | .ok login =>
        Journal.debug .identity ("Token on " ++ server.display ++ " belongs to " ++ login)
      | .error _ => pure ()
      return (result, answer.2) : StateM σ (Except LookupFailure String × Nat)) := by
  dsimp only
  cases Identity.verdict server answer.1 with
  | ok login => exact .bind (.debug spares.reports _ _) fun _ => .pure _
  | error failure => exact .bind (.pure _) fun _ => .pure _

theorem lookup (client : LookupClient) (server : ServerAddress) (secret : String) :
    Keeps view ((Identity.resolver program.network client).lookup server secret) := by
  have exchange : Keeps view (Identity.lookup program.network client server secret) := by
    refine .bind (.debug spares.reports _ _) fun _ => ?_
    dsimp only
    cases Identity.request? client server secret with
    | error fault => exact .bind (.pure _) (spares.tellVerdict server)
    | ok request => exact .bind (spares.fetch _ request) (spares.tellVerdict server)
  exact .bind exchange fun _ => .pure _

theorem validate (client : LookupClient) (server : ServerAddress) (token : String) :
    Keeps view ((Identity.resolver program.network client).validate .interactive
      (Terminal.indicator.on program.terminal) server token) := by
  have waited : Keeps view ((Terminal.indicator.on program.terminal).await .interactive
      validationTitle ((Identity.resolver program.network client).lookup server token)) := by
    unfold Indicator.await
    rw [if_neg (by simp)]
    refine .bind (.liftState spares.terminal _) fun _ => .bind (spares.lookup client server token)
      fun started => .bind (.liftState spares.terminal _) fun moves =>
        .bind (.liftState spares.terminal _) fun _ => ?_
    dsimp only
    split
    · exact .bind (.debug spares.reports _ _) fun _ => .pure _
    · exact .pure _
  exact .bind waited fun _ => .pure _

section Form

variable {environment : Environment} {config : Config} {secrets : SecretStore σ}

variable (client : LookupClient)

theorem nextToken (stored : Option String) :
    Keeps view ((program.login client).nextToken stored) :=
  .liftState spares.terminal _

theorem say (text : String) :
    Keeps view ((program.login client).say text) :=
  .liftState spares.terminal _

theorem checkTokens (server : ServerAddress) (limit : Nat) (stored : Option String) :
    Keeps view ((program.login client).checkTokens server limit stored) := by
  induction limit generalizing stored with
  | zero => exact .pure none
  | succ limit ih =>
    unfold TerminalLogin.checkTokens
    refine .bind (spares.nextToken client stored) fun next => ?_
    cases next with
    | none => exact .pure none
    | some token =>
      refine .bind (spares.validate client server token) fun found => ?_
      cases found with
      | ok name => exact .pure _
      | error failure => exact .bind (spares.say client _) fun _ => ih none

theorem sayIfSome (text : Option String) (line : String → String) {rest : StateM σ Unit}
    (keeps : Keeps view rest) : Keeps view (match text with
      | some text => do
        (program.login client).say (line text)
        rest
      | none => rest) := by
  cases text with
  | some text => exact .bind (spares.say client _) fun _ => keeps
  | none => exact keeps

theorem introduce (server : ServerAddress) (request : LoginRequest) :
    Keeps view ((program.login client).introduce server request) := by
  refine .bind (spares.say client _) fun _ => spares.sayIfSome client request.message _ ?_
  refine .bind (spares.say client _) fun _ => spares.sayIfSome client request.login _ ?_
  cases request.error with
  | some reason => exact spares.say client _
  | none => exact .pure ()

theorem ask (request : LoginRequest) :
    Keeps view ((program.login client).ask request) := by
  refine .bind (.look _) fun terminal => ?_
  split
  · exact .bind (spares.say client _) fun _ => .pure none
  · cases ServerAddress.read request.server with
    | error failure => exact .bind (spares.say client _) fun _ => .pure none
    | ok server =>
      exact .bind (spares.introduce client server request) fun _ => .bind (.look _) fun _ =>
        spares.checkTokens client server _ _

end Form

/-! ## Migrations -/

section Installed

variable {installation : Installation σ} (opened : program.Opened view installation)

include opened

theorem resolve (host token : String) :
    Keeps view (installation.migration.resolve (Terminal.indicator.on program.terminal)
      host token) := by
  obtain ⟨environment, config, secrets, looks, rfl⟩ := opened
  unfold Migration.resolve
  cases ServerAddress.readHost (some host) with
  | error failure => exact .bind (.debug spares.reports _ _) fun _ => .pure _
  | ok server => exact .bind (spares.validate _ server token) fun _ => .pure _

theorem decideForm (request : LoginRequest) :
    Keeps view ((program.interaction installation).prompt.decide request) := by
  obtain ⟨environment, config, secrets, looks, rfl⟩ := opened
  have asked : Keeps view ((program.login config.lookups.client).prompt.request request) := by
    refine .bind (.debug spares.reports _ _) fun _ => .bind (spares.ask _ request) fun answer => ?_
    cases answer with
    | some confirmed => exact .bind (.debug spares.reports _ _) fun _ => .pure _
    | none => exact .bind (.debug spares.reports _ _) fun _ => .pure _
  exact .bind asked fun _ => .pure _

/-- Lookups and login forms touch nothing but the terminal. -/
theorem decide (legacy : LegacyCredential) :
    Keeps view (installation.migration.decide (program.interaction installation) legacy) := by
  unfold Migration.decide
  split
  · refine .bind (.debug spares.reports _ _) fun _ => ?_
    refine .bind (spares.resolve opened _ _) fun found => ?_
    cases found with
    | ok found => exact .pure _
    | error failure =>
      exact .bind (.debug spares.reports _ _) fun _ => spares.decideForm opened _
  · exact .bind (.debug spares.reports _ _) fun _ => .pure _
  · exact .bind (.debug spares.reports _ _) fun _ => spares.decideForm opened _
  · exact .pure _

theorem settle_cancelled {legacy : LegacyCredential} {s s' : σ}
    (settles : (installation.migration.settle (program.interaction installation) legacy).run s =
      (.ok .cancelled, s')) : view s' = view s := by
  have lists : installation.migration.accounts.list.run s = (.ok (program.listed.get s), s) := by
    obtain ⟨environment, config, secrets, looks, rfl⟩ := opened
    rfl
  rw [Migration.run_settle, lists] at settles
  dsimp only at settles
  split at settles
  · rw [Migration.carryOut_cancelled settles]
    exact spares.decide opened legacy s
  · cases settles

theorem run_idle {s s' : σ} {outcome : MigrationOutcome}
    (ran : (installation.migration.run .interactive (program.interaction installation)).run s =
      (.ok outcome, s'))
    (idle : outcome.cancelled = true ∨ outcome = {}) : view s' = view s := by
  have started : view (Journal.record ⟨.migration, .debug, "Migrating legacy auth"⟩ s) = view s :=
    spares.reports _ s
  rw [Migration.run_interactive] at ran
  split at ran
  · cases ran
  · rename_i legacy read snapshot
    have looked := spares.readSnapshot opened
      (Journal.record ⟨.migration, .debug, "Migrating legacy auth"⟩ s)
    rw [snapshot, started] at looked
    have known := (spares.reports ⟨.migration, .debug, "Legacy auth data: " ++ legacy.display⟩
      read).trans looked
    dsimp only at ran
    split at ran
    · rw [ActionE.run_bind] at ran
      split at ran
      · rename_i step settled settles
        by_cases cancelled : step = .cancelled
        · rw [Migration.run_conclude, if_pos cancelled] at ran
          rw [cancelled] at settles
          cases ran
          exact (spares.settle_cancelled opened settles).trans known
        · exact absurd idle (Migration.conclude_not_idle cancelled ran)
      · cases ran
    · cases ran
      exact known

theorem migrate {s : σ}
    (idle : installation.migration.Idle (program.interaction installation) s) :
    view ((program.migrate installation).run s).2 = view s := by
  have announced (ended : Except Failure MigrationOutcome × σ) :
      view (program.announce ended).2 = view ended.2 := by
    obtain ⟨answer, ended⟩ := ended
    cases answer with
    | error failure => rfl
    | ok outcome =>
      unfold Program.announce
      dsimp only
      split
      · exact spares.terminal _ ended
      · exact spares.terminal _ ended
  rw [Program.run_migrate, announced]
  cases idle with
  | unread failure reads =>
    have looked := spares.readSnapshot opened
      (Journal.record ⟨.migration, .debug, "Migrating legacy auth"⟩ s)
    rw [Migration.run_interactive]
    rcases snapshot : installation.migration.legacy.readSnapshot.run
      (Journal.record ⟨.migration, .debug, "Migrating legacy auth"⟩ s) with ⟨answer, read⟩
    rw [snapshot] at reads looked
    cases reads
    exact looked.trans (spares.reports _ s)
  | cancelled outcome runs cancels =>
    exact spares.run_idle opened (Prod.ext runs rfl) (.inl cancels)
  | nothing runs => exact spares.run_idle opened (Prod.ext runs rfl) (.inr rfl)

/-! ## Commands -/

theorem status : (program.status installation).Keeps view := by
  have told : Keeps view (program.sayLegacy installation.migration) := by
    refine .bind (spares.oldServer opened) fun found => ?_
    cases found with
    | some server =>
      exact .bind (.liftState spares.terminal _) fun _ => .liftState spares.terminal _
    | none =>
      refine .bind (spares.hasLegacyAccount opened) fun there => ?_
      split
      · exact .bind (.liftState spares.terminal _) fun _ => .liftState spares.terminal _
      · exact .liftState spares.terminal _
  exact .bind (.ofState told) fun _ _ => .bind (.look _) fun _ _ =>
    .bind (.ofState (.liftState spares.terminal _)) fun _ _ => .pure 0

end Installed

theorem list (installation : Installation σ) : (program.list installation).Keeps view := by
  refine .bind (.look _) fun accounts _ => ?_
  dsimp only
  split
  · exact .bind (.ofState (.liftState spares.terminal _)) fun _ _ => .pure 0
  · refine .bind (.forIn fun _ _ => ?_) fun _ _ => .pure 0
    exact .bind (.ofState (.liftState spares.terminal _)) fun _ _ => .pure _

theorem startLog (environment : Environment) (logging : Logging) :
    Keeps view (program.startLog environment logging) := by
  refine .bind (.forIn fun _ _ => .bind (.liftState spares.terminal _) fun _ => .pure _) fun _ => ?_
  exact .bind (.look _) fun _ => .assign spares.terminal _

theorem command {environment : Environment} {command : Command} {s : σ}
    (idle : command = .migrate → program.Idle environment s) :
    view ((program.command environment command).run s).2 = view s := by
  have looked := spares.openStores environment s
  unfold Program.command
  rw [ActionE.run_bind]
  rcases opens : (program.openStores environment).run s with ⟨answer, ready⟩
  rw [opens] at looked
  cases answer with
  | error failure => exact looked
  | ok installation =>
    have opened := spares.opened ⟨s, congrArg Prod.fst opens⟩
    cases command with
    | status => exact (spares.status opened ready).trans looked
    | list => exact (spares.list installation ready).trans looked
    | migrate =>
      cases idle rfl with
      | unopened failure fails =>
        rw [opens] at fails
        cases fails
      | looked found ready' opens' idle =>
        rw [opens] at opens'
        cases opens'
        exact (spares.migrate opened idle).trans looked

/-- A run keeps the view unless it is a migration that goes on after looking. -/
theorem main {environment : Environment} {arguments : List String} {s : σ}
    (idle : ∀ found, CommandLine.read arguments = .run found → found.command = .migrate →
      program.Idle environment (program.started environment found s)) :
    view (StateT.run (program.main environment arguments) s).2 = view s := by
  unfold Program.main
  dsimp only
  cases reading : CommandLine.read arguments with
  | run found =>
    have logged : view (program.started environment found s) = view s := spares.startLog _ _ s
    have commanded := spares.command (idle found reading)
    have ended : view (StateT.run (program.runArguments environment found) s).2 =
        view (program.started environment found s) := by
      unfold Program.runArguments
      rw [ActionE.run_state_bind]
      refine Keeps.after commanded fun answer => ?_
      cases answer with
      | ok code => exact .pure code
      | error failure => exact .bind (.liftState spares.terminal _) fun _ => .pure _
    exact ended.trans logged
  | help page => exact spares.terminal _ s
  | version => exact spares.terminal _ s
  | nothing => exact spares.terminal _ s
  | fault cause => exact spares.terminal _ s

end Program.Spares

end AccountKeeper
