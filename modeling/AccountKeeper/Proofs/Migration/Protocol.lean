import AccountKeeper.Proofs.Migration.Course

/-!
# The protocol of a migration

Between stores that do not fail, a migration does what its protocol says for
every legacy account, every list of accounts and all answers.
`FollowsProtocol` has one clause for each kind of run.
-/

set_option autoImplicit false

namespace AccountKeeper

/-- No account is registered, and a legacy token is known. -/
structure Stage.HoldsToken (start : Stage) (token : String) : Prop where
  alone : start.accounts.entries = []
  mode : start.credential.authMode = .token
  secret : start.credential.secret = some token

def LegacyCredential.formAfter (legacy : LegacyCredential) (token : String)
    (failure : LookupFailure) : LoginRequest :=
  ⟨legacy.host.getD "github.com", none, some token, some failure.message, none⟩

/-- A course is one that the protocol allows for what the stage holds and the script answers. -/
structure FollowsProtocol (script : Script) (start : Stage) (course : Course) : Prop where
  nothingKnown : start.credential = ⟨none, none, .none, none⟩ →
    course.AsksNobody ∧ course.EndsUntouched start {}
  otherAccounts : start.credential ≠ ⟨none, none, .none, none⟩ → start.accounts.entries ≠ [] →
    course.AsksNobody ∧ course.Discards start
  /-- A token for what is no server is not looked up. -/
  badHost : ∀ token failure, start.HoldsToken token →
    ServerAddress.readHost start.credential.host = .error failure →
    course.lookups = [] ∧ course.Asks start script (start.credential.formAfter token
      (.invalidServer (start.credential.host.getD "github.com")))
  /-- A token is looked up once, and registered under the login that is found. -/
  found : ∀ token server login, start.HoldsToken token →
    ServerAddress.readHost start.credential.host = .ok server →
    script.cancelsLookup server token = false →
    (script.lookup server token).finish = .value (.ok login) →
    course.lookups = [(server, token)] ∧ course.forms = [] ∧
      course.Settles start (script.newId 0) login server token
  refused : ∀ token server failure, start.HoldsToken token →
    ServerAddress.readHost start.credential.host = .ok server →
    script.cancelsLookup server token = false →
    (script.lookup server token).finish = .value (.error failure) →
    course.lookups = [(server, token)] ∧
      course.Asks start script (start.credential.formAfter token failure)
  crashed : ∀ token server reason, start.HoldsToken token →
    ServerAddress.readHost start.credential.host = .ok server →
    script.cancelsLookup server token = false →
    (script.lookup server token).finish = .crashed reason →
    course.lookups = [(server, token)] ∧
      course.Asks start script (start.credential.formAfter token (.unexpectedResponse
        ("Identity lookup on " ++ server.display ++ " did not finish: " ++ reason)))
  /-- Whatever a lookup yields, it is dropped if the user cancels it. -/
  cancelled : ∀ token server, start.HoldsToken token →
    ServerAddress.readHost start.credential.host = .ok server →
    script.cancelsLookup server token = true →
    course.lookups = [(server, token)] ∧
      course.Asks start script (start.credential.formAfter token .cancelled)
  /-- A password is not looked up; the user is told that a token is needed. -/
  password : start.accounts.entries = [] → start.credential.authMode = .basic →
    course.lookups = [] ∧
      course.Asks start script ⟨start.credential.host.getD "github.com", start.credential.login,
        start.credential.secret, none, some passwordNotSupported⟩
  nothingToMigrate : start.credential ≠ ⟨none, none, .none, none⟩ →
    start.accounts.entries = [] →
    start.credential.authMode = .none ∨
      start.credential.authMode = .token ∧ start.credential.secret = none →
    course.AsksNobody ∧ course.Discards start

theorem LegacyCredential.hasAnyInfo_iff (legacy : LegacyCredential) :
    legacy.hasAnyInfo = true ↔ legacy ≠ ⟨none, none, .none, none⟩ := by
  rcases legacy with ⟨host, login, mode, secret⟩
  cases host <;> cases login <;> cases mode <;> cases secret <;> simp [hasAnyInfo]

namespace Script

variable (script : Script) (settings : LegacySettings) (secrets : SecretTable)

theorem asks_of_confirmation {start : Stage} {course : Course} {request : LoginRequest}
    (forms : course.forms = [request])
    (carried : course.CarriesOut start (script.newId 0) (script.confirmation request)) :
    course.Asks start script request where
  forms := forms
  confirmed := by
    intro login server token answer
    rw [confirmation, answer] at carried
    exact carried
  cancelled := by
    intro answer
    rw [confirmation, answer] at carried
    exact carried

/-! ## Whom a credential makes a run ask -/

theorem dealings_observed (legacy : LegacyCredential) :
    (script.dealings legacy).filter MigrationCall.isWrite = [] ∧
      (script.dealings legacy).filterMap MigrationCall.lookup? =
        (script.lookups legacy).filterMap MigrationCall.lookup? ∧
      (script.dealings legacy).filterMap MigrationCall.form? = (script.form? legacy).toList := by
  have looked : (script.lookups legacy).filter MigrationCall.isWrite = [] ∧
      (script.lookups legacy).filterMap MigrationCall.form? = [] := by
    unfold lookups lookupCalls
    split
    · split <;> exact ⟨rfl, rfl⟩
    · exact ⟨rfl, rfl⟩
  unfold dealings
  rw [List.filter_append, List.filterMap_append, List.filterMap_append, looked.1, looked.2]
  cases script.form? legacy <;> simp [MigrationCall.isWrite, MigrationCall.lookup?,
    MigrationCall.form?]

/-! ## Courses -/

def calmCourse (script : Script) (start : Stage) : Course :=
  .ofRun ((script.calm.migration.run .interactive script.calm.interaction).run start)

theorem course_of_uninformed (entries : List (Account × String))
    (informed : (Stage.opened settings secrets entries).credential.hasAnyInfo = false) :
    let start := Stage.opened settings secrets entries
    (script.calmCourse start).AsksNobody ∧ (script.calmCourse start).EndsUntouched start {} := by
  intro start
  obtain ⟨reports, ran⟩ := script.calm_run start rfl
  rw [informed] at ran
  rw [calmCourse, ran]
  exact ⟨⟨rfl, rfl⟩, untouched_noting settings secrets entries {} _ reports rfl⟩

theorem course_of_occupied (entries : List (Account × String))
    (informed : (Stage.opened settings secrets entries).credential.hasAnyInfo = true)
    (occupied : entries ≠ []) :
    let start := Stage.opened settings secrets entries
    (script.calmCourse start).AsksNobody ∧ (script.calmCourse start).Discards start := by
  intro start
  obtain ⟨reports, ran⟩ := script.calm_run start rfl
  have others : start.accounts.entries ≠ [] := occupied
  rw [informed, if_pos rfl, if_neg others, if_neg others] at ran
  obtain ⟨lookups, forms, carried⟩ := script.calm_finish settings secrets entries
    .nothingToMigrate (start.snapshotCalls ++ [.listAccounts (.ok start.accounts.accounts)])
    reports rfl (.inl rfl)
  rw [calmCourse, ran]
  exact ⟨⟨lookups, forms⟩, carried⟩

theorem course_of_alone
    (informed : (Stage.opened settings secrets []).credential.hasAnyInfo = true) :
    let start := Stage.opened settings secrets []
    let course := script.calmCourse start
    course.lookups = (script.lookups start.credential).filterMap MigrationCall.lookup? ∧
      course.forms = (script.form? start.credential).toList ∧
      course.CarriesOut start (script.newId 0) (script.decision start.credential) := by
  intro start course
  obtain ⟨reports, ran⟩ := script.calm_run start rfl
  have alone : start.accounts.entries = [] := rfl
  rw [informed, if_pos rfl, if_pos alone, if_pos alone] at ran
  obtain ⟨quiet, looked, shown⟩ := script.dealings_observed start.credential
  obtain ⟨lookups, forms, carried⟩ := script.calm_finish settings secrets []
    (script.decision start.credential) (start.snapshotCalls ++
      .listAccounts (.ok start.accounts.accounts) :: script.dealings start.credential) reports
    (by simpa [Stage.snapshotCalls, MigrationCall.isWrite] using quiet) (.inr rfl)
  have ended : course = .ofRun _ := congrArg Course.ofRun ran
  rw [ended]
  exact ⟨lookups.trans looked, forms.trans shown, carried⟩

theorem informed_of_token {start : Stage} {token : String} (held : start.HoldsToken token) :
    start.credential.hasAnyInfo = true := by
  unfold LegacyCredential.hasAnyInfo
  rw [held.mode]
  simp

theorem asks_after_failure (token : String) (failure : LookupFailure)
    (held : (Stage.opened settings secrets []).HoldsToken token)
    (failed : script.verdict (Stage.opened settings secrets []).credential.hostOrDefault token =
      .error failure) :
    let start := Stage.opened settings secrets []
    let course := script.calmCourse start
    course.lookups = (script.lookupCalls start.credential.hostOrDefault token).filterMap
        MigrationCall.lookup? ∧
      course.Asks start script (start.credential.formAfter token failure) := by
  intro start course
  obtain ⟨lookups, forms, carried⟩ :=
    script.course_of_alone settings secrets (informed_of_token held)
  simp only [Script.lookups, form?, decision, held.mode, held.secret, failed]
    at lookups forms carried
  exact ⟨lookups, script.asks_of_confirmation forms carried⟩

theorem looked_up_on_server (legacy : LegacyCredential) (token : String) (server : ServerAddress)
    (host : ServerAddress.readHost legacy.host = .ok server) :
    script.verdict legacy.hostOrDefault token =
        (script.checked server token).map (fun login => (login, server)) ∧
      (script.lookupCalls legacy.hostOrDefault token).filterMap MigrationCall.lookup? =
        [(server, token)] := by
  have address : ServerAddress.readHost (some legacy.hostOrDefault) = .ok server := host
  unfold verdict lookupCalls
  rw [address]
  exact ⟨rfl, rfl⟩

theorem asks_on_server (token : String) (server : ServerAddress) (failure : LookupFailure)
    (held : (Stage.opened settings secrets []).HoldsToken token)
    (host : ServerAddress.readHost (Stage.opened settings secrets []).credential.host = .ok server)
    (failed : script.checked server token = .error failure) :
    let start := Stage.opened settings secrets []
    let course := script.calmCourse start
    course.lookups = [(server, token)] ∧
      course.Asks start script (start.credential.formAfter token failure) := by
  intro start course
  obtain ⟨verdict, once⟩ := script.looked_up_on_server start.credential token server host
  obtain ⟨lookups, asked⟩ := script.asks_after_failure settings secrets token failure held
    (by rw [verdict, failed]; rfl)
  exact ⟨lookups.trans once, asked⟩

theorem registers_on_server (token login : String) (server : ServerAddress)
    (held : (Stage.opened settings secrets []).HoldsToken token)
    (host : ServerAddress.readHost (Stage.opened settings secrets []).credential.host = .ok server)
    (confirmed : script.checked server token = .ok login) :
    let start := Stage.opened settings secrets []
    let course := script.calmCourse start
    course.lookups = [(server, token)] ∧ course.forms = [] ∧
      course.Settles start (script.newId 0) login server token := by
  intro start course
  obtain ⟨verdict, once⟩ := script.looked_up_on_server start.credential token server host
  rw [confirmed] at verdict
  obtain ⟨lookups, forms, carried⟩ :=
    script.course_of_alone settings secrets (informed_of_token held)
  simp only [Script.lookups, form?, decision, held.mode, held.secret] at lookups forms carried
  rw [verdict] at forms carried
  exact ⟨lookups.trans once, forms, carried⟩

end Script

/-- A migration follows its protocol, for every legacy account, every list of accounts and
whatever its collaborators answer. -/
theorem run_followsProtocol (script : Script) (settings : LegacySettings) (secrets : SecretTable)
    (entries : List (Account × String)) :
    let start := Stage.opened settings secrets entries
    FollowsProtocol script start (script.calmCourse start) where
  nothingKnown := by
    intro unknown
    exact script.course_of_uninformed settings secrets entries (by rw [unknown]; rfl)
  otherAccounts := by
    intro known occupied
    have informed := (LegacyCredential.hasAnyInfo_iff _).mpr known
    exact script.course_of_occupied settings secrets entries informed occupied
  badHost := by
    intro token failure held host
    obtain rfl : entries = [] := held.alone
    have address : ServerAddress.readHost
        (some (Stage.opened settings secrets []).credential.hostOrDefault) = .error failure := host
    obtain ⟨lookups, asked⟩ := script.asks_after_failure settings secrets token _ held
      (by rw [Script.verdict, address])
    refine ⟨?_, asked⟩
    rw [lookups, Script.lookupCalls, address]
    rfl
  found := by
    intro token server login held host kept finish
    obtain rfl : entries = [] := held.alone
    refine script.registers_on_server settings secrets token login server held host ?_
    rw [Script.checked, kept, finish]
    rfl
  refused := by
    intro token server failure held host kept finish
    obtain rfl : entries = [] := held.alone
    refine script.asks_on_server settings secrets token server failure held host ?_
    rw [Script.checked, kept, finish]
    rfl
  crashed := by
    intro token server reason held host kept finish
    obtain rfl : entries = [] := held.alone
    refine script.asks_on_server settings secrets token server _ held host ?_
    rw [Script.checked, kept, finish]
    rfl
  cancelled := by
    intro token server held host cancelled
    obtain rfl : entries = [] := held.alone
    refine script.asks_on_server settings secrets token server _ held host ?_
    rw [Script.checked, cancelled]
    rfl
  password := by
    intro alone mode
    obtain rfl : entries = [] := alone
    have informed : (Stage.opened settings secrets []).credential.hasAnyInfo = true := by
      unfold LegacyCredential.hasAnyInfo
      rw [mode]
      simp
    obtain ⟨lookups, forms, carried⟩ := script.course_of_alone settings secrets informed
    simp only [Script.lookups, Script.form?, Script.decision, mode] at lookups forms carried
    exact ⟨lookups, script.asks_of_confirmation forms carried⟩
  nothingToMigrate := by
    intro known alone idle
    obtain rfl : entries = [] := alone
    have informed := (LegacyCredential.hasAnyInfo_iff _).mpr known
    obtain ⟨lookups, forms, carried⟩ := script.course_of_alone settings secrets informed
    rcases idle with mode | ⟨mode, secret⟩
    · simp only [Script.lookups, Script.form?, Script.decision, mode] at lookups forms carried
      exact ⟨⟨lookups, forms⟩, carried⟩
    · simp only [Script.lookups, Script.form?, Script.decision, mode, secret]
        at lookups forms carried
      exact ⟨⟨lookups, forms⟩, carried⟩

end AccountKeeper
