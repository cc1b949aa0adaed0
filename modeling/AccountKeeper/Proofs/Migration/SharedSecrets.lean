import AccountKeeper.Proofs.Accounts.TokenBinding
import AccountKeeper.Proofs.Migration.Erasure
import AccountKeeper.Proofs.Migration.Phases
import AccountKeeper.Proofs.Secrets.Mirror

/-!
# One store of secrets for old and new accounts

The legacy store and the register write to the same secrets.  A migration
touches two keys of them at most, the legacy one and that of the account it
registers; `run_shares` says what is under these keys in the end, whichever
settings, lists, answers and failures it meets on the way to an outcome.
-/

set_option autoImplicit false

namespace AccountKeeper

/-- A desk of a register, next to the place where the legacy settings are kept. -/
structure Household (τ : Type) where
  desk : Desk
  settings : τ
  draws : Nat := 0

namespace Household

variable {τ : Type}

instance : Journal (Household τ) where
  record entry household := { household with desk := Journal.record entry household.desk }

def deskPart : Part (Household τ) Desk where
  get household := household.desk
  set desk household := { household with desk }

def settingsPart : Part (Household τ) τ where
  get household := household.settings
  set settings household := { household with settings }

def resolver (script : Script) : Resolver (Household τ) where
  lookup server token := return script.lookup server token

def interaction (script : Script) : Interaction (Household τ) where
  indicator :=
    { start := fun _ => return ()
      moves := fun duration => return script.moves duration
      stop := fun _ => return () }
  prompt := { ask := fun request => return script.answer request }

def freshId (script : Script) : StateM (Household τ) AccountId := do
  let household ← get
  set { household with draws := household.draws + 1 }
  return script.newId household.draws

/-- The legacy store and the store of accounts over one store of secrets. -/
def migration (outages : Outages) (path : String) (store : LegacySettingsStore τ)
    (script : Script) : Migration (Household τ) where
  legacy := ⟨store.on settingsPart, outages.secretStore.on deskPart⟩
  accounts := (outages.register path).store.on deskPart
  resolver := resolver script
  freshId := freshId script

def secret (household : Household τ) (key : String) : Option String :=
  household.desk.secrets.get? key

/-- Neither the secrets nor the listed accounts have changed. -/
structure Untouched (before after : Household τ) : Prop where
  secrets : after.desk.secrets = before.desk.secrets
  listed : after.desk.listed = before.desk.listed

namespace Untouched

variable {first second third : Household τ}

theorem refl (household : Household τ) : household.Untouched household := ⟨rfl, rfl⟩

theorem trans (before : first.Untouched second) (after : second.Untouched third) :
    first.Untouched third :=
  ⟨after.secrets.trans before.secrets, after.listed.trans before.listed⟩

theorem record (untouched : first.Untouched second) (entry : JournalEntry) :
    first.Untouched (Journal.record entry second) :=
  ⟨untouched.secrets, untouched.listed⟩

theorem secret (untouched : first.Untouched second) (key : String) :
    second.secret key = first.secret key := by
  unfold Household.secret
  rw [untouched.secrets]

end Untouched

/-! ## Up to the decision -/

section Deciding

variable (outages : Outages) (path : String) (store : LegacySettingsStore τ) (script : Script)
  (household : Household τ)

theorem run_getSecret (key : String) :
    ((migration outages path store script).legacy.secrets.get key).run household =
      match outages.secrets household.desk.secretCalls with
      | some failure =>
        (.error (.credential failure), { household with desk := household.desk.called })
      | none => (.ok (household.secret key), { household with desk := household.desk.called }) := by
  change ((deskPart (τ := τ)).lift (outages.secretStore.get key)).run household = _
  have ran : (outages.secretStore.get key).run household.desk =
      match outages.secrets household.desk.secretCalls with
      | some failure => (.error (.credential failure), household.desk.called)
      | none => (.ok (household.secret key), household.desk.called) := rfl
  rw [Part.run_lift, show deskPart.get household = household.desk from rfl, ran]
  cases outages.secrets household.desk.secretCalls <;> rfl

theorem run_eraseSecret (key : String) :
    ((migration outages path store script).legacy.secrets.set key none).run household =
      match outages.secrets household.desk.secretCalls with
      | some failure =>
        (.error (.credential failure), { household with desk := household.desk.called })
      | none => (.ok (), { household with desk := household.desk.storing key none }) := by
  change ((deskPart (τ := τ)).lift (outages.secretStore.set key none)).run household = _
  rw [Part.run_lift, show deskPart.get household = household.desk from rfl,
    outages.run_setSecret household.desk]
  cases outages.secrets household.desk.secretCalls <;> rfl

theorem readSnapshot_eq_ok {legacy : LegacyCredential} {read : Household τ}
    (snapshot : (migration outages path store script).legacy.readSnapshot.run household =
      (.ok legacy, read)) :
    household.Untouched read ∧ ∃ settings, (store.read.run household.settings).1 = .ok settings ∧
      legacy = .ofParts settings (household.secret legacySecretKey) := by
  have reads : (migration outages path store script).legacy.settings.read.run household =
      ((store.read.run household.settings).1,
        { household with settings := (store.read.run household.settings).2 }) := rfl
  rw [LegacyStore.run_readSnapshot, reads] at snapshot
  cases answer : (store.read.run household.settings).1 with
  | error failure =>
    rw [answer] at snapshot
    cases snapshot
  | ok settings =>
    rw [answer] at snapshot
    dsimp only at snapshot
    rw [run_getSecret] at snapshot
    cases fails : outages.secrets household.desk.secretCalls with
    | some failure =>
      simp only [fails] at snapshot
      cases snapshot
    | none =>
      simp only [fails] at snapshot
      cases snapshot
      exact ⟨⟨rfl, rfl⟩, settings, rfl, rfl⟩

theorem run_validate (server : ServerAddress) (token : String) :
    let ended := StateT.run
      ((resolver script).validate .interactive (interaction script).indicator server token) household
    ended.1 = script.checked server token ∧ household.Untouched ended.2 := by
  intro ended
  have ran : ended = _ := (resolver script).run_validate (interaction script).indicator server token
    household household household household (script.lookup server token)
    (script.moves (script.lookup server token).duration) rfl rfl rfl
  rw [ran, Script.checked_eq]
  unfold Script.cancelsLookup
  split
  · exact ⟨rfl, (Untouched.refl household).record _⟩
  · exact ⟨rfl, .refl household⟩

theorem run_resolve (host token : String) :
    let ended := StateT.run ((migration outages path store script).resolve
      (interaction script).indicator host token) household
    ended.1 = script.verdict host token ∧ household.Untouched ended.2 := by
  intro ended
  have ran : ended = _ := (migration outages path store script).run_resolve household
    (interaction script).indicator host token
  rw [ran]
  unfold Script.verdict
  cases ServerAddress.readHost (some host) with
  | error failure => exact ⟨rfl, (Untouched.refl household).record _⟩
  | ok server =>
    obtain ⟨answer, untouched⟩ := run_validate script household server token
    exact ⟨congrArg (Except.map _) answer, untouched⟩

theorem run_ask (request : LoginRequest) :
    let ended := StateT.run ((interaction (τ := τ) script).prompt.decide request) household
    ended.1 = script.confirmation request ∧ household.Untouched ended.2 := by
  intro ended
  have ran : ended = _ := (interaction script).prompt.run_decide request household
  have asked : StateT.run ((interaction (τ := τ) script).prompt.ask request)
      (Journal.record ⟨.reauth, .debug, "Requesting credentials for " ++ request.server⟩
        household) =
      (script.answer request, Journal.record
        ⟨.reauth, .debug, "Requesting credentials for " ++ request.server⟩ household) := rfl
  rw [ran, asked]
  unfold Script.confirmation
  cases script.answer request with
  | none => exact ⟨rfl, ((Untouched.refl household).record _).record _⟩
  | some confirmed => exact ⟨rfl, ((Untouched.refl household).record _).record _⟩

theorem run_decideToken (host token : String) :
    let ended := StateT.run ((migration outages path store script).decideToken
      (interaction script) host token) household
    (ended.1 = match script.verdict host token with
      | .ok (login, server) => .register login server token
      | .error failure => script.confirmation (.afterFailedLookup host token failure)) ∧
      household.Untouched ended.2 := by
  intro ended
  have ran : ended = _ := (migration outages path store script).run_decideToken
    (interaction script) household host token
  obtain ⟨answer, untouched⟩ := run_resolve outages path store script
    (Journal.record ⟨.migration, .debug, "Migrating token auth"⟩ household) host token
  have resolved := ((Untouched.refl household).record _).trans untouched
  rw [ran]
  dsimp only
  rw [answer]
  cases script.verdict host token with
  | ok found => exact ⟨rfl, resolved⟩
  | error failure =>
    obtain ⟨answer, asked⟩ := run_ask script _ (.afterFailedLookup host token failure)
    exact ⟨answer, (resolved.record _).trans asked⟩

theorem run_decide (legacy : LegacyCredential) :
    let ended := StateT.run ((migration outages path store script).decide
      (interaction script) legacy) household
    ended.1 = script.decision legacy ∧ household.Untouched ended.2 := by
  intro ended
  unfold Script.decision
  cases mode : legacy.authMode with
  | none =>
    rw [show ended = _ from Migration.run_decide_none mode]
    exact ⟨rfl, .refl household⟩
  | basic =>
    obtain ⟨answer, untouched⟩ := run_ask script
      (Journal.record ⟨.migration, .debug, "Migrating basic auth"⟩ household)
      (.forPasswordAccount legacy.hostOrDefault legacy.login legacy.secret)
    rw [show ended = _ from Migration.run_decide_basic mode]
    exact ⟨answer, ((Untouched.refl household).record _).trans untouched⟩
  | token =>
    cases secret : legacy.secret with
    | none =>
      rw [show ended = _ from Migration.run_decide_no_token mode secret]
      exact ⟨rfl, (Untouched.refl household).record _⟩
    | some token =>
      rw [show ended = _ from Migration.run_decide_token mode secret]
      exact run_decideToken outages path store script household legacy.hostOrDefault token

/-! ## After the decision -/

theorem clear_eq_ok {cleared : Household τ}
    (clears : (migration outages path store script).legacy.clear.run household =
      (.ok (), cleared)) :
    cleared.desk.listed = household.desk.listed ∧
      ∀ key, cleared.secret key =
        if key = legacySecretKey then none else household.secret key := by
  have erases : (migration outages path store script).legacy.settings.clear.run household =
      ((store.clear.run household.settings).1,
        { household with settings := (store.clear.run household.settings).2 }) := rfl
  rw [LegacyStore.run_clear, erases] at clears
  cases answer : (store.clear.run household.settings).1 with
  | error failure =>
    rw [answer] at clears
    cases clears
  | ok _ =>
    rw [answer] at clears
    dsimp only at clears
    rw [run_eraseSecret] at clears
    cases fails : outages.secrets household.desk.secretCalls with
    | some failure =>
      simp only [fails] at clears
      cases clears
    | none =>
      simp only [fails] at clears
      cases clears
      exact ⟨rfl, fun key => SecretTable.get?_put _ _ _ _⟩

theorem register_eq_ok {login token : String} {server : ServerAddress} {step : MigrationStep}
    {registered : Household τ}
    (registers : ((migration outages path store script).register login server token).run household =
      (.ok step, registered)) :
    ∃ account : Account, account.login = login ∧ account.server = server ∧
      step = .registered account ∧
      registered.desk.listed = household.desk.listed ++ [account] ∧
      ∀ key, registered.secret key =
        if key = account.id.secretKey then some token else household.secret key := by
  rw [Migration.run_register] at registers
  have drawn : StateT.run (migration outages path store script).freshId household =
      (script.newId household.draws, { household with draws := household.draws + 1 }) := rfl
  rw [drawn] at registers
  dsimp only at registers
  let account : Account := ⟨script.newId household.draws, login, server⟩
  have adds : ((migration outages path store script).accounts.add account token).run
      { household with draws := household.draws + 1 } =
        ((((outages.register path).add account token).run household.desk).1,
          { household with
            desk := (((outages.register path).add account token).run household.desk).2
            draws := household.draws + 1 }) := rfl
  rw [adds] at registers
  cases answer : (((outages.register path).add account token).run household.desk).1 with
  | error failure =>
    rw [answer] at registers
    cases registers
  | ok _ =>
    rw [answer] at registers
    cases registers
    obtain ⟨_, listed, _, secrets⟩ :=
      outages.add_ok path household.desk account token answer
    exact ⟨account, rfl, rfl, rfl, listed, secrets⟩

/-- What becomes of a credential with information: nothing is touched, or one account is added. -/
inductive Settled (script : Script) (legacy : LegacyCredential) (before : Household τ) :
    MigrationStep → Household τ → Prop where
  | kept {step : MigrationStep} {after : Household τ} (untouched : before.Untouched after)
      (unregistered : ∀ account, step ≠ .registered account) :
      Settled script legacy before step after
  | registered {after : Household τ} (account : Account) (token : String)
      (alone : before.desk.listed = [])
      (decided : script.decision legacy = .register account.login account.server token)
      (listed : after.desk.listed = before.desk.listed ++ [account])
      (secrets : ∀ key, after.secret key =
        if key = account.id.secretKey then some token else before.secret key) :
      Settled script legacy before (.registered account) after

theorem Settled.of_untouched {script : Script} {legacy : LegacyCredential} {step : MigrationStep}
    {before known settled : Household τ} (untouched : before.Untouched known)
    (result : Settled script legacy known step settled) :
    Settled script legacy before step settled := by
  cases result with
  | kept kept unregistered => exact .kept (untouched.trans kept) unregistered
  | registered account token alone decided listed secrets =>
    refine .registered account token ?_ decided ?_ ?_
    · rw [← untouched.listed, alone]
    · rw [listed, untouched.listed]
    · intro key
      rw [secrets, untouched.secret]

theorem settle_eq_ok {legacy : LegacyCredential} {step : MigrationStep} {settled : Household τ}
    (settles : ((migration outages path store script).settle (interaction script) legacy).run
      household = (.ok step, settled)) : Settled script legacy household step settled := by
  rw [Migration.run_settle] at settles
  have lists : (migration outages path store script).accounts.list.run household =
      (.ok household.desk.listed, household) := rfl
  rw [lists] at settles
  dsimp only at settles
  by_cases alone : household.desk.listed = []
  · rw [if_pos alone] at settles
    obtain ⟨decided, untouched⟩ := run_decide outages path store script household legacy
    rw [decided] at settles
    cases decision : script.decision legacy with
    | nothingToMigrate =>
      rw [decision] at settles
      cases settles
      exact .kept untouched (by simp)
    | cancelled =>
      rw [decision] at settles
      cases settles
      exact .kept untouched (by simp)
    | register login server token =>
      rw [decision] at settles
      obtain ⟨account, rfl, rfl, rfl, listed, secrets⟩ :=
        register_eq_ok outages path store script _ settles
      refine .registered account token alone decision ?_ ?_
      · rw [listed, untouched.listed]
      · intro key
        rw [secrets, untouched.secret]
  · rw [if_neg alone] at settles
    cases settles
    exact .kept ((Untouched.refl household).record _) (by simp)

end Deciding

/-! ## Whole runs -/

/-- Where a registered token comes from. -/
inductive Granted (script : Script) (legacy : LegacyCredential) (account : Account)
    (token : String) : Prop where
  /-- It is the stored token of a token account, and its server reported the login. -/
  | validated (mode : legacy.authMode = .token) (stored : legacy.secret = some token)
      (address : ServerAddress.readHost legacy.host = .ok account.server)
      (checked : script.checked account.server token = .ok account.login)
  /-- The user confirmed it on the login form that was shown. -/
  | confirmed (request : LoginRequest) (shown : script.form? legacy = some request)
      (answer : script.answer request = some ⟨account.login, account.server, token⟩)

theorem granted_of_decision {script : Script} {legacy : LegacyCredential} {account : Account}
    {token : String}
    (decided : script.decision legacy = .register account.login account.server token) :
    Granted script legacy account token := by
  unfold Script.decision at decided
  split at decided
  · rename_i secret mode stored
    cases found : script.verdict legacy.hostOrDefault secret with
    | ok answer =>
      obtain ⟨login, server⟩ := answer
      rw [found] at decided
      obtain ⟨rfl, rfl, rfl⟩ := Decision.register.inj decided
      unfold Script.verdict at found
      cases address : ServerAddress.readHost (some legacy.hostOrDefault) with
      | error failure =>
        rw [address] at found
        cases found
      | ok server =>
        rw [address] at found
        dsimp only at found
        cases checked : script.checked server secret with
        | error failure =>
          rw [checked] at found
          cases found
        | ok login =>
          rw [checked] at found
          obtain ⟨rfl, rfl⟩ := Prod.mk.inj (Except.ok.inj found)
          exact .validated mode stored address checked
    | error failure =>
      rw [found] at decided
      refine .confirmed (.afterFailedLookup legacy.hostOrDefault secret failure) ?_
        (script.confirmation_register _ _ _ _ decided)
      unfold Script.form?
      rw [mode, stored]
      simp only [found]
  · rename_i mode
    refine .confirmed (.forPasswordAccount legacy.hostOrDefault legacy.login legacy.secret) ?_
      (script.confirmation_register _ _ _ _ decided)
    unfold Script.form?
    rw [mode]
  · cases decided

/-- What a migration with an outcome leaves of the secrets and the list of accounts. -/
structure Shares (outages : Outages) (path : String) (script : Script) (legacy : LegacyCredential)
    (before after : Household τ) (outcome : MigrationOutcome) : Prop where
  /-- No other secrets change than the legacy one and the token of the new account. -/
  changed : ∀ key, after.secret key ≠ before.secret key → key = legacySecretKey ∨
    ∃ account, outcome.account = some account ∧ key = account.id.secretKey
  registered : ∀ account, outcome.account = some account → ∃ token,
    after.secret account.id.secretKey = some token ∧ Granted script legacy account token
  erased : after.secret legacySecretKey = none ↔
    before.secret legacySecretKey = none ∨ outcome.cancelled = false ∧ legacy.hasAnyInfo = true
  listed : after.desk.listed = before.desk.listed ++ outcome.account.toList
  /-- The accounts that were listed before still have their tokens; they are read unless the call
  on the secrets fails. -/
  tokens : ∀ account ∈ before.desk.listed,
    after.secret account.id.secretKey = before.secret account.id.secretKey ∧
      (((outages.register path).token account.id).run after.desk).1 =
        (outages.secrets after.desk.secretCalls).elim
          (.ok (before.secret account.id.secretKey)) fun failure => .error (.credential failure)

section Shares

variable {outages : Outages} {path : String} {store : LegacySettingsStore τ} {script : Script}
  {legacy : LegacyCredential} {before settled cleared : Household τ} {step : MigrationStep}

theorem Untouched.shares (untouched : before.Untouched cleared) {outcome : MigrationOutcome}
    (unregistered : outcome.account = none)
    (idle : outcome.cancelled = true ∨ legacy.hasAnyInfo = false) :
    Shares outages path script legacy before cleared outcome where
  changed := fun key differs => absurd (untouched.secret key) differs
  registered := by
    intro account registered
    rw [unregistered] at registered
    cases registered
  erased := by
    rw [untouched.secret]
    refine ⟨Or.inl, ?_⟩
    rintro (unregistered | ⟨cancelled, informed⟩)
    · exact unregistered
    · rcases idle with idle | idle
      · rw [idle] at cancelled
        cases cancelled
      · rw [idle] at informed
        cases informed
  listed := by
    rw [unregistered, untouched.listed]
    exact (List.append_nil _).symm
  tokens := by
    intro account _
    refine ⟨untouched.secret _, ?_⟩
    rw [outages.run_token path, ← untouched.secret]
    cases outages.secrets cleared.desk.secretCalls <;> rfl

/-- A step whose legacy data is cleared afterwards. -/
theorem Settled.shares (result : Settled script legacy before step settled)
    (informed : legacy.hasAnyInfo = true) (uncancelled : step ≠ .cancelled)
    (listed : cleared.desk.listed = settled.desk.listed)
    (secrets : ∀ key, cleared.secret key =
      if key = legacySecretKey then none else settled.secret key) :
    Shares outages path script legacy before cleared step.outcome := by
  have gone : cleared.secret legacySecretKey = none := (secrets _).trans (if_pos rfl)
  have spared : ∀ id : AccountId, cleared.secret id.secretKey = settled.secret id.secretKey :=
    fun id => (secrets _).trans (if_neg (SecretKey.secretKey_ne_legacy id))
  have erased : cleared.secret legacySecretKey = none ↔ before.secret legacySecretKey = none ∨
      step.outcome.cancelled = false ∧ legacy.hasAnyInfo = true := by
    exact ⟨fun _ => .inr ⟨MigrationStep.outcome_uncancelled uncancelled, informed⟩, fun _ => gone⟩
  have read : ∀ account : Account,
      cleared.secret account.id.secretKey = before.secret account.id.secretKey →
      cleared.secret account.id.secretKey = before.secret account.id.secretKey ∧
      (((outages.register path).token account.id).run cleared.desk).1 =
        (outages.secrets cleared.desk.secretCalls).elim
          (.ok (before.secret account.id.secretKey)) fun failure =>
            .error (.credential failure) := by
    intro account kept
    refine ⟨kept, ?_⟩
    rw [outages.run_token path, ← kept]
    cases outages.secrets cleared.desk.secretCalls <;> rfl
  cases result with
  | kept untouched unregistered =>
    have unregistered : step.outcome.account = none := by
      cases step with
      | registered account => exact absurd rfl (unregistered account)
      | nothingToMigrate => rfl
      | cancelled => rfl
    refine ⟨?_, ?_, erased, ?_, ?_⟩
    · intro key differs
      refine .inl (Classical.byContradiction fun other => differs ?_)
      rw [secrets, if_neg other, untouched.secret]
    · intro account registered
      rw [unregistered] at registered
      cases registered
    · rw [listed, untouched.listed, unregistered]
      exact (List.append_nil _).symm
    · intro account _
      exact read account ((spared _).trans (untouched.secret _))
  | registered account token alone decided grown granted =>
    refine ⟨?_, ?_, erased, listed.trans grown, ?_⟩
    · intro key differs
      by_cases old : key = legacySecretKey
      · exact .inl old
      · refine .inr ⟨account, rfl, Classical.byContradiction fun other => differs ?_⟩
        rw [secrets, if_neg old, granted, if_neg other]
    · rintro _ ⟨⟩
      refine ⟨token, ?_, granted_of_decision decided⟩
      rw [spared, granted, if_pos rfl]
    · intro account member
      rw [alone] at member
      cases member

end Shares

/-- Whatever settings, secrets, accounts and answers a migration finds: if it ends with an outcome,
it has written to the legacy key and to that of the account it registered, and to no others. -/
theorem run_shares (outages : Outages) (path : String) (store : LegacySettingsStore τ)
    (script : Script) (caller : Caller) (before after : Household τ) (outcome : MigrationOutcome)
    (ran : ((migration outages path store script).run caller (interaction script)).run before =
      (.ok outcome, after)) :
    ∃ settings, (store.read.run before.settings).1 = .ok settings ∧
      Shares outages path script (.ofParts settings (before.secret legacySecretKey))
        before after outcome := by
  cases caller with
  | runtime =>
    rw [Migration.run_runtime] at ran
    cases ran
  | interactive =>
    rw [Migration.run_interactive] at ran
    split at ran
    · cases ran
    · rename_i legacy read snapshot
      obtain ⟨untouched, settings, answer, rfl⟩ :=
        readSnapshot_eq_ok outages path store script _ snapshot
      have known := (((Untouched.refl before).record _).trans untouched).record
        ⟨.migration, .debug, "Legacy auth data: " ++ (LegacyCredential.ofParts settings
          ((Journal.record ⟨.migration, .debug, "Migrating legacy auth"⟩ before).secret
            legacySecretKey)).display⟩
      refine ⟨settings, answer, ?_⟩
      dsimp only at ran
      split at ran
      · rename_i informed
        rw [ActionE.run_bind] at ran
        split at ran
        · rename_i step settled settles
          have result := (settle_eq_ok outages path store script _ settles).of_untouched known
          rw [Migration.run_conclude] at ran
          by_cases uncancelled : step = .cancelled
          · rw [if_pos uncancelled] at ran
            cases ran
            cases result with
            | kept untouched _ => exact untouched.shares rfl (.inl rfl)
            | registered account => cases uncancelled
          · rw [if_neg uncancelled] at ran
            cases answer : ((migration outages path store script).legacy.clear.run settled).1 with
            | error failure =>
              rw [answer] at ran
              cases ran
            | ok _ =>
              rw [answer] at ran
              obtain ⟨listed, secrets⟩ := clear_eq_ok outages path store script settled
                (Prod.ext answer rfl)
              cases ran
              exact result.shares informed uncancelled listed secrets
        · cases ran
      · rename_i uninformed
        cases ran
        exact known.shares rfl (.inr (Bool.eq_false_iff.mpr uninformed))

/-- A household with a legacy token and a secret that belongs to no account. -/
def withToken : Household SettingsRecord where
  desk := { secrets := { entries :=
    [(legacySecretKey, "t"), (Account.bob.id.secretKey, "left over")] } }
  settings := { settings := { authMode := .token } }

theorem run_shares_of_token :
    let script : Script :=
      { lookup := fun _ _ => ⟨.value (.ok "alice"), 0⟩
        answer := fun _ => none
        moves := fun _ => [.taskEnds, .poll]
        newId := fun _ => Account.alice.id
        outage := fun _ => none }
    let ended := ((migration .never "accounts.toml" SettingsRecord.store script).run .interactive
      (interaction script)).run withToken
    let outcome : MigrationOutcome := { account := some .alice, legacyCleared := true }
    ended.1 = .ok outcome ∧
      ∃ settings, (SettingsRecord.store.read.run withToken.settings).1 = .ok settings ∧
        Shares .never "accounts.toml" script
          (.ofParts settings (withToken.secret legacySecretKey)) withToken ended.2 outcome := by
  intro script ended outcome
  have ran : ended.1 = .ok outcome := by
    have completed : ended.1.toOption = some outcome := by decide +kernel
    cases answer : ended.1 with
    | error failure =>
      rw [answer] at completed
      cases completed
    | ok found =>
      rw [answer] at completed
      cases completed
      rfl
  exact ⟨ran, run_shares .never "accounts.toml" SettingsRecord.store script .interactive withToken
    ended.2 outcome (Prod.ext ran rfl)⟩

end Household

end AccountKeeper
