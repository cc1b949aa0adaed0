import AccountKeeper.Proofs.Migration.SharedSecrets
import AccountKeeper.Proofs.Parallel
import Mathlib.Data.List.Forall2

/-!
# What a migration shows of a secret

Two migrations that find different secrets, and get the same answers about
them, can only be told apart by the tokens that they hand on.  Their outcomes,
their failures, what they report, the titles they show and the login forms
apart from the token are the same.
-/

set_option autoImplicit false

namespace AccountKeeper

/-! ## What stays the same -/

/-- The requests are equal except for the token. -/
structure LoginRequest.Alike (request other : LoginRequest) : Prop where
  server : request.server = other.server
  login : request.login = other.login
  given : request.token.isSome = other.token.isSome
  error : request.error = other.error
  message : request.message = other.message

theorem LoginRequest.Alike.display {request other : LoginRequest} (alike : request.Alike other) :
    request.display = other.display := by
  unfold LoginRequest.display
  rw [alike.server, alike.login, alike.given, alike.error, alike.message]

/-- The logins are equal except for the token. -/
structure ConfirmedLogin.Alike (confirmed other : ConfirmedLogin) : Prop where
  login : confirmed.login = other.login
  server : confirmed.server = other.server

theorem ConfirmedLogin.Alike.display {confirmed other : ConfirmedLogin}
    (alike : confirmed.Alike other) : confirmed.display = other.display := by
  unfold ConfirmedLogin.display
  rw [alike.login, alike.server]

theorem LegacyCredential.display_ofParts (settings : LegacySettings) (secret other : String) :
    (ofParts settings (some secret)).display = (ofParts settings (some other)).display ∧
      (ofParts settings (some secret)).displayWide =
        (ofParts settings (some other)).displayWide := ⟨rfl, rfl⟩

/-- The accounts are equal except for the identifier. -/
structure Account.Renumbered (account other : Account) : Prop where
  login : account.login = other.login
  server : account.server = other.server

theorem Account.Renumbered.display {account other : Account} (alike : account.Renumbered other) :
    account.display = other.display := by
  unfold Account.display
  rw [alike.login, alike.server]

inductive Decision.Alike : Decision → Decision → Prop where
  | nothingToMigrate : Alike .nothingToMigrate .nothingToMigrate
  | cancelled : Alike .cancelled .cancelled
  | register (login : String) (server : ServerAddress) (token other : String) :
      Alike (.register login server token) (.register login server other)

inductive MigrationStep.Alike : MigrationStep → MigrationStep → Prop where
  | nothingToMigrate : Alike .nothingToMigrate .nothingToMigrate
  | cancelled : Alike .cancelled .cancelled
  | registered {account other : Account} (renumbered : account.Renumbered other) :
      Alike (.registered account) (.registered other)

/-- The outcomes are equal except for the identifier of a new account. -/
structure MigrationOutcome.Alike (outcome other : MigrationOutcome) : Prop where
  account : Option.Rel Account.Renumbered outcome.account other.account
  legacyCleared : outcome.legacyCleared = other.legacyCleared
  cancelled : outcome.cancelled = other.cancelled

/-- The collaborators answer alike, one about a secret and the other about another one. -/
structure Script.Alike (secret other : String) (script script' : Script) : Prop where
  lookup : ∀ server, script.lookup server secret = script'.lookup server other
  answer : ∀ request request', LoginRequest.Alike request request' →
    Option.Rel ConfirmedLogin.Alike (script.answer request) (script'.answer request')
  moves : script.moves = script'.moves

theorem Indicator.parallel_await {σ τ α : Type} [Journal σ] [Journal τ] {related : σ → τ → Prop}
    (recorded : Recorded related) {indicator : Indicator σ} {indicator' : Indicator τ}
    (start : ∀ title, Parallel related Eq (indicator.start title) (indicator'.start title))
    (moves : ∀ duration, Parallel related Eq (indicator.moves duration) (indicator'.moves duration))
    (stop : ∀ cancelled, Parallel related Eq (indicator.stop cancelled) (indicator'.stop cancelled))
    {task : StateM σ (BackgroundTask α)} {task' : StateM τ (BackgroundTask α)}
    (tasks : Parallel related Eq task task') (title : String) :
    Parallel related Eq (indicator.await .interactive title task)
      (indicator'.await .interactive title task') := by
  unfold await
  rw [if_neg (by simp), if_neg (by simp)]
  refine .bind (start title) fun _ _ _ => .bind tasks ?_
  rintro started _ rfl
  refine .bind (moves started.duration) ?_
  rintro moves _ rfl
  refine .bind (stop _) fun _ _ _ => ?_
  split
  · exact .bind (.debug recorded _ _) fun _ _ _ => .pure rfl
  · exact .pure rfl

theorem forall₂_toList {α β : Type} {related : α → β → Prop} {a : Option α} {b : Option β}
    (same : Option.Rel related a b) : List.Forall₂ related a.toList b.toList := by
  cases same with
  | none => exact .nil
  | some same => exact .cons same .nil

/-! ## Desks -/

/-- Nothing but identifiers, secrets and the file of accounts tells the desks apart. -/
structure Desk.Alike (first second : Desk) : Prop where
  listed : List.Forall₂ Account.Renumbered first.listed second.listed
  secretCalls : first.secretCalls = second.secretCalls
  saves : first.saves = second.saves
  journal : first.journal = second.journal

namespace Desk.Alike

variable {first second : Desk}

theorem reporting (alike : first.Alike second) (entry : JournalEntry) :
    (first.reporting entry).Alike (second.reporting entry) :=
  { alike with journal := congrArg (· ++ [entry]) alike.journal }

theorem called (alike : first.Alike second) : first.called.Alike second.called :=
  { alike with secretCalls := congrArg (· + 1) alike.secretCalls }

theorem storing (alike : first.Alike second) (key key' : String) (value value' : Option String) :
    (first.storing key value).Alike (second.storing key' value') :=
  ⟨alike.listed, congrArg (· + 1) alike.secretCalls, alike.saves, alike.journal⟩

theorem listing (alike : first.Alike second) {listed listed' : List Account}
    (same : List.Forall₂ Account.Renumbered listed listed') :
    (first.listing listed).Alike (second.listing listed') :=
  { alike with listed := same }

theorem saving (alike : first.Alike second) (file file' : Option ByteArray) :
    (first.saving file).Alike (second.saving file') :=
  ⟨alike.listed, alike.secretCalls, congrArg (· + 1) alike.saves, alike.journal⟩

variable {account account' : Account} (renumbered : account.Renumbered account')

include renumbered

theorem enlisted (alike : first.Alike second) (outages : Outages) (token token' : String) :
    (outages.enlisted first account token).Alike (outages.enlisted second account' token') := by
  have grown : List.Forall₂ Account.Renumbered (first.listed ++ [account])
      (second.listed ++ [account']) := List.rel_append alike.listed (.cons renumbered .nil)
  exact ((alike.storing _ _ _ _).listing grown).saving _ _

theorem undone (alike : first.Alike second) (outages : Outages) {before before' : List Account}
    (same : List.Forall₂ Account.Renumbered before before') (cause : Failure) :
    (outages.undone first before account cause).Alike
      (outages.undone second before' account' cause) := by
  unfold Outages.undone
  rw [renumbered.display, alike.secretCalls]
  have restored := (alike.listing same).reporting ⟨.accounts, .warn,
    "Failed to persist account " ++ account'.display ++ ", rolling back: " ++ cause.message⟩
  cases outages.secrets second.secretCalls with
  | none => exact restored.storing _ _ _ _
  | some failure => exact restored.called.reporting _

/-- A desk without accounts takes an account or not, whatever identifier and token it has. -/
theorem add (alike : first.Alike second) (alone : first.listed = []) (outages : Outages)
    (path token token' : String) :
    let ended := ((outages.register path).add account token).run first
    let ended' := ((outages.register path).add account' token').run second
    Matches Eq ended.1 ended'.1 ∧ ended.2.Alike ended'.2 := by
  have alone' : second.listed = [] := by
    have listed := alike.listed
    rw [alone] at listed
    exact List.forall₂_nil_left_iff.mp listed
  have admitted : Outages.admission first.listed account =
      Outages.admission second.listed account' := by
    unfold Outages.admission
    rw [alone, alone', renumbered.login]
    rfl
  rw [outages.run_add, outages.run_add, admitted, alike.secretCalls, alike.saves]
  cases Outages.admission second.listed account' with
  | error failure => exact ⟨.error failure, alike⟩
  | ok _ =>
    cases outages.secrets second.secretCalls with
    | some failure => exact ⟨.error _, alike.called⟩
    | none =>
      have enlisted := alike.enlisted renumbered outages token token'
      cases outages.saveFault (second.saves + 1) with
      | some fault => exact ⟨.error _, enlisted.undone renumbered outages alike.listed _⟩
      | none =>
        rw [renumbered.display]
        exact ⟨.ok rfl, enlisted.reporting _⟩

end Desk.Alike

/-! ## Migrations under observation -/

/-- A household, with all that a migration shows to its user. -/
structure Observed (τ : Type) extends Household τ where
  titles : List String := []
  requests : List LoginRequest := []
  confirmed : List ConfirmedLogin := []

namespace Observed

variable {τ : Type}

def householdPart : Part (Observed τ) (Household τ) where
  get observed := observed.toHousehold
  set household observed := { observed with toHousehold := household }

instance : Journal (Observed τ) where
  record entry observed :=
    { observed with toHousehold := Journal.record entry observed.toHousehold }

def interaction (script : Script) : Interaction (Observed τ) where
  indicator :=
    { start := fun title =>
        modify fun observed => { observed with titles := observed.titles ++ [title] }
      moves := fun duration => return script.moves duration
      stop := fun _ => return () }
  prompt :=
    { ask := fun request => do
        modify fun observed => { observed with requests := observed.requests ++ [request] }
        let answer := script.answer request
        modify fun observed => { observed with confirmed := observed.confirmed ++ answer.toList }
        return answer }

def migration (outages : Outages) (path : String) (store : LegacySettingsStore τ)
    (script : Script) : Migration (Observed τ) :=
  let inner := Household.migration outages path store script
  { legacy := ⟨inner.legacy.settings.on householdPart, inner.legacy.secrets.on householdPart⟩
    accounts := inner.accounts.on householdPart
    resolver := inner.resolver.on householdPart
    freshId := householdPart.liftState inner.freshId }

/-- Nothing but identifiers, tokens and secrets tells the states apart. -/
structure Alike (first second : Observed τ) : Prop where
  settings : first.settings = second.settings
  desk : first.desk.Alike second.desk
  titles : first.titles = second.titles
  requests : List.Forall₂ LoginRequest.Alike first.requests second.requests
  confirmed : List.Forall₂ ConfirmedLogin.Alike first.confirmed second.confirmed

theorem alike_recorded : Recorded (Alike (τ := τ)) := by
  intro entry first second alike
  exact { alike with desk := alike.desk.reporting entry }

/-- The states are alike, and no account is listed. -/
structure AlikeAlone (first second : Observed τ) : Prop extends Alike first second where
  alone : first.desk.listed = []

theorem alone_recorded : Recorded (AlikeAlone (τ := τ)) := by
  intro entry first second alike
  exact ⟨alike_recorded entry first second alike.toAlike, alike.alone⟩

/-! ## Asking -/

section Asking

variable (outages : Outages) (path : String) (store : LegacySettingsStore τ)
  {script script' : Script} {secret other : String}

theorem parallel_validate (alike : script.Alike secret other script') (server : ServerAddress) :
    Parallel (AlikeAlone (τ := τ)) Eq
      ((migration outages path store script).resolver.validate .interactive
        (interaction script).indicator server secret)
      ((migration outages path store script').resolver.validate .interactive
        (interaction script').indicator server other) := by
  have start (title : String) : Parallel (AlikeAlone (τ := τ)) Eq
      ((interaction script).indicator.start title)
      ((interaction script').indicator.start title) := by
    intro first second same
    refine ⟨rfl, { same with titles := ?_ }⟩
    exact congrArg (· ++ [title]) same.titles
  have lookup : Parallel (AlikeAlone (τ := τ)) Eq
      ((migration outages path store script).resolver.lookup server secret)
      ((migration outages path store script').resolver.lookup server other) := by
    intro first second same
    exact ⟨alike.lookup server, same⟩
  have moves (duration : Nat) : Parallel (AlikeAlone (τ := τ)) Eq
      ((interaction script).indicator.moves duration)
      ((interaction script').indicator.moves duration) := by
    intro first second same
    exact ⟨congrFun alike.moves duration, same⟩
  have stop (cancelled : Bool) : Parallel (AlikeAlone (τ := τ)) Eq
      ((interaction script).indicator.stop cancelled)
      ((interaction script').indicator.stop cancelled) := .pure rfl
  refine .bind (Indicator.parallel_await alone_recorded start moves stop lookup _) ?_
  rintro result _ rfl
  exact .pure rfl

theorem parallel_ask (alike : script.Alike secret other script') {request request' : LoginRequest}
    (same : request.Alike request') :
    Parallel (AlikeAlone (τ := τ)) (Option.Rel ConfirmedLogin.Alike)
      ((interaction script).prompt.ask request) ((interaction script').prompt.ask request') := by
  have answers := alike.answer request request' same
  intro first second start
  refine ⟨answers, { start with requests := ?_, confirmed := ?_ }⟩
  · exact List.rel_append start.requests (.cons same .nil)
  · exact List.rel_append start.confirmed (forall₂_toList answers)

theorem parallel_decideForm (alike : script.Alike secret other script')
    {request request' : LoginRequest} (same : request.Alike request') :
    Parallel (AlikeAlone (τ := τ)) Decision.Alike
      ((interaction script).prompt.decide request)
      ((interaction script').prompt.decide request') := by
  have requested : Parallel (AlikeAlone (τ := τ)) (Option.Rel ConfirmedLogin.Alike)
      ((interaction script).prompt.request request)
      ((interaction script').prompt.request request') := by
    unfold LoginPrompt.request
    rw [same.server]
    refine .bind (.debug alone_recorded _ _) fun _ _ _ => .bind (parallel_ask alike same) ?_
    intro answer answer' answers
    cases answers with
    | none => exact .bind (.debug alone_recorded _ _) fun _ _ _ => .pure .none
    | @some confirmed confirmed' same =>
      dsimp only
      rw [same.login, same.server]
      exact .bind (.debug alone_recorded _ _) fun _ _ _ => .pure (.some same)
  refine .bind requested ?_
  intro answer answer' answers
  cases answers with
  | none => exact .pure .cancelled
  | @some confirmed confirmed' same =>
    refine .pure ?_
    obtain ⟨login, server, token⟩ := confirmed
    obtain ⟨rfl, rfl⟩ := same
    exact .register _ _ _ _

theorem parallel_resolve (alike : script.Alike secret other script') (host : String) :
    Parallel (AlikeAlone (τ := τ)) Eq
      ((migration outages path store script).resolve (interaction script).indicator host secret)
      ((migration outages path store script').resolve (interaction script').indicator host
        other) := by
  unfold Migration.resolve
  cases ServerAddress.readHost (some host) with
  | error failure => exact .bind (.debug alone_recorded _ _) fun _ _ _ => .pure rfl
  | ok server =>
    refine .bind (parallel_validate outages path store alike server) ?_
    rintro answer _ rfl
    exact .pure rfl

theorem parallel_decide (alike : script.Alike secret other script') (settings : LegacySettings) :
    Parallel (AlikeAlone (τ := τ)) Decision.Alike
      ((migration outages path store script).decide (interaction script)
        (.ofParts settings (some secret)))
      ((migration outages path store script').decide (interaction script')
        (.ofParts settings (some other))) := by
  obtain ⟨host, login, mode⟩ := settings
  cases mode with
  | none => exact .pure .nothingToMigrate
  | basic =>
    exact .bind (.debug alone_recorded _ _) fun _ _ _ =>
      parallel_decideForm alike ⟨rfl, rfl, rfl, rfl, rfl⟩
  | token =>
    refine .bind (.debug alone_recorded _ _) fun _ _ _ => ?_
    refine .bind (parallel_resolve outages path store alike _) ?_
    rintro found _ rfl
    cases found with
    | ok found => exact .pure (.register _ _ _ _)
    | error failure =>
      exact .bind (.debug alone_recorded _ _) fun _ _ _ =>
        parallel_decideForm alike ⟨rfl, rfl, rfl, rfl, rfl⟩

end Asking

/-! ## Writing -/

section Writing

variable (outages : Outages) (path : String) (store : LegacySettingsStore τ)
  {script script' : Script} {first second : Observed τ}

theorem run_add (account : Account) (token : String) (observed : Observed τ) :
    ((migration outages path store script).accounts.add account token).run observed =
      ((((outages.register path).add account token).run observed.desk).1,
        { observed with
          desk := (((outages.register path).add account token).run observed.desk).2 }) := rfl

theorem alike_register (same : AlikeAlone first second) (login : String) (server : ServerAddress)
    (token token' : String) :
    let ended := ((migration outages path store script).register login server token).run first
    let ended' := ((migration outages path store script').register login server token').run second
    Matches MigrationStep.Alike ended.1 ended'.1 ∧ Alike ended.2 ended'.2 := by
  rw [Migration.run_register, Migration.run_register]
  have drawn (script : Script) (observed : Observed τ) :
      StateT.run (migration outages path store script).freshId observed =
        (script.newId observed.draws, { observed with draws := observed.draws + 1 }) := rfl
  rw [drawn, drawn]
  dsimp only
  let account : Account := ⟨script.newId first.draws, login, server⟩
  let account' : Account := ⟨script'.newId second.draws, login, server⟩
  have renumbered : account.Renumbered account' := ⟨rfl, rfl⟩
  obtain ⟨answers, desks⟩ := same.desk.add renumbered same.alone outages path token token'
  rw [run_add, run_add]
  dsimp only
  rcases ran : ((outages.register path).add account token).run first.desk with ⟨answer, desk⟩
  rcases ran' : ((outages.register path).add account' token').run second.desk with ⟨answer', desk'⟩
  rw [ran, ran'] at answers desks
  cases answers with
  | error failure => exact ⟨.error failure, { same.toAlike with desk := desks }⟩
  | ok _ =>
    refine ⟨.ok (.registered renumbered), ?_⟩
    exact alike_recorded ⟨.migration, .info, "Registered account " ++ account'.display⟩ _ _
      { same.toAlike with desk := desks }

theorem alike_carryOut (same : AlikeAlone first second) {decision decision' : Decision}
    (decisions : decision.Alike decision') :
    let ended := ((migration outages path store script).carryOut decision).run first
    let ended' := ((migration outages path store script').carryOut decision').run second
    Matches MigrationStep.Alike ended.1 ended'.1 ∧ Alike ended.2 ended'.2 := by
  cases decisions with
  | nothingToMigrate => exact ⟨.ok .nothingToMigrate, same.toAlike⟩
  | cancelled => exact ⟨.ok .cancelled, same.toAlike⟩
  | register login server token token' =>
    exact alike_register outages path store same login server token token'

theorem parallel_settle {secret other : String} (alike : script.Alike secret other script')
    (settings : LegacySettings) :
    ((migration outages path store script).settle (interaction script)
      (.ofParts settings (some secret))).Parallel (Alike (τ := τ)) MigrationStep.Alike
      ((migration outages path store script').settle (interaction script')
        (.ofParts settings (some other))) := by
  intro first second same
  have lists (script : Script) (observed : Observed τ) :
      (migration outages path store script).accounts.list.run observed =
        (.ok observed.desk.listed, observed) := rfl
  rw [Migration.run_settle, Migration.run_settle, lists, lists]
  dsimp only
  have listed := same.desk.listed
  rw [← listed.length_eq]
  by_cases alone : first.desk.listed = []
  · have alone' : second.desk.listed = [] := by
      rw [alone] at listed
      exact List.forall₂_nil_left_iff.mp listed
    rw [if_pos alone, if_pos alone']
    obtain ⟨decisions, decided⟩ :=
      parallel_decide outages path store alike settings first second ⟨same, alone⟩
    exact alike_carryOut outages path store decided decisions
  · have nonempty : second.desk.listed ≠ [] := by
      intro empty
      rw [empty] at listed
      exact alone (List.forall₂_nil_right_iff.mp listed)
    rw [if_neg alone, if_neg nonempty]
    exact ⟨.ok .nothingToMigrate, alike_recorded _ _ _ same⟩

theorem parallel_clear :
    (migration outages path store script).legacy.clear.Parallel (Alike (τ := τ)) Eq
      (migration outages path store script').legacy.clear := by
  have settings : (migration outages path store script).legacy.settings.clear.Parallel
      (Alike (τ := τ)) Eq (migration outages path store script').legacy.settings.clear := by
    intro first second same
    have clears (script : Script) (observed : Observed τ) :
        (migration outages path store script).legacy.settings.clear.run observed =
          ((store.clear.run observed.settings).1,
            { observed with settings := (store.clear.run observed.settings).2 }) := rfl
    rw [clears, clears, same.settings]
    exact ⟨.refl _, { same with settings := rfl }⟩
  have secret : ((migration outages path store script).legacy.secrets.set legacySecretKey
      none).Parallel (Alike (τ := τ)) Eq
      ((migration outages path store script').legacy.secrets.set legacySecretKey none) := by
    intro first second same
    have erases (script : Script) (observed : Observed τ) :
        ((migration outages path store script).legacy.secrets.set legacySecretKey none).run observed =
          (((outages.secretStore.set legacySecretKey none).run observed.desk).1, { observed with
            desk := ((outages.secretStore.set legacySecretKey none).run observed.desk).2 }) := rfl
    rw [erases, erases, outages.run_setSecret, outages.run_setSecret, same.desk.secretCalls]
    cases outages.secrets second.desk.secretCalls with
    | some failure => exact ⟨.error _, { same with desk := same.desk.called }⟩
    | none => exact ⟨.ok rfl, { same with desk := same.desk.storing _ _ _ _ }⟩
  exact .bind settings fun _ _ _ => .bind secret fun _ _ _ => .debug alike_recorded _ _

theorem parallel_conclude {step step' : MigrationStep} (steps : step.Alike step') :
    ((migration outages path store script).conclude step).Parallel (Alike (τ := τ))
      MigrationOutcome.Alike ((migration outages path store script').conclude step') := by
  cases steps with
  | cancelled => exact .pure ⟨.none, rfl, rfl⟩
  | nothingToMigrate =>
    exact .bind (parallel_clear outages path store) fun _ _ _ => .pure ⟨.none, rfl, rfl⟩
  | registered renumbered =>
    exact .bind (parallel_clear outages path store) fun _ _ _ => .pure ⟨.some renumbered, rfl, rfl⟩

end Writing

/-! ## Whole runs -/

/-- Both credentials have the same settings, and each has its secret. -/
def Snapshots (secret other : String) (legacy legacy' : LegacyCredential) : Prop :=
  ∃ settings, legacy = .ofParts settings (some secret) ∧ legacy' = .ofParts settings (some other)

/-- The states are alike, and each holds its legacy secret. -/
structure AlikeHolding (secret other : String) (first second : Observed τ) : Prop
    extends Alike first second where
  held : first.secret legacySecretKey = some secret
  held' : second.secret legacySecretKey = some other

section Runs

variable (outages : Outages) (path : String) (store : LegacySettingsStore τ)
  (script script' : Script) {secret other : String}

theorem holding_recorded : Recorded (AlikeHolding (τ := τ) secret other) := by
  intro entry first second alike
  exact ⟨alike_recorded entry first second alike.toAlike, alike.held, alike.held'⟩

theorem run_getSecret (observed : Observed τ) :
    ((migration outages path store script).legacy.secrets.get legacySecretKey).run observed =
      match outages.secrets observed.desk.secretCalls with
      | some failure =>
        (.error (.credential failure), { observed with desk := observed.desk.called })
      | none =>
        (.ok (observed.secret legacySecretKey),
          { observed with desk := observed.desk.called }) := by
  have lifted : ((migration outages path store script).legacy.secrets.get legacySecretKey).run
      observed =
    ((((Household.migration outages path store script).legacy.secrets.get legacySecretKey).run
        observed.toHousehold).1,
      { observed with toHousehold := (((Household.migration outages path store
          script).legacy.secrets.get legacySecretKey).run observed.toHousehold).2 }) := rfl
  rw [lifted, Household.run_getSecret]
  cases outages.secrets observed.desk.secretCalls with
  | some failure => rfl
  | none => rfl

theorem parallel_readSnapshot :
    (migration outages path store script).legacy.readSnapshot.Parallel
      (AlikeHolding (τ := τ) secret other) (Snapshots secret other)
      (migration outages path store script').legacy.readSnapshot := by
  have settings : (migration outages path store script).legacy.settings.read.Parallel
      (AlikeHolding (τ := τ) secret other) Eq
      (migration outages path store script').legacy.settings.read := by
    intro first second same
    have reads (script : Script) (observed : Observed τ) :
        (migration outages path store script).legacy.settings.read.run observed =
          ((store.read.run observed.settings).1,
            { observed with settings := (store.read.run observed.settings).2 }) := rfl
    rw [reads, reads, same.settings]
    exact ⟨.refl _, { same with settings := rfl }⟩
  have lookup : ((migration outages path store script).legacy.secrets.get legacySecretKey).Parallel
      (AlikeHolding (τ := τ) secret other)
      (fun found found' => found = some secret ∧ found' = some other)
      ((migration outages path store script').legacy.secrets.get legacySecretKey) := by
    intro first second same
    rw [run_getSecret, run_getSecret, same.desk.secretCalls]
    cases outages.secrets second.desk.secretCalls with
    | some failure => exact ⟨.error _, { same with desk := same.desk.called }⟩
    | none => exact ⟨.ok ⟨same.held, same.held'⟩, { same with desk := same.desk.called }⟩
  refine .bind settings ?_
  rintro settings _ rfl
  refine .bind lookup ?_
  rintro _ _ ⟨rfl, rfl⟩
  exact .pure ⟨settings, rfl, rfl⟩

/-- Nothing but identifiers and tokens tells the ends of the runs apart. -/
structure Indistinct (first second : Except Failure MigrationOutcome × Observed τ) : Prop where
  /-- The failures are the same, or the outcomes are the same up to the identifier. -/
  outcome : Matches MigrationOutcome.Alike first.1 second.1
  journal : first.2.desk.journal = second.2.desk.journal
  titles : first.2.titles = second.2.titles
  requests : List.Forall₂ LoginRequest.Alike first.2.requests second.2.requests
  forms : first.2.requests.map LoginRequest.display = second.2.requests.map LoginRequest.display
  confirmed : first.2.confirmed.map ConfirmedLogin.display =
    second.2.confirmed.map ConfirmedLogin.display

theorem map_eq_of_forall₂ {α β : Type} {related : α → α → Prop} {shown : α → β}
    {first second : List α} (alike : List.Forall₂ related first second)
    (same : ∀ a b, related a b → shown a = shown b) : first.map shown = second.map shown := by
  induction alike with
  | nil => rfl
  | cons head _ ih => rw [List.map_cons, List.map_cons, same _ _ head, ih]

theorem Alike.indistinct {outcome outcome' : Except Failure MigrationOutcome}
    {first second : Observed τ} (outcomes : Matches MigrationOutcome.Alike outcome outcome')
    (alike : first.Alike second) : Indistinct (outcome, first) (outcome', second) where
  outcome := outcomes
  journal := alike.desk.journal
  titles := alike.titles
  requests := alike.requests
  forms := map_eq_of_forall₂ alike.requests fun _ _ same => same.display
  confirmed := map_eq_of_forall₂ alike.confirmed fun _ _ same => same.display

variable {script script'} in
theorem parallel_run (alike : script.Alike secret other script') (caller : Caller)
    {first second : Observed τ} (same : AlikeHolding secret other first second) :
    let ended := ((migration outages path store script).run caller (interaction script)).run first
    let ended' :=
      ((migration outages path store script').run caller (interaction script')).run second
    Matches MigrationOutcome.Alike ended.1 ended'.1 ∧ Alike ended.2 ended'.2 := by
  cases caller with
  | runtime =>
    rw [Migration.run_runtime, Migration.run_runtime]
    exact ⟨.error _, same.toAlike⟩
  | interactive =>
    rw [Migration.run_interactive, Migration.run_interactive]
    obtain ⟨snapshots, reads⟩ := parallel_readSnapshot outages path store script script' _ _
      (holding_recorded ⟨.migration, .debug, "Migrating legacy auth"⟩ _ _ same)
    rcases snapshot : (migration outages path store script).legacy.readSnapshot.run
      (Journal.record ⟨.migration, .debug, "Migrating legacy auth"⟩ first) with ⟨answer, read⟩
    rcases snapshot' : (migration outages path store script').legacy.readSnapshot.run
      (Journal.record ⟨.migration, .debug, "Migrating legacy auth"⟩ second) with ⟨answer', read'⟩
    rw [snapshot, snapshot'] at snapshots reads
    cases snapshots with
    | error failure => exact ⟨.error failure, reads.toAlike⟩
    | ok found =>
      obtain ⟨settings, rfl, rfl⟩ := found
      have informed (secret : String) :
          (LegacyCredential.ofParts settings (some secret)).hasAnyInfo = true := by
        simp [LegacyCredential.hasAnyInfo, LegacyCredential.ofParts]
      have known := alike_recorded ⟨.migration, .debug, "Legacy auth data: " ++
        (LegacyCredential.ofParts settings (some secret)).display⟩ read read' reads.toAlike
      dsimp only
      rw [if_pos (informed secret), if_pos (informed other)]
      exact ActionE.Parallel.bind (parallel_settle outages path store alike settings)
        (fun _ _ steps => parallel_conclude outages path store steps) _ _ known

end Runs

/-- Two migrations that find different legacy secrets and get the same answers about them show
the same: the snapshots look alike, and so do the ends of the runs. -/
theorem run_conceals_secret (outages : Outages) (path : String) (store : LegacySettingsStore τ)
    (secret other : String) (script script' : Script) (alike : script.Alike secret other script')
    (caller : Caller) (start : Observed τ) (secrets : SecretTable)
    (held : start.secret legacySecretKey = some secret)
    (held' : secrets.get? legacySecretKey = some other) :
    let start' : Observed τ := { start with desk := { start.desk with secrets } }
    Matches (fun legacy legacy' => legacy.display = legacy'.display ∧
        legacy.displayWide = legacy'.displayWide)
      ((migration outages path store script).legacy.readSnapshot.run start).1
      ((migration outages path store script').legacy.readSnapshot.run start').1 ∧
    Indistinct
      (((migration outages path store script).run caller (interaction script)).run start)
      (((migration outages path store script').run caller (interaction script')).run start') := by
  intro start'
  have same : AlikeHolding secret other start start' := by
    refine ⟨⟨rfl, ⟨?_, rfl, rfl, rfl⟩, rfl, ?_, ?_⟩, held, held'⟩
    · exact List.forall₂_same.mpr fun account _ => ⟨rfl, rfl⟩
    · exact List.forall₂_same.mpr fun request _ => ⟨rfl, rfl, rfl, rfl, rfl⟩
    · exact List.forall₂_same.mpr fun confirmed _ => ⟨rfl, rfl⟩
  constructor
  · obtain ⟨snapshots, -⟩ := parallel_readSnapshot outages path store script script' _ _ same
    refine snapshots.mono ?_
    rintro _ _ ⟨settings, rfl, rfl⟩
    exact LegacyCredential.display_ofParts settings secret other
  · obtain ⟨outcomes, ended⟩ := parallel_run outages path store alike caller same
    exact Alike.indistinct outcomes ended

/-- Servers reject every token, and the user gives a new one. -/
def renewing (account : Account) (token : String) : Script where
  lookup _ _ := ⟨.value (.error (.authentication "Bad credentials")), 0⟩
  answer _ := some ⟨"alice", Account.alice.server, token⟩
  moves _ := [.taskEnds, .poll]
  newId _ := account.id
  outage _ := none

def withToken : Observed SettingsRecord where
  toHousehold := Household.withToken

theorem run_conceals_secret_of_rejected_token :
    let secrets : SecretTable := { entries := [(legacySecretKey, "u")] }
    Script.Alike "t" "u" (renewing .alice "v") (renewing .bob "w") ∧
      withToken.secret legacySecretKey = some "t" ∧ secrets.get? legacySecretKey = some "u" ∧
      Indistinct
        (((migration .never "accounts.toml" SettingsRecord.store (renewing .alice "v")).run
          .interactive (interaction (renewing .alice "v"))).run withToken)
        (((migration .never "accounts.toml" SettingsRecord.store (renewing .bob "w")).run
          .interactive (interaction (renewing .bob "w"))).run
            { withToken with desk := { withToken.desk with secrets } }) := by
  intro secrets
  have alike : Script.Alike "t" "u" (renewing .alice "v") (renewing .bob "w") :=
    ⟨fun _ => rfl, fun _ _ _ => .some ⟨rfl, rfl⟩, rfl⟩
  have held : withToken.secret legacySecretKey = some "t" := rfl
  have held' : secrets.get? legacySecretKey = some "u" := rfl
  exact ⟨alike, held, held', (run_conceals_secret .never "accounts.toml" SettingsRecord.store "t" "u"
    (renewing .alice "v") (renewing .bob "w") alike .interactive withToken secrets held held').2⟩

end Observed

end AccountKeeper
