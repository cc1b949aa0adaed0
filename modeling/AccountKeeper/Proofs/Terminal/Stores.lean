import AccountKeeper.Program
import AccountKeeper.Proofs.Keeping

/-!
# Looking at stores

Configuration, secrets, accounts and legacy data are looked at without a trace.
A view of the state that depends on nothing the program writes to while it
looks is the same before and after the stores are opened, and before and after
the legacy data is read.
-/

set_option autoImplicit false

namespace AccountKeeper

variable {σ ω : Type} [Journal σ]

/-- What a program only looks with leaves a view as it is. -/
structure Program.Spares (program : Program σ) (view : σ → ω) : Prop where
  reports : Unreported view
  terminal : program.terminal.Outside view
  password : program.password.Outside view
  listed : program.listed.Outside view
  leads : ∀ path, Keeps view (program.files.leads path)
  read : ∀ path, (program.files.read path).Keeps view
  isLink : ∀ path, (program.files.isLink path).Keeps view
  access : ∀ service user, (program.keyring.access service user).Keeps view
  getPassword : ∀ service user, (program.keyring.getPassword service user).Keeps view
  send : ∀ request, Keeps view (program.network.send request)

/-- Stores of the program whose secrets can be looked at. -/
def Program.Opened (program : Program σ) (view : σ → ω) (installation : Installation σ) : Prop :=
  ∃ environment config secrets, (∀ key, ((secrets : SecretStore σ).get key).Keeps view) ∧
    installation = program.install environment config secrets

namespace Program.Spares

variable {program : Program σ} {view : σ → ω} (spares : program.Spares view)

include spares

/-! ## Opening -/

theorem readText (path : String) : (program.files.readText path).Keeps view := by
  refine .bind (spares.read path) fun content _ => ?_
  cases String.fromUTF8? content with
  | none => exact .throw _
  | some text => exact .pure text

theorem loadFrom (path : String) : (Config.loadFrom program.files path).Keeps view := by
  refine .bind ((spares.readText path).mapError _) fun text _ => ?_
  cases Config.parse text with
  | error failure => exact .throw _
  | ok config => exact .pure config

theorem loadFile (environment : Environment) :
    (Config.loadFile program.files environment).Keeps view := by
  refine .bind (.ofExcept _) fun path _ => .bind (.ofState (spares.leads path)) fun there _ => ?_
  cases there with
  | true => exact spares.loadFrom path
  | false => exact .bind (.debug spares.reports _ _) fun _ _ => .pure _

theorem takePassword (environment : Environment) (config : Config) :
    Keeps view (Config.takePassword environment config : StateM σ Config) := by
  unfold Config.takePassword
  cases SecretSettings.givenPassword? environment with
  | none => exact .pure config
  | some password => exact .bind (.debug spares.reports _ _) fun _ => .pure _

theorem loadConfig (environment : Environment) :
    (Config.load program.files environment).Keeps view :=
  .bind (spares.loadFile environment) fun config _ => .lift (spares.takePassword environment config)

theorem openKeyring (settings : SecretSettings) :
    Keeps view (program.backends.openKeyring settings) := by
  have probe : (program.keyring.probe serviceName).Keeps view := (spares.access _ _).mapError _
  unfold SecretBackends.openKeyring
  split
  · exact .pure []
  · refine .bind probe.outcome fun found => ?_
    cases found with
    | error failure => exact .bind (.note spares.reports _ _ _) fun _ => .pure []
    | ok _ => exact .bind (.note spares.reports _ _ _) fun _ => .pure _

theorem findPassword (settings : SecretSettings) :
    Keeps view (program.backends.findPassword settings) := by
  unfold SecretBackends.findPassword
  cases settings.masterPassword with
  | some password => exact .pure (some password)
  | none =>
    refine .bind (.liftState spares.terminal _) fun typed => ?_
    match typed with
    | none => exact .pure none
    | some (.error reason) => exact .bind (.note spares.reports _ _ _) fun _ => .pure none
    | some (.ok password) =>
      dsimp only
      split
      · exact .pure (some password)
      · exact .bind (.note spares.reports _ _ _) fun _ => .pure none

theorem setPassword (directory password : String) :
    ((program.backends.encrypted directory).setPassword password).Keeps view := by
  have assigned : ((program.backends.encrypted directory).password.assign (some password) :
      Action σ PUnit).Keeps view := .assign spares.password _
  unfold EncryptedStore.setPassword
  split
  · exact .bind (.throw _) fun _ _ => .bind assigned fun _ _ => .debug spares.reports _ _
  · exact .bind assigned fun _ _ => .debug spares.reports _ _

theorem openEncrypted (environment : Environment) (settings : SecretSettings) :
    (program.backends.openEncrypted environment settings).Keeps view := by
  refine .bind (.ofState (spares.findPassword settings)) fun found _ => ?_
  cases found with
  | none => exact .bind (.note spares.reports _ _ _) fun _ _ => .pure []
  | some password =>
    exact .bind (spares.setPassword _ password) fun _ _ =>
      .bind (.note spares.reports _ _ _) fun _ _ => .pure _

theorem openChain (environment : Environment) (settings : SecretSettings) :
    (program.backends.openChain environment settings).Keeps view := by
  refine .bind (.ofState (spares.openKeyring settings)) fun keyring _ => ?_
  dsimp only
  split
  · exact .bind (spares.openEncrypted environment settings) fun _ _ => .ofExcept _
  · exact .bind (.pure []) fun _ _ => .ofExcept _

/-! ## Secrets -/

theorem keyringGet (key : String) :
    (program.backends.keyring.get serviceName key).Keeps view := by
  have entry : (program.keyring.entry serviceName key).Keeps view :=
    .bind (.ofExcept _) fun _ _ => (spares.access serviceName key).mapError _
  refine .bind entry fun _ _ => .bind (spares.getPassword serviceName key).attempt fun found _ => ?_
  match found with
  | .ok secret => exact .bind (.debug spares.reports _ _) fun _ _ => .pure _
  | .error .noEntry => exact .pure none
  | .error (.other reason) => exact .throw _

theorem refuseLink (path : String) : (EncryptedStore.refuseLink program.files path).Keeps view := by
  refine .bind ((spares.isLink path).mapError _) fun linked _ => ?_
  cases linked with
  | true => exact .throw _
  | false => exact .pure ()

omit [Journal σ] spares in
theorem requirePassword (directory : String) :
    (program.backends.encrypted directory).requirePassword.Keeps view := by
  refine .bind (.look _) fun found _ => ?_
  cases found with
  | some password => exact .pure password
  | none => exact .throw _

theorem encryptedGet (directory key : String) :
    ((program.backends.encrypted directory).get key).Keeps view := by
  refine .bind (.ofExcept _) fun _ _ => .bind (.ofState (spares.leads _)) fun there _ => ?_
  cases there with
  | false => exact .pure none
  | true =>
    refine .bind (spares.refuseLink _) fun _ _ => .bind ((spares.read _).mapError _) fun content _ =>
      .bind (requirePassword directory) fun password _ => ?_
    cases (program.backends.encrypted directory).cipher.decrypt password content with
    | error failure => exact .throw _
    | ok text => exact .bind (.debug spares.reports _ _) fun _ _ => .pure _

omit spares in
theorem openKeyring_stores (settings : SecretSettings) (s : σ) :
    (StateT.run (program.backends.openKeyring settings) s).1 ⊆
      [program.backends.keyring.store serviceName] := by
  unfold SecretBackends.openKeyring
  split
  · exact List.nil_subset _
  · rw [ActionE.run_state_bind]
    cases (StateT.run (program.backends.keyring.probe serviceName).outcome s).1 with
    | error failure => exact List.nil_subset _
    | ok _ => exact List.Subset.refl _

omit spares in
theorem openEncrypted_stores {environment : Environment} {settings : SecretSettings}
    {stores : List (SecretStore σ)}
    (yields : (program.backends.openEncrypted environment settings).Yields stores) :
    stores ⊆ [(program.backends.encrypted (settings.directory environment)).store] := by
  obtain ⟨found, _, yields⟩ := yields.of_bind
  cases found with
  | none =>
    obtain ⟨_, _, yields⟩ := yields.of_bind
    rw [yields.of_pure]
    exact List.nil_subset _
  | some password =>
    obtain ⟨_, _, yields⟩ := yields.of_bind
    obtain ⟨_, _, yields⟩ := yields.of_bind
    rw [yields.of_pure]
    exact List.Subset.refl _

omit spares in
theorem openChain_stores {environment : Environment} {settings : SecretSettings}
    {chain : SecretChain σ}
    (yields : (program.backends.openChain environment settings).Yields chain) :
    chain.stores ⊆ [program.backends.keyring.store serviceName,
      (program.backends.encrypted (settings.directory environment)).store] := by
  obtain ⟨keyring, ⟨s, found⟩, yields⟩ := yields.of_bind
  have first : keyring ⊆ [program.backends.keyring.store serviceName] := by
    cases found
    exact openKeyring_stores settings s
  have joined : ∃ encrypted, encrypted ⊆
      [(program.backends.encrypted (settings.directory environment)).store] ∧
        SecretChain.ofStores (keyring ++ encrypted) = .ok chain := by
    dsimp only at yields
    split at yields
    · obtain ⟨encrypted, opened, made⟩ := yields.of_bind
      exact ⟨encrypted, openEncrypted_stores opened, made.of_ofExcept⟩
    · exact ⟨[], List.nil_subset _, yields.of_ofExcept⟩
  obtain ⟨encrypted, second, made⟩ := joined
  unfold SecretChain.ofStores at made
  split at made
  · cases made
  · cases made
    exact List.append_subset.mpr
      ⟨List.Subset.trans first (by simp), List.Subset.trans second (List.subset_cons_self _ _)⟩

theorem getFrom (key : String) {stores : List (SecretStore σ)}
    (each : ∀ store ∈ stores, (store.get key).Keeps view) :
    (SecretChain.getFrom key stores).Keeps view := by
  induction stores with
  | nil => exact .pure none
  | cons store rest ih =>
    refine .bind (each store List.mem_cons_self) fun found _ => ?_
    cases found with
    | some secret => exact .bind (.debug spares.reports _ _) fun _ _ => .pure _
    | none => exact ih fun other member => each other (List.mem_cons_of_mem _ member)

theorem chainGet {environment : Environment} {settings : SecretSettings} {chain : SecretChain σ}
    (yields : (program.backends.openChain environment settings).Yields chain) (key : String) :
    (chain.store.get key).Keeps view := by
  refine spares.getFrom key fun store member => ?_
  have found := openChain_stores yields member
  simp only [List.mem_cons, List.not_mem_nil, or_false] at found
  rcases found with rfl | rfl
  · exact spares.keyringGet key
  · exact spares.encryptedGet _ key

/-! ## Accounts and legacy data -/

theorem loadAccounts (environment : Environment) (config : Config) (secrets : SecretStore σ) :
    (program.install environment config secrets).register.load.Keeps view := by
  have read : (program.install environment config secrets).register.readFile.Keeps view := by
    refine .bind (.ofState (spares.leads _)) fun there _ => ?_
    cases there with
    | false => exact .pure none
    | true =>
      refine .bind ((spares.readText _).mapError _) fun text _ => ?_
      cases AccountDocument.read text with
      | ok accounts => exact .pure (some accounts)
      | error fault => exact .throw _
  exact .bind read fun _ _ => .assign spares.listed _

theorem openStores (environment : Environment) :
    (program.openStores environment).Keeps view :=
  .bind (spares.loadConfig environment) fun config _ => .bind (.debug spares.reports _ _) fun _ _ =>
    .bind (spares.openChain environment config.secrets) fun chain _ =>
      .bind (spares.loadAccounts environment config chain.store) fun _ _ => .pure _

theorem opened {environment : Environment} {installation : Installation σ}
    (yields : (program.openStores environment).Yields installation) :
    program.Opened view installation := by
  obtain ⟨config, _, yields⟩ := yields.of_bind
  obtain ⟨_, _, yields⟩ := yields.of_bind
  obtain ⟨chain, opens, yields⟩ := yields.of_bind
  obtain ⟨_, _, yields⟩ := yields.of_bind
  exact ⟨environment, config, chain.store, spares.chainGet opens, yields.of_pure⟩

theorem readSettings (path : String) :
    (SettingsFile.mk program.files path).read.Keeps view := by
  have text : (SettingsFile.mk program.files path).text?.Keeps view := by
    refine .bind (.ofState (spares.leads _)) fun there _ => ?_
    cases there with
    | false => exact .pure none
    | true => exact .bind ((spares.readText _).mapError _) fun text _ => .pure (some text)
  refine .bind text fun found _ => ?_
  cases found with
  | none => exact .pure _
  | some text =>
    dsimp only
    cases LegacySettings.ofDocument text with
    | ok settings => exact .pure settings
    | error fault => exact .throw _

variable {installation : Installation σ} (opened : program.Opened view installation)

include opened

theorem readSnapshot : installation.migration.legacy.readSnapshot.Keeps view := by
  obtain ⟨environment, config, secrets, looks, rfl⟩ := opened
  exact .bind (spares.readSettings _) fun _ _ => .bind (looks legacySecretKey) fun _ _ => .pure _

theorem peek : Keeps view installation.migration.peek := by
  refine .bind (spares.readSnapshot opened).outcome fun found => ?_
  cases found with
  | ok legacy => exact .pure (some legacy)
  | error failure => exact .bind (.debug spares.reports _ _) fun _ => .pure none

theorem hasLegacyAccount : Keeps view installation.migration.hasLegacyAccount := by
  refine .bind (spares.peek opened) fun found => ?_
  cases found with
  | some legacy => exact .pure legacy.hasLegacyAccount
  | none => exact .pure false

theorem oldServer : Keeps view installation.migration.oldServer := by
  refine .bind (spares.peek opened) fun found => ?_
  cases found with
  | none => exact .pure none
  | some legacy =>
    dsimp only
    split
    · unfold LegacyCredential.effectiveServer
      cases legacy.readServer with
      | ok server => exact .pure (some server)
      | error failure => exact .bind (.debug spares.reports _ _) fun _ => .pure none
    · exact .pure none

end Program.Spares

end AccountKeeper
