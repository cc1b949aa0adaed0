import AccountKeeper.Proofs.Secrets.Passwords
import AccountKeeper.Proofs.Terminal.Inspection

/-!
# The password of the stores that are set up

The program sets its stores up once, from the settings and what is typed.  They
are the keyring, which keeps its passwords elsewhere, or a vault with a master
password that was checked before.  Together with the runs of calls on vaults
this tells what the files of secrets are sealed under.
-/

set_option autoImplicit false

namespace AccountKeeper

/-! ## Keyrings -/

/-- The keyring keeps its passwords elsewhere than in the files. -/
structure Keyring.Apart (keyring : Keyring Session) : Prop where
  access : ∀ service user, (keyring.access service user).Keeps Session.files
  getPassword : ∀ service user, (keyring.getPassword service user).Keeps Session.files
  setPassword : ∀ service user secret, (keyring.setPassword service user secret).Keeps Session.files
  deletePassword : ∀ service user, (keyring.deletePassword service user).Keeps Session.files

namespace Keyring.Apart

variable {keyring : Keyring Session} (apart : keyring.Apart)

theorem absent : (Keyring.absent : Keyring Session).Apart where
  access _ _ _ := rfl
  getPassword _ _ _ := rfl
  setPassword _ _ _ _ := rfl
  deletePassword _ _ _ := rfl

theorem shut : (Keyring.shut : Keyring Session).Apart :=
  { absent with access := fun _ _ _ => rfl }

include apart

theorem spares (cipher : Cipher) :
    (Session.programOver cipher .unreachable keyring).Spares Session.files :=
  Session.spares (fun _ _ => rfl) apart.access apart.getPassword

theorem set (service key : String) (value : Option String) :
    (keyring.set service key value).Keeps Session.files := by
  have unreported : Unreported Session.files := fun _ _ => rfl
  have entry : (keyring.entry service key).Keeps Session.files :=
    .bind (.ofExcept _) fun _ _ => (apart.access service key).mapError _
  refine .bind entry fun _ _ => ?_
  cases value with
  | some secret =>
    exact .bind ((apart.setPassword service key secret).mapError _) fun _ _ =>
      .debug unreported _ _
  | none =>
    refine .bind (apart.deletePassword service key).attempt fun outcome _ => ?_
    match outcome with
    | .ok () => exact .debug unreported _ _
    | .error .noEntry => exact .debug unreported _ _
    | .error (.other reason) => exact .throw _

theorem perform (call : SecretCall) :
    ((keyring.store serviceName).perform call).Keeps Session.files := by
  cases call with
  | get key => exact (apart.spares .prefixed).keyringGet key
  | set key value => exact .bind (apart.set serviceName key value) fun _ _ => .pure none

end Keyring.Apart

/-! ## Setting up -/

/-- Calls on a chain of one store, where each call keeps a condition on the state. -/
theorem SecretChain.performAll_gains {store : SecretStore Session} {fresh : ByteArray → Prop}
    (holds : Session → Prop) (unreported : ∀ entry s, holds s → holds (Journal.record entry s))
    (calls : List SecretCall)
    (step : ∀ call ∈ calls, ∀ s, holds s → holds ((store.perform call).run s).2 ∧
      s.files.Gains ((store.perform call).run s).2.files fresh)
    {s : Session} (start : holds s) :
    s.files.Gains ((⟨[store]⟩ : SecretChain Session).store.performAll calls s).2.files fresh := by
  induction calls generalizing s with
  | nil => exact .refl _ _
  | cons call calls ih =>
    obtain ⟨held, gained⟩ := step call List.mem_cons_self s start
    obtain ⟨after, run, reports⟩ := run_perform_single store call s
    unfold SecretStore.performAll
    rw [run]
    have rest : ∀ later ∈ calls, ∀ s, holds s → holds ((store.perform later).run s).2 ∧
        s.files.Gains ((store.perform later).run s).2.files fresh :=
      fun later member => step later (List.mem_cons_of_mem _ member)
    rcases reports with rfl | ⟨entry, rfl⟩
    · exact gained.trans (ih rest held)
    · exact gained.trans (ih rest (unreported entry _ held))

namespace Session

variable (cipher : Cipher) (network : Network Session) (keyring : Keyring Session)
  (environment : Environment) (settings : SecretSettings)

/-- The password is the one of the settings, if they have one. -/
def Supplied (settings : SecretSettings) (password : String) : Prop :=
  ∀ given, settings.masterPassword = some given → given = password

theorem supplied_findPassword {password : String} {s : Session}
    (found : (StateT.run ((backendsOver cipher network keyring).findPassword settings) s).1 =
      some password) : Supplied settings password := by
  intro given configured
  unfold SecretBackends.findPassword at found
  rw [configured] at found
  exact Option.some.inj found

theorem openKeyring_cases (s : Session) :
    (StateT.run ((backendsOver cipher network keyring).openKeyring settings) s).1 = [] ∨
      settings.storage = .keyring ∧
        (StateT.run ((backendsOver cipher network keyring).openKeyring settings) s).1 =
          [keyring.store serviceName] := by
  cases kind : settings.storage with
  | encrypted =>
    left
    unfold SecretBackends.openKeyring
    rw [if_pos (by simp [kind])]
    rfl
  | keyring =>
    obtain ⟨entry, run⟩ := run_openKeyring cipher network kind s keyring
    rw [run]
    cases ((keyring.probe serviceName).run s).1 with
    | ok _ => exact .inr ⟨rfl, rfl⟩
    | error _ => exact .inl rfl

theorem openEncrypted_cases {stores : List (SecretStore Session)} {s opened : Session}
    (ran : ((backendsOver cipher network keyring).openEncrypted environment settings).run s =
      (.ok stores, opened)) :
    stores = [] ∨ ∃ password,
      stores = [(vault cipher (settings.directory environment) serviceName).store] ∧
        opened.password = some password ∧
        EncryptedStore.passwordMinimum ≤ password.utf8ByteSize ∧ Supplied settings password := by
  have supplied := @supplied_findPassword cipher network keyring settings
  unfold SecretBackends.openEncrypted at ran
  rw [ActionE.run_bind, ActionE.run_ofState] at ran
  rcases found : StateT.run ((backendsOver cipher network keyring).findPassword settings) s with
    ⟨password?, asked⟩
  rw [found] at ran
  cases password? with
  | none =>
    cases ran
    exact .inl rfl
  | some password =>
    have unlocked : ((vault cipher (settings.directory environment) serviceName).setPassword
        password).run asked = _ := run_setPassword cipher _ serviceName asked password
    dsimp only at ran
    rw [ActionE.run_bind, show (backendsOver cipher network keyring).encrypted
      (settings.directory environment) = vault cipher _ serviceName from rfl, unlocked] at ran
    by_cases weak : password.utf8ByteSize < EncryptedStore.passwordMinimum
    · rw [if_pos weak] at ran
      cases ran
    · rw [if_neg weak] at ran
      cases ran
      exact .inr ⟨password, rfl, rfl, Nat.not_lt.mp weak, supplied (congrArg Prod.fst found)⟩

/-- A manager that is set up is over the keyring, or over a vault with a password. -/
theorem openChain_cases {manager : SecretChain Session} {s opened : Session}
    (ran : ((backendsOver cipher network keyring).openChain environment settings).run s =
      (.ok manager, opened)) :
    manager = ⟨[keyring.store serviceName]⟩ ∨ ∃ password,
      manager = ⟨[(vault cipher (settings.directory environment) serviceName).store]⟩ ∧
        opened.password = some password ∧
        EncryptedStore.passwordMinimum ≤ password.utf8ByteSize ∧ Supplied settings password := by
  unfold SecretBackends.openChain at ran
  rw [ActionE.run_bind, ActionE.run_ofState] at ran
  -- The vault is asked for where the keyring is not: no manager has both.
  rcases openKeyring_cases cipher network keyring settings s with
    none | ⟨configured, found⟩
  · rw [none] at ran
    dsimp only at ran
    rw [if_pos (.inr rfl), ActionE.run_bind] at ran
    rcases encrypted : ((backendsOver cipher network keyring).openEncrypted environment
        settings).run (StateT.run ((backendsOver cipher network keyring).openKeyring settings) s).2
      with ⟨outcome, after⟩
    rw [encrypted] at ran
    cases outcome with
    | error failure => cases ran
    | ok stores =>
      rcases openEncrypted_cases cipher network keyring environment settings encrypted with
        rfl | ⟨password, rfl, facts⟩
      · cases ran
      · cases ran
        exact .inr ⟨password, rfl, facts⟩
  · rw [found] at ran
    dsimp only at ran
    rw [if_neg (by simp [configured]), ActionE.run_bind] at ran
    cases ran
    exact .inl rfl

theorem openChain_files (apart : keyring.Apart) (s : Session) :
    (((backendsOver cipher network keyring).openChain environment settings).run s).2.files =
      s.files :=
  (apart.spares cipher).openChain environment settings s

/-- What a manager seals, it seals under the password that it was set up with. -/
theorem manager_gains (apart : keyring.Apart) (calls : List SecretCall)
    {manager : SecretChain Session} {s opened : Session}
    (ran : ((backendsOver cipher network keyring).openChain environment settings).run s =
      (.ok manager, opened)) :
    s.files.Gains (manager.store.performAll calls opened).2.files fun content =>
      ∃ key text password bits, SecretCall.set key (some text) ∈ calls ∧
        opened.password = some password ∧ Supplied settings password ∧
        EncryptedStore.passwordMinimum ≤ password.utf8ByteSize ∧
        content = cipher.encrypt password bits text := by
  have same : opened.files = s.files := by
    rw [← openChain_files cipher network keyring environment settings apart s, ran]
  rw [← same]
  rcases openChain_cases cipher network keyring environment settings ran with
    rfl | ⟨password, rfl, unlocked, enough, supplied⟩
  · refine SecretChain.performAll_gains (fun _ => True) (fun _ _ _ => trivial) calls
      (fun call _ s _ => ⟨trivial, ?_⟩) trivial
    rw [apart.perform call s]
    exact .refl _ _
  · refine SecretChain.performAll_gains (fun s => s.password = some password)
      (fun _ _ unlocked => unlocked) calls (fun call member s unlocked' => ?_) unlocked
    obtain ⟨kept, gained⟩ :=
      perform_gains cipher (settings.directory environment) serviceName s call
    refine ⟨kept.trans unlocked', gained.mono ?_⟩
    rintro content ⟨key, text, password', bits, ⟨rfl, unlocked'', -⟩, rfl⟩
    obtain rfl : password = password' := Option.some.inj (unlocked'.symm.trans unlocked'')
    exact ⟨key, text, password, bits, member, unlocked, supplied, enough, rfl⟩

end Session

/-! ## Files of secrets -/

namespace Strongroom

section Runs

variable {ι : Type} [DecidableEq ι]

/-- Every file that the calls on some stores leave was there before, or is sealed under the password
that its store accepted last.  These passwords have enough characters if and only if none of them is
overrated.  A password is refused, and nothing changes, if it is too short and not overrated; as
long as a store has accepted none, it stores nothing.  Every file that the calls on a manager leave
was there before, or is sealed under the password that the manager was set up with. -/
theorem sealed_under_long_passwords_iff (cipher : Cipher) (network : Network Session)
    (directory : String) (service : ι → String) (session : Session) (calls : List (ι × VaultCall)) :
    let start : Strongroom ι := ⟨session, fun _ => none⟩
    let room := (performAll cipher directory service calls start).2
    session.files.Gains room.session.files (Sealed cipher directory service start calls) ∧
    ((∀ who key text password, Sealing cipher directory service start calls who key text password →
        EncryptedStore.passwordMinimum ≤ password.length) ↔
      ∀ who key text password, Sealing cipher directory service start calls who key text password →
        ¬EncryptedStore.Overrated password) ∧
    (∀ who password,
      let run := (perform cipher directory service who (.unlock password)).run room
      (password.length < EncryptedStore.passwordMinimum → ¬EncryptedStore.Overrated password →
        run = (.error (.credential .weakPassword), room)) ∧
      (EncryptedStore.passwordMinimum ≤ password.length ∨ EncryptedStore.Overrated password →
        run.1 = .ok none ∧ run.2.passwords who = some password)) ∧
    (∀ who key text, lastTaken who none calls = none → ∃ failure,
      (perform cipher directory service who (.secret (.set key (some text)))).run room =
        (.error failure, room)) ∧
    ∀ (keyring : Keyring Session) (environment : Environment) (settings : SecretSettings)
      (manager : SecretChain Session) (opened : Session) (managed : List SecretCall),
      keyring.Apart →
      ((Session.backendsOver cipher network keyring).openChain environment settings).run session =
        (.ok manager, opened) →
      session.files.Gains (manager.store.performAll managed opened).2.files fun content =>
        ∃ key text password bits, SecretCall.set key (some text) ∈ managed ∧
          opened.password = some password ∧ Session.Supplied settings password ∧
          (EncryptedStore.passwordMinimum ≤ password.length ↔
            ¬EncryptedStore.Overrated password) ∧
          content = cipher.encrypt password bits text := by
  intro start room
  have long {who : ι} {key text password : String}
      (sealing : Sealing cipher directory service start calls who key text password) :
      EncryptedStore.passwordMinimum ≤ password.length ↔ ¬EncryptedStore.Overrated password :=
    EncryptedStore.long_iff (sealing.unlocks cipher directory service rfl).2
  refine ⟨performAll_gains cipher directory service calls start, ⟨?_, ?_⟩,
    fun who password => unlock_checked cipher directory service who password room,
    fun who key text untaken => ?_, ?_⟩
  · exact fun all who key text password sealing => (long sealing).mp (all _ _ _ _ sealing)
  · exact fun all who key text password sealing => (long sealing).mpr (all _ _ _ _ sealing)
  · exact put_locked cipher directory service
      ((passwords_performAll cipher directory service calls who start).trans untaken) key text
  · intro keyring environment settings manager opened managed apart ran
    have gained :=
      Session.manager_gains cipher network keyring environment settings apart managed ran
    refine gained.mono ?_
    rintro content ⟨key, text, password, bits, member, unlocked, supplied, enough, rfl⟩
    exact ⟨key, text, password, bits, member, unlocked, supplied,
      EncryptedStore.long_iff enough, rfl⟩

end Runs

/-! ## One store over an empty directory -/

def first : Strongroom Unit where
  session := .unfilled
  passwords _ := none

/-- The store gets a master password, and then a secret. -/
def sealingCalls (password : String) : List (Unit × VaultCall) :=
  [((), .unlock password), ((), .secret (.set "token" (some "ghp_secret")))]

/-- With a master password of ASCII characters, no secret is sealed under a short one. -/
theorem sealed_under_long_passwords_iff_for_ascii :
    let calls := sealingCalls "test_password_123"
    let room := (performAll .prefixed "/credentials" (fun _ => serviceName) calls first).2
    (∀ who key text password, Sealing .prefixed "/credentials" (fun _ => serviceName) first calls
      who key text password → EncryptedStore.passwordMinimum ≤ password.length) ∧
    (perform .prefixed "/credentials" (fun _ => serviceName) () (.unlock "secret")).run room =
      (.error (.credential .weakPassword), room) ∧
    (∃ failure, (perform .prefixed "/credentials" (fun _ => serviceName) ()
      (.secret (.set "token" (some "ghp_secret")))).run first = (.error failure, first)) ∧
    ∃ manager opened, ((Session.backendsOver .prefixed .unreachable .shut).openChain
        Session.noVariables Session.keyringSettings).run .unfilled = (.ok manager, opened) ∧
      FileTree.credentialsOnly.Gains
        (manager.store.performAll Session.tokenCalls opened).2.files fun content =>
          ∃ bits text, content = Cipher.prefixed.encrypt "test_password_123" bits text := by
  intro calls room
  obtain ⟨-, long, unlocks, -, managers⟩ := sealed_under_long_passwords_iff .prefixed .unreachable
    "/credentials" (fun _ => serviceName) .unfilled calls
  obtain ⟨-, -, -, locked, -⟩ := sealed_under_long_passwords_iff .prefixed .unreachable
    "/credentials" (fun _ : Unit => serviceName) .unfilled []
  refine ⟨long.mpr fun who key text password sealing => ?_,
    (unlocks () "secret").1 (by decide) (by decide), locked () "token" "ghp_secret" rfl, _, _, rfl,
    ?_⟩
  · have member := (sealing.unlocks Cipher.prefixed "/credentials" (fun _ => serviceName) rfl).1
    obtain rfl : password = "test_password_123" := by
      simpa [calls, sealingCalls] using member
    exact EncryptedStore.not_overrated_of_ascii (by simp)
  · refine (managers .shut Session.noVariables Session.keyringSettings _ _ Session.tokenCalls
      Keyring.Apart.shut rfl).mono ?_
    rintro content ⟨key, text, password, bits, -, -, supplied, -, rfl⟩
    obtain rfl := supplied _ rfl
    exact ⟨bits, text, rfl⟩

/-- Six characters are enough if they take two bytes each. -/
theorem sealed_under_short_password :
    let calls := sealingCalls "пароль"
    let reached := performAll .prefixed "/credentials" (fun _ => serviceName) calls first
    "пароль".length = 6 ∧
    reached.1 = [.ok none, .ok none] ∧
    first.session.files.at? ["credentials", "gh-accounts.token.age"] = none ∧
    reached.2.session.files.at? ["credentials", "gh-accounts.token.age"] =
      some (.file (Cipher.prefixed.encrypt "пароль" 0 "ghp_secret") EncryptedStore.fileMode) ∧
    ¬∀ who key text password, Sealing .prefixed "/credentials" (fun _ => serviceName) first calls
      who key text password → EncryptedStore.passwordMinimum ≤ password.length := by
  intro calls reached
  refine ⟨by decide, by rfl, by rfl, by rfl, fun long => ?_⟩
  have sealing : Sealing .prefixed "/credentials" (fun _ => serviceName) first calls () "token"
      "ghp_secret" "пароль" :=
    ⟨[((), .unlock "пароль")], [], rfl, by rfl, by rfl⟩
  exact absurd (long _ _ _ _ sealing) (by decide)

end Strongroom

end AccountKeeper
