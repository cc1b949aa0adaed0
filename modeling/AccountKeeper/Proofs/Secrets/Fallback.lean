import AccountKeeper.Proofs.Secrets.Entries
import AccountKeeper.Proofs.Secrets.Mirror

/-!
# Encrypted files in place of a keyring

Whether the keyring can be used is asked once, by making an entry that nothing
is done with.  A keyring that makes no entries is replaced by encrypted files,
and these work as a map.  A keyring that makes entries and fails afterwards is
used, and nothing works.
-/

set_option autoImplicit false

namespace AccountKeeper

namespace Keyring

variable {σ : Type}

/-- No entry can be made. -/
structure Closed (keyring : Keyring σ) : Prop where
  access : ∀ service key s, ∃ reason, (keyring.access service key).run s = (.error reason, s)

/-- Entries can be made, but every operation on one of them fails. -/
structure Dead (keyring : Keyring σ) : Prop where
  access : ∀ service key s, (keyring.access service key).run s = (.ok (), s)
  getPassword : ∀ service key s, ∃ reason,
    (keyring.getPassword service key).run s = (.error (.other reason), s)
  setPassword : ∀ service key secret s, ∃ reason,
    (keyring.setPassword service key secret).run s = (.error (.other reason), s)
  deletePassword : ∀ service key s, ∃ reason,
    (keyring.deletePassword service key).run s = (.error (.other reason), s)

theorem dead_absent : (absent : Keyring σ).Dead :=
  ⟨fun _ _ _ => rfl, fun _ _ _ => ⟨noService, rfl⟩, fun _ _ _ _ => ⟨noService, rfl⟩,
    fun _ _ _ => ⟨noService, rfl⟩⟩

variable {keyring : Keyring σ}

theorem Dead.not_closed (dead : keyring.Dead) (s : σ) : ¬keyring.Closed := by
  intro closed
  obtain ⟨reason, refused⟩ := closed.access "" "" s
  rw [dead.access] at refused
  cases refused

theorem Closed.run_probe (closed : keyring.Closed) (service : String) (s : σ) :
    ∃ failure, (keyring.probe service).run s = (.error failure, s) := by
  obtain ⟨reason, refused⟩ := closed.access service "availability_check" s
  unfold probe
  rw [ActionE.run_mapError, refused]
  exact ⟨_, rfl⟩

theorem Dead.run_probe (dead : keyring.Dead) (service : String) (s : σ) :
    (keyring.probe service).run s = (.ok (), s) := by
  unfold probe
  rw [ActionE.run_mapError, dead.access]
  rfl

theorem Dead.run_entry (dead : keyring.Dead) (service : String) {key : String}
    (valid : SecretKey.Valid key) (s : σ) : (keyring.entry service key).run s = (.ok (), s) := by
  unfold entry
  rw [ActionE.run_bind, ActionE.run_ofExcept, SecretKey.require_of_valid valid]
  dsimp only
  rw [ActionE.run_mapError, dead.access]
  rfl

variable [Journal σ]

theorem Dead.run_set (dead : keyring.Dead) (service : String) {key : String}
    (valid : SecretKey.Valid key) (value : Option String) (s : σ) :
    ∃ reason, ((keyring.store service).set key value).run s =
      (.error (.credential (.keyring reason)), s) := by
  show ∃ reason, (keyring.set service key value).run s = _
  unfold set
  rw [ActionE.run_bind, dead.run_entry service valid]
  dsimp only
  cases value with
  | some secret =>
    obtain ⟨reason, failed⟩ := dead.setPassword service key secret s
    rw [ActionE.run_bind, ActionE.run_mapError, failed]
    exact ⟨reason, rfl⟩
  | none =>
    obtain ⟨reason, failed⟩ := dead.deletePassword service key s
    rw [ActionE.run_bind, ActionE.run_attempt, failed]
    exact ⟨reason, rfl⟩

theorem Dead.run_perform (dead : keyring.Dead) (service : String) (call : SecretCall)
    (valid : SecretKey.Valid call.key) (s : σ) :
    ∃ reason, ((keyring.store service).perform call).run s =
      (.error (.credential (.keyring reason)), s) := by
  cases call with
  | get key =>
    have valid : SecretKey.Valid key := valid
    obtain ⟨reason, failed⟩ := dead.getPassword service key s
    show ∃ reason, (keyring.get service key).run s = _
    unfold get
    rw [ActionE.run_bind, dead.run_entry service valid]
    dsimp only
    rw [ActionE.run_bind, ActionE.run_attempt, failed]
    exact ⟨reason, rfl⟩
  | set key value =>
    have valid : SecretKey.Valid key := valid
    obtain ⟨reason, failed⟩ := dead.run_set service valid value s
    exact ⟨reason, by rw [SecretStore.run_perform_set, failed]; rfl⟩

end Keyring

/-! ## Chains of one store -/

namespace SecretChain

variable {σ : Type} [Journal σ] (store : SecretStore σ)

/-- The state is the one that the store leaves, but for a report. -/
def Reports (after left : σ) : Prop :=
  after = left ∨ ∃ entry, after = Journal.record entry left

theorem run_set_single (key : String) (value : Option String) (s : σ) :
    ∃ after, ((⟨[store]⟩ : SecretChain σ).store.set key value).run s =
        (((store.set key value).run s).1, after) ∧ Reports after ((store.set key value).run s).2 := by
  show ∃ after, ((⟨[store]⟩ : SecretChain σ).set key value).run s = _ ∧ _
  unfold set
  cases value with
  | some secret =>
    dsimp only [put]
    rw [ActionE.run_bind]
    rcases (store.set key (some secret)).run s with ⟨answer, next⟩
    cases answer with
    | error failure => exact ⟨next, rfl, .inl rfl⟩
    | ok _ => exact ⟨_, rfl, .inr ⟨_, rfl⟩⟩
  | none =>
    dsimp only [eraseFrom]
    rw [ActionE.run_bind, ActionE.run_bind]
    rcases (store.set key none).run s with ⟨answer, next⟩
    cases answer with
    | error failure => exact ⟨next, rfl, .inl rfl⟩
    | ok _ => exact ⟨_, rfl, .inr ⟨_, rfl⟩⟩

theorem run_perform_single (call : SecretCall) (s : σ) :
    ∃ after, ((⟨[store]⟩ : SecretChain σ).store.perform call).run s =
        (((store.perform call).run s).1, after) ∧ Reports after ((store.perform call).run s).2 := by
  cases call with
  | get key =>
    show ∃ after, (getFrom key [store]).run s = (((store.get key).run s).1, after) ∧
      Reports after ((store.get key).run s).2
    rw [getFrom, ActionE.run_bind]
    rcases (store.get key).run s with ⟨answer, next⟩
    cases answer with
    | error failure => exact ⟨next, rfl, .inl rfl⟩
    | ok found =>
      cases found with
      | none => exact ⟨next, rfl, .inl rfl⟩
      | some secret => exact ⟨_, rfl, .inr ⟨_, rfl⟩⟩
  | set key value =>
    obtain ⟨after, run, reports⟩ := run_set_single store key value s
    rw [SecretStore.run_perform_set, SecretStore.run_perform_set, run]
    exact ⟨after, rfl, reports⟩

end SecretChain

/-! ## Shelves of secrets -/

/-- The entries of some keys hold the secrets of a map. -/
structure Session.Shelves (cipher : Cipher) (directory service password : String) (base : Place)
    (used : String → Prop) (s : Session) (held : SecretMap) : Prop where
  unlocked : s.password = some password
  serves : s.files.Serves directory base fun name => ∃ key, used key ∧ name = sealedName service key
  reaches : ∀ key, used key → s.files.Reaches directory (sealedName service key)
  holds : ∀ key, used key → cipher.answer (some password)
    (s.files.entry? (Path.join directory (sealedName service key))) = .ok (held key)

namespace Session.Shelves

variable {cipher : Cipher} {directory service password key : String} {base : Place}
  {used : String → Prop} {s after : Session} {held : SecretMap}

theorem record (shelves : Shelves cipher directory service password base used s held)
    (entry : JournalEntry) :
    Shelves cipher directory service password base used (Journal.record entry s) held :=
  ⟨shelves.unlocked, shelves.serves, shelves.reaches, shelves.holds⟩

theorem reports (shelves : Shelves cipher directory service password base used s held)
    (same : SecretChain.Reports after s) :
    Shelves cipher directory service password base used after held := by
  rcases same with rfl | ⟨entry, rfl⟩
  · exact shelves
  · exact shelves.record entry

section Calls

variable (shelves : Shelves cipher directory service password base used s held)
  (plain : '/' ∉ service.toList) (validity : ∀ key, used key → SecretKey.Valid key)
  (isUsed : used key)

include shelves plain validity isUsed

theorem replace {value : Option String}
    (replaces : Replaces directory base (fun name => ∃ key, used key ∧ name = sealedName service key)
      (sealedName service key) s after)
    (stored : cipher.answer (some password)
      (after.files.entry? (Path.join directory (sealedName service key))) = .ok value) :
    Shelves cipher directory service password base used after (held.put key value) where
  unlocked := replaces.password.trans shelves.unlocked
  serves := replaces.serves
  reaches other isUsed' := replaces.reaches _ (shelves.reaches other isUsed')
  holds other isUsed' := by
    by_cases here : other = key
    · subst here
      rw [SecretMap.put_self]
      exact stored
    · have isName := SecretKey.isName_sealedName plain (validity other isUsed')
      rw [SecretMap.put_of_ne _ _ here, replaces.others _ ⟨other, isUsed', rfl⟩ isName
        fun same => here (sealedName_injective service same)]
      exact shelves.holds other isUsed'

theorem run_get :
    ∃ after, ((vault cipher directory service).get key).run s = (.ok (held key), after) ∧
      Shelves cipher directory service password base used after held := by
  have answer := answer_get cipher shelves.serves plain (validity key isUsed)
    ⟨key, isUsed, rfl⟩
  have state := @run_get_state cipher directory service s key
  rw [shelves.unlocked, shelves.holds key isUsed] at answer
  rcases run : ((vault cipher directory service).get key).run s with ⟨found, after⟩
  rw [run] at answer state
  obtain rfl : found = .ok (held key) := answer
  exact ⟨after, rfl, shelves.reports state⟩

theorem run_set
    (opens : ∀ bits text, cipher.decrypt password (cipher.encrypt password bits text) = .ok text)
    (value : Option String) :
    ∃ after, ((vault cipher directory service).set key value).run s = (.ok (), after) ∧
      Shelves cipher directory service password base used after (held.put key value) := by
  have valid := validity key isUsed
  cases value with
  | none =>
    obtain ⟨after, run, replaces, erased⟩ := run_erase_entry cipher shelves.serves plain
      valid ⟨key, isUsed, rfl⟩
    refine ⟨after, run, shelves.replace plain validity isUsed replaces ?_⟩
    rw [erased]
    rfl
  | some text =>
    obtain ⟨after, replaces, ⟨password', bits, unlocked, run, stored⟩ |
      ⟨_, _, locked | unreached, _⟩⟩ := run_put_entry cipher shelves.serves plain valid
        ⟨key, isUsed, rfl⟩ text
    · obtain rfl : password = password' :=
        Option.some.inj (shelves.unlocked.symm.trans unlocked)
      refine ⟨after, run, shelves.replace plain validity isUsed replaces ?_⟩
      rw [stored]
      show ((cipher.decrypt password _).mapError Failure.credential).map some = _
      rw [opens]
      rfl
    · rw [shelves.unlocked] at locked
      cases locked
    · exact absurd (shelves.reaches key isUsed) unreached

end Calls

/-- The vault answers a call as the map does, and its entries hold the map afterwards. -/
theorem perform (shelves : Shelves cipher directory service password base used s held)
    (plain : '/' ∉ service.toList) (validity : ∀ key, used key → SecretKey.Valid key)
    (opens : ∀ bits text, cipher.decrypt password (cipher.encrypt password bits text) = .ok text)
    (call : SecretCall) (isUsed : used call.key) :
    (((vault cipher directory service).store.perform call).run s).1 =
        ((SecretMap.store.perform call).run held).1 ∧
      Shelves cipher directory service password base used
        (((vault cipher directory service).store.perform call).run s).2
        ((SecretMap.store.perform call).run held).2 := by
  cases call with
  | get key =>
    obtain ⟨after, run, shelves'⟩ := shelves.run_get plain validity isUsed
    rw [SecretMap.run_get, show ((vault cipher directory service).store.perform (.get key)).run s =
      _ from run]
    exact ⟨rfl, shelves'⟩
  | set key value =>
    obtain ⟨after, run, shelves'⟩ := shelves.run_set plain validity isUsed opens value
    rw [SecretMap.run_set, SecretStore.run_perform_set,
      show ((vault cipher directory service).store.set key value).run s = _ from run]
    exact ⟨rfl, shelves'⟩

end Session.Shelves

/-! ## The chain that is set up -/

namespace Session

/-- The stores of the program over another keyring. -/
def backendsOver (cipher : Cipher) (network : Network Session) (keyring : Keyring Session) :
    SecretBackends Session :=
  { (program cipher network).backends with keyring }

section Opening

variable (cipher : Cipher) (network : Network Session) {keyring : Keyring Session}
  (environment : Environment) {settings : SecretSettings} {password : String}

theorem run_openEncrypted (keyring : Keyring Session)
    (given : settings.masterPassword = some password)
    (accepted : EncryptedStore.passwordMinimum ≤ password.utf8ByteSize) (s : Session) :
    ∃ opened, ((backendsOver cipher network keyring).openEncrypted environment settings).run s =
        (.ok [(vault cipher (settings.directory environment) serviceName).store], opened) ∧
      opened.files = s.files ∧ opened.password = some password := by
  have unlocked : ((vault cipher (settings.directory environment) serviceName).setPassword
      password).run s = _ := run_setPassword cipher _ serviceName s password
  rw [if_neg (Nat.not_lt.mpr accepted)] at unlocked
  have found : StateT.run ((backendsOver cipher network keyring).findPassword settings) s =
      (some password, s) := by
    unfold SecretBackends.findPassword
    rw [given]
    rfl
  unfold SecretBackends.openEncrypted
  rw [ActionE.run_bind, ActionE.run_ofState, found]
  dsimp only
  rw [ActionE.run_bind, show (backendsOver cipher network keyring).encrypted
    (settings.directory environment) = vault cipher _ serviceName from rfl, unlocked]
  exact ⟨_, rfl, rfl, rfl⟩

variable (configured : settings.storage = .keyring) (s : Session)

include configured

theorem run_openKeyring (keyring : Keyring Session) :
    ∃ entry, StateT.run ((backendsOver cipher network keyring).openKeyring settings) s =
      (match ((keyring.probe serviceName).run s).1 with
        | .ok () => [keyring.store serviceName]
        | .error _ => [], Journal.record entry ((keyring.probe serviceName).run s).2) := by
  unfold SecretBackends.openKeyring
  rw [if_neg (by simp [configured]), ActionE.run_state_bind, ActionE.run_outcome,
    show (backendsOver cipher network keyring).keyring = keyring from rfl]
  rcases (keyring.probe serviceName).run s with ⟨outcome, after⟩
  cases outcome <;> exact ⟨_, rfl⟩

/-- A keyring in which no entry can be made is replaced by the vault. -/
theorem openChain_closed (closed : keyring.Closed) (given : settings.masterPassword = some password)
    (accepted : EncryptedStore.passwordMinimum ≤ password.utf8ByteSize) :
    ∃ opened, ((backendsOver cipher network keyring).openChain environment settings).run s =
        (.ok ⟨[(vault cipher (settings.directory environment) serviceName).store]⟩, opened) ∧
      opened.files = s.files ∧ opened.password = some password := by
  obtain ⟨failure, probed⟩ := closed.run_probe serviceName s
  obtain ⟨entry, keyrings⟩ :=
    run_openKeyring cipher network configured s keyring
  rw [probed] at keyrings
  obtain ⟨opened, run, files, unlocked⟩ := run_openEncrypted cipher network environment keyring
    given accepted (Journal.record entry s)
  unfold SecretBackends.openChain
  rw [ActionE.run_bind, ActionE.run_ofState, keyrings]
  dsimp only
  rw [if_pos (.inr rfl), ActionE.run_bind, run]
  exact ⟨opened, rfl, files, unlocked⟩

/-- A keyring in which entries can be made is used, and nothing else. -/
theorem openChain_dead (dead : keyring.Dead) :
    ∃ opened, ((backendsOver cipher network keyring).openChain environment settings).run s =
        (.ok ⟨[keyring.store serviceName]⟩, opened) ∧ opened.files = s.files := by
  obtain ⟨entry, keyrings⟩ :=
    run_openKeyring cipher network configured s keyring
  rw [dead.run_probe serviceName s] at keyrings
  unfold SecretBackends.openChain
  rw [ActionE.run_bind, ActionE.run_ofState, keyrings]
  dsimp only
  rw [if_neg (by simp [configured]), ActionE.run_bind]
  exact ⟨_, rfl, rfl⟩

end Opening

/-! ## Calls on the chain -/

theorem performAll_dead {keyring : Keyring Session} (dead : keyring.Dead) (service : String)
    (calls : List SecretCall) (valid : ∀ call ∈ calls, SecretKey.Valid call.key) (s : Session) :
    let reached := (⟨[keyring.store service]⟩ : SecretChain Session).store.performAll calls s
    (∀ answer ∈ reached.1, ∃ reason, answer = .error (.credential (.keyring reason))) ∧
      reached.1.length = calls.length ∧ reached.2.files = s.files := by
  induction calls generalizing s with
  | nil => exact ⟨nofun, rfl, rfl⟩
  | cons call calls ih =>
    obtain ⟨reason, failed⟩ := dead.run_perform service call (valid call List.mem_cons_self) s
    obtain ⟨after, run, reports⟩ :=
      SecretChain.run_perform_single (keyring.store service) call s
    rw [failed] at run reports
    obtain ⟨answers, count, files⟩ := ih (fun later member =>
      valid later (List.mem_cons_of_mem _ member)) after
    have same : after.files = s.files := by
      rcases reports with rfl | ⟨entry, rfl⟩ <;> rfl
    unfold SecretStore.performAll
    rw [run]
    refine ⟨fun answer member => ?_, congrArg (· + 1) count, files.trans same⟩
    rcases List.mem_cons.mp member with rfl | later
    · exact ⟨reason, rfl⟩
    · exact answers answer later

/-- Calls on the vault alone in a chain get the answers of a map, and its entries hold the map. -/
theorem performAll_vault {cipher : Cipher} {directory service password : String} {base : Place}
    {used : String → Prop} {s : Session} {held : SecretMap}
    (shelves : Shelves cipher directory service password base used s held)
    (plain : '/' ∉ service.toList) (validity : ∀ key, used key → SecretKey.Valid key)
    (opens : ∀ bits text, cipher.decrypt password (cipher.encrypt password bits text) = .ok text)
    (calls : List SecretCall) (isUsed : ∀ call ∈ calls, used call.key) :
    let chain : SecretChain Session := ⟨[(vault cipher directory service).store]⟩
    (chain.store.performAll calls s).1 = (SecretMap.store.performAll calls held).1 ∧
      Shelves cipher directory service password base used (chain.store.performAll calls s).2
        (SecretMap.store.performAll calls held).2 := by
  refine SecretStore.performAll_alike _ _
    (Shelves cipher directory service password base used) calls ?_ shelves
  intro call member s held shelves
  obtain ⟨answer, shelves'⟩ := shelves.perform plain validity opens call (isUsed call member)
  obtain ⟨after, run, reports⟩ :=
    SecretChain.run_perform_single (vault cipher directory service).store call s
  rw [run]
  exact ⟨answer, shelves'.reports reports⟩

/-- With a master password that is long enough, the stores are set up over any keyring that cannot
be used.  The calls on them all get the answers of a map, through encrypted files, if no entry can
be made in the keyring; if entries can be made, then every call fails and no file is changed. -/
theorem fallback_works_iff (cipher : Cipher) (network : Network Session)
    (keyring : Keyring Session) (environment : Environment) (settings : SecretSettings)
    (password : String) (base : Place) (s : Session) (held : SecretMap) (calls : List SecretCall)
    (unusable : keyring.Closed ∨ keyring.Dead) (configured : settings.storage = .keyring)
    (given : settings.masterPassword = some password)
    (accepted : EncryptedStore.passwordMinimum ≤ password.utf8ByteSize)
    (opens : ∀ bits text, cipher.decrypt password (cipher.encrypt password bits text) = .ok text)
    (nonempty : calls ≠ []) (valid : ∀ call ∈ calls, SecretKey.Valid call.key)
    (shelves : Shelves cipher (settings.directory environment) serviceName password base
      (fun key => ∃ call ∈ calls, call.key = key) { s with password := some password } held) :
    ∃ manager opened,
      ((backendsOver cipher network keyring).openChain environment settings).run s =
        (.ok manager, opened) ∧
      let reached := manager.store.performAll calls opened
      (reached.1 = (SecretMap.store.performAll calls held).1 ↔ keyring.Closed) ∧
      (keyring.Closed → manager.names = ["encrypted_file"] ∧
        Shelves cipher (settings.directory environment) serviceName password base
          (fun key => ∃ call ∈ calls, call.key = key) reached.2
          (SecretMap.store.performAll calls held).2) ∧
      (keyring.Dead → manager.names = ["keyring"] ∧
        (∀ answer ∈ reached.1, ∃ reason, answer = .error (.credential (.keyring reason))) ∧
        reached.2.files = s.files) := by
  rcases unusable with closed | dead
  · obtain ⟨opened, run, files, unlocked⟩ := openChain_closed cipher network environment
      configured s closed given accepted
    have start : Shelves cipher (settings.directory environment) serviceName password base
        (fun key => ∃ call ∈ calls, call.key = key) opened held :=
      ⟨unlocked, files ▸ shelves.serves, files ▸ shelves.reaches, files ▸ shelves.holds⟩
    have validity : ∀ key, (∃ call ∈ calls, call.key = key) → SecretKey.Valid key := by
      rintro _ ⟨call, member, rfl⟩
      exact valid call member
    obtain ⟨answers, after⟩ := performAll_vault start (by decide) validity opens calls
      fun call member => ⟨call, member, rfl⟩
    refine ⟨_, opened, run, iff_of_true answers closed, fun _ => ⟨rfl, after⟩, fun dead => ?_⟩
    exact absurd closed (dead.not_closed s)
  · obtain ⟨opened, run, files⟩ := openChain_dead cipher network environment configured s dead
    obtain ⟨answers, count, unchanged⟩ := performAll_dead dead serviceName calls valid opened
    refine ⟨_, opened, run, iff_of_false (fun same => ?_) (dead.not_closed s),
      fun closed => absurd closed (dead.not_closed s), fun _ => ⟨rfl, answers, ?_⟩⟩
    · -- All answers are failures, and a map never fails; so it matters that there is an answer.
      have answered : ((⟨[keyring.store serviceName]⟩ : SecretChain Session).store.performAll calls
          opened).1 ≠ [] := by
        rw [← List.length_pos_iff, count]
        exact List.length_pos_iff.mpr nonempty
      obtain ⟨answer, member⟩ := List.exists_mem_of_ne_nil _ answered
      obtain ⟨reason, failed⟩ := answers answer member
      obtain ⟨found, worked⟩ := SecretMap.performAll_ok calls held answer (same ▸ member)
      cases failed.symm.trans worked
    · exact unchanged.trans files

/-! ## A first secret over an unusable keyring -/

def noVariables : Environment := ⟨[], none⟩

def keyringSettings : SecretSettings where
  path := "/credentials"
  masterPassword := some "test_password_123"

def unfilled : Session where
  files := .credentialsOnly
  randomness := id

def tokenCalls : List SecretCall :=
  [.get "token", .set "token" (some "ghp_secret"), .get "token"]

theorem shelves_unfilled :
    Shelves .prefixed (keyringSettings.directory noVariables) serviceName "test_password_123" ["credentials"]
      (fun key => ∃ call ∈ tokenCalls, call.key = key)
      { unfilled with password := some "test_password_123" } fun _ => none := by
  have only : ∀ key, (∃ call ∈ tokenCalls, call.key = key) → key = "token" := by
    rintro _ ⟨call, member, rfl⟩
    simp only [tokenCalls, List.mem_cons, List.not_mem_nil, or_false] at member
    rcases member with rfl | rfl | rfl <;> rfl
  refine ⟨rfl, FileTree.serves_credentialsOnly _, fun key isUsed => ?_, fun key isUsed => ?_⟩
  · obtain rfl := only key isUsed
    exact ⟨_, rfl⟩
  · obtain rfl := only key isUsed
    rfl

end Session

/-- A keyring in which no entry can be made. -/
def Keyring.shut {σ : Type} : Keyring σ :=
  { absent with access := fun _ _ => throw noService }

theorem Keyring.closed_shut {σ : Type} : (shut : Keyring σ).Closed :=
  ⟨fun _ _ _ => ⟨noService, rfl⟩⟩

namespace Session

/-- A secret is read back from an encrypted file. -/
theorem fallback_works_iff_without_entries :
    ∃ manager opened, ((backendsOver .prefixed .unreachable .shut).openChain noVariables
        keyringSettings).run unfilled = (.ok manager, opened) ∧
      (manager.store.performAll tokenCalls opened).1 =
        [.ok none, .ok none, .ok (some "ghp_secret")] := by
  have closed : (Keyring.shut : Keyring Session).Closed := Keyring.closed_shut
  have valid : ∀ call ∈ tokenCalls, SecretKey.Valid call.key := by decide
  obtain ⟨manager, opened, run, works, _⟩ := fallback_works_iff .prefixed .unreachable .shut noVariables
    keyringSettings "test_password_123" ["credentials"] unfilled (fun _ => none) tokenCalls
    (.inl closed) rfl rfl (by decide) (Cipher.prefixed_opens _) nofun valid shelves_unfilled
  exact ⟨manager, opened, run, (works.mpr closed).trans (by rfl)⟩

/-- Without a keyring service the keyring is used all the same, and nothing works. -/
theorem no_fallback_without_service :
    (Keyring.absent : Keyring Session).Dead ∧
      ∃ manager opened, ((backendsOver .prefixed .unreachable .absent).openChain noVariables
          keyringSettings).run unfilled = (.ok manager, opened) ∧
        manager.names = ["keyring"] ∧
        (manager.store.performAll tokenCalls opened).1 =
          List.replicate 3 (.error (.credential (.keyring Keyring.noService))) :=
  ⟨Keyring.dead_absent, _, _, rfl, rfl, rfl⟩

end Session

end AccountKeeper
