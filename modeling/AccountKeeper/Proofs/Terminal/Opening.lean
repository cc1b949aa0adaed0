import AccountKeeper.Proofs.Keeping
import AccountKeeper.Proofs.Parallel
import AccountKeeper.Session

/-!
# What the opening of stores depends on

The stores are opened with the help of two files, that of the configuration and
that of the accounts.  Sessions whose trees of files agree on where these two
paths lead open their stores or fail alike, whatever else their trees hold and
whatever the entries of the keyring are.
-/

set_option autoImplicit false

namespace AccountKeeper

section Reading

variable {σ : Type} {files : FileSystem σ} {path : String} {s : σ}

/-- What the content of a file is as a text. -/
def FileSystem.textOf (content : Except FileFault ByteArray) : Except FileFault String :=
  content.bind fun content => (String.fromUTF8? content).elim (.error .notText) .ok

theorem FileSystem.run_readText {content : Except FileFault ByteArray}
    (reads : (files.read path).run s = (content, s)) :
    (files.readText path).run s = (textOf content, s) := by
  unfold readText textOf
  rw [ActionE.run_bind, reads]
  cases content with
  | error fault => rfl
  | ok content =>
    dsimp only [Except.bind]
    cases String.fromUTF8? content with
    | none => rfl
    | some text => rfl

/-- What a text is as a configuration. -/
def Config.ofText (text : Except FileFault String) : Except Failure Config :=
  match text with
  | .error fault => .error (.config (.unreadable fault))
  | .ok text => (parse text).mapError .config

theorem Config.run_loadFrom {text : Except FileFault String}
    (reads : (files.readText path).run s = (text, s)) :
    (loadFrom files path).run s = (ofText text, s) := by
  unfold loadFrom ofText
  rw [ActionE.run_bind, ActionE.run_mapError, reads]
  cases text with
  | error fault => rfl
  | ok text =>
    dsimp only [ActionE.mapError_ok]
    cases parse text with
    | error failure => rfl
    | ok config => rfl

end Reading

namespace FileTree

/-- Both trees have the same node, or the same fault, where a path leads. -/
def AgreeOn (path : String) (tree other : FileTree) : Prop :=
  tree.target path = other.target path

variable {path : String} {tree other : FileTree}

theorem AgreeOn.leads (agree : AgreeOn path tree other) : tree.leads path = other.leads path := by
  unfold FileTree.leads
  rw [agree]

theorem AgreeOn.read (agree : AgreeOn path tree other) : tree.read path = other.read path := by
  unfold FileTree.read
  rw [agree]

theorem read_of_not_leads (absent : tree.leads path = false) :
    ∃ fault, tree.read path = .error fault := by
  unfold FileTree.leads at absent
  unfold FileTree.read
  cases target : tree.target path with
  | error fault => exact ⟨fault, rfl⟩
  | ok node =>
    rw [target] at absent
    cases absent

end FileTree

/-- Looking something up in a keyring changes no file, and whether an entry can be made does not
depend on the files.  What storing and erasing do is left open. -/
structure Keyring.Detached (keyring : Keyring Session) : Prop where
  access : ∀ service user session files,
    (keyring.access service user).run { session with files } =
      (((keyring.access service user).run session).1,
        { ((keyring.access service user).run session).2 with files })
  getPassword : ∀ service user, (keyring.getPassword service user).Keeps Session.files

theorem Keyring.Detached.keeps_access {keyring : Keyring Session} (detached : keyring.Detached)
    (service user : String) : (keyring.access service user).Keeps Session.files := by
  intro session
  exact congrArg (fun ended => ended.2.files)
    (detached.access service user session session.files)

namespace Session

/-- The trees agree on the configuration, and on the accounts that it names. -/
structure SameStores (environment : Environment) (tree other : FileTree) : Prop where
  configuration : ∀ path, Config.resolvePath environment = .ok path →
    FileTree.AgreeOn path tree other
  accounts : ∀ path config, configuration? tree environment = some (path, config) →
    FileTree.AgreeOn (config.statePath environment) tree other

/-- Sessions that differ in their trees of files alone. -/
def Apart (tree other : FileTree) (session session' : Session) : Prop :=
  session.files = tree ∧ session' = { session with files := other }

variable {tree other : FileTree} {cipher : Cipher} {network : Network Session}
  {environment : Environment}

theorem apart_recorded : Recorded (Apart tree other) := by
  rintro entry session _ ⟨here, rfl⟩
  exact ⟨here, rfl⟩

theorem parallel_terminal {α : Type} (step : StateM Terminal α) :
    Parallel (Apart tree other) Eq (terminalPart.liftState step) (terminalPart.liftState step) := by
  rintro session _ ⟨here, rfl⟩
  exact ⟨rfl, here, rfl⟩

theorem parallel_access {keyring : Keyring Session} (detached : keyring.Detached)
    (service user : String) :
    (keyring.access service user).Parallel (Apart tree other) Eq (keyring.access service user) := by
  rintro session _ ⟨rfl, rfl⟩
  have moved := detached.access service user session other
  refine ⟨?_, detached.keeps_access service user session, congrArg Prod.snd moved⟩
  rw [congrArg Prod.fst moved]
  exact .refl _

variable (keyring keyring' : Keyring Session)

variable (cipher network) in
theorem parallel_readText {path : String} (agree : FileTree.AgreeOn path tree other) :
    ((programOver cipher network keyring).files.readText path).Parallel (Apart tree other) Eq
      ((programOver cipher network keyring').files.readText path) := by
  rintro session _ ⟨here, rfl⟩
  have reads (keyring : Keyring Session) (session : Session) :
      ((programOver cipher network keyring).files.read path).run session =
        (session.files.read path, session) := rfl
  rw [FileSystem.run_readText (reads keyring session), FileSystem.run_readText (reads keyring' _),
    here, agree.read]
  exact ⟨.refl _, here, rfl⟩

variable (cipher network) in
theorem parallel_leads {path : String} (agree : FileTree.AgreeOn path tree other) :
    Parallel (Apart tree other) Eq ((programOver cipher network keyring).files.leads path)
      ((programOver cipher network keyring').files.leads path) := by
  rintro session _ ⟨here, rfl⟩
  refine ⟨?_, here, rfl⟩
  rw [← here] at agree
  exact agree.leads

/-! ## The configuration -/

theorem configuration?_eq {path : String} (path_eq : Config.resolvePath environment = .ok path) :
    configuration? tree environment = some (path,
      (Config.ofText (FileSystem.textOf (tree.read path))).toOption.getD {}) := by
  have loaded := Config.run_loadFrom (FileSystem.run_readText
    (show (FileTree.system.read path).run tree = (tree.read path, tree) from rfl))
  unfold configuration?
  simp only [path_eq, loaded]

theorem run_loadFile {path : String} (path_eq : Config.resolvePath environment = .ok path)
    (session : Session) :
    (Config.loadFile (programOver cipher network keyring).files environment).run session =
      if session.files.leads path then
        (Config.ofText (FileSystem.textOf (session.files.read path)), session)
      else (.ok {}, Journal.record
        ⟨.config, .debug, "No config file at " ++ path ++ ", using defaults"⟩ session) := by
  have leads : (liftM ((programOver cipher network keyring).files.leads path) :
      Action Session Bool).run session = (.ok (session.files.leads path), session) := rfl
  have loads := Config.run_loadFrom (FileSystem.run_readText
    (show ((programOver cipher network keyring).files.read path).run session =
      (session.files.read path, session) from rfl))
  unfold Config.loadFile
  rw [ActionE.run_bind, ActionE.run_ofExcept, path_eq]
  dsimp only
  rw [ActionE.run_bind, leads]
  dsimp only
  cases session.files.leads path with
  | true => exact loads
  | false => rfl

theorem parallel_loadFile (same : SameStores environment tree other) :
    (Config.loadFile (programOver cipher network keyring).files environment).Parallel
      (Apart tree other)
      (fun config config' => config = config' ∧
        FileTree.AgreeOn (config.statePath environment) tree other)
      (Config.loadFile (programOver cipher network keyring').files environment) := by
  cases path_eq : Config.resolvePath environment with
  | error failure =>
    unfold Config.loadFile
    rw [path_eq]
    exact .bind (.ofExcept (.error failure)) fun _ _ impossible => False.elim impossible
  | ok path =>
    have agree := same.configuration path path_eq
    rintro session _ ⟨rfl, rfl⟩
    rw [run_loadFile keyring path_eq, run_loadFile keyring' path_eq]
    dsimp only
    rw [← agree.leads, ← agree.read]
    split
    · rename_i there
      refine ⟨?_, rfl, rfl⟩
      have found : configuration? session.files environment = _ := configuration?_eq path_eq
      cases loads : Config.ofText (FileSystem.textOf (session.files.read path)) with
      | error failure => exact .error failure
      | ok config =>
        rw [loads] at found
        exact .ok ⟨rfl, same.accounts path config found⟩
    · rename_i absent
      have found : configuration? session.files environment = _ := configuration?_eq path_eq
      obtain ⟨fault, unread⟩ := FileTree.read_of_not_leads (Bool.eq_false_iff.mpr absent)
      rw [unread] at found
      exact ⟨.ok ⟨rfl, same.accounts path {} found⟩, apart_recorded _ _ _ ⟨rfl, rfl⟩⟩

theorem parallel_loadConfig (same : SameStores environment tree other) :
    (Config.load (programOver cipher network keyring).files environment).Parallel
      (Apart tree other)
      (fun config config' => config = config' ∧
        FileTree.AgreeOn (config.statePath environment) tree other)
      (Config.load (programOver cipher network keyring').files environment) := by
  refine .bind (parallel_loadFile keyring keyring' same) ?_
  rintro config _ ⟨rfl, agree⟩
  refine .ofState ?_
  cases SecretSettings.givenPassword? environment with
  | none => exact .pure ⟨rfl, agree⟩
  | some password => exact .bind (.debug apart_recorded _ _) fun _ _ _ => .pure ⟨rfl, agree⟩

/-! ## Secrets -/

theorem parallel_findPassword (settings : SecretSettings) :
    Parallel (Apart tree other) Eq
      ((programOver cipher network keyring).backends.findPassword settings)
      ((programOver cipher network keyring').backends.findPassword settings) := by
  unfold SecretBackends.findPassword
  cases settings.masterPassword with
  | some password => exact .pure rfl
  | none =>
    refine .bind (parallel_terminal _) ?_
    rintro typed _ rfl
    match typed with
    | none => exact .pure rfl
    | some (.error reason) => exact .bind (.note apart_recorded _ _ _) fun _ _ _ => .pure rfl
    | some (.ok password) =>
      dsimp only
      split
      · exact .pure rfl
      · exact .bind (.note apart_recorded _ _ _) fun _ _ _ => .pure rfl

theorem parallel_setPassword (directory password : String) :
    (((programOver cipher network keyring).backends.encrypted directory).setPassword
      password).Parallel (Apart tree other) Eq
      (((programOver cipher network keyring').backends.encrypted directory).setPassword
        password) := by
  have assigned : (passwordPart.assign (some password) : Action Session PUnit).Parallel
      (Apart tree other) Eq (passwordPart.assign (some password)) := by
    rintro session _ ⟨here, rfl⟩
    exact ⟨.ok rfl, here, rfl⟩
  unfold EncryptedStore.setPassword
  split
  · exact .bind (.throw _) fun _ _ (_ : True) => .bind assigned fun _ _ _ =>
      .debug apart_recorded _ _
  · exact .bind assigned fun _ _ _ => .debug apart_recorded _ _

theorem parallel_openEncrypted (settings : SecretSettings) :
    ((programOver cipher network keyring).backends.openEncrypted environment settings).Parallel
      (Apart tree other) Eq
      ((programOver cipher network keyring').backends.openEncrypted environment settings) := by
  refine .bind (.ofState (parallel_findPassword keyring keyring' settings)) ?_
  rintro found _ rfl
  cases found with
  | none => exact .bind (.note apart_recorded _ _ _) fun _ _ _ => .pure rfl
  | some password =>
    exact .bind (parallel_setPassword keyring keyring' _ password) fun _ _ _ =>
      .bind (.note apart_recorded _ _ _) fun _ _ _ => .pure rfl

/-! ## Accounts -/

theorem parallel_loadAccounts {config : Config} (secrets secrets' : SecretStore Session)
    (agree : FileTree.AgreeOn (config.statePath environment) tree other) :
    ((programOver cipher network keyring).install environment config
      secrets).register.load.Parallel (Apart tree other) Eq
      ((programOver cipher network keyring').install environment config
        secrets').register.load := by
  have read : ((programOver cipher network keyring).install environment config
      secrets).register.readFile.Parallel (Apart tree other) Eq
      ((programOver cipher network keyring').install environment config
        secrets').register.readFile := by
    refine .bind (.ofState (parallel_leads cipher network keyring keyring' agree)) ?_
    rintro there _ rfl
    cases there with
    | false => exact .pure rfl
    | true =>
      refine .bind ((parallel_readText cipher network keyring keyring' agree).mapError _) ?_
      rintro text _ rfl
      cases AccountDocument.read text with
      | ok accounts => exact .pure rfl
      | error fault => exact .throw _
  refine .bind read ?_
  rintro accounts _ rfl session _ ⟨here, rfl⟩
  exact ⟨.ok rfl, here, rfl⟩

/-! ## Stores -/

variable {keyring keyring'} (detached : keyring.Detached)
  (alike : keyring'.access = keyring.access)

include detached alike

/-- Keyrings in which the same entries can be made are used both or neither. -/
theorem parallel_openKeyring (settings : SecretSettings) :
    Parallel (Apart tree other) (fun stores stores' => stores.isEmpty = stores'.isEmpty)
      ((programOver cipher network keyring).backends.openKeyring settings)
      ((programOver cipher network keyring').backends.openKeyring settings) := by
  have probe : (keyring.probe serviceName).Parallel (Apart tree other) Eq
      (keyring'.probe serviceName) := by
    unfold Keyring.probe
    rw [alike]
    exact (parallel_access detached _ _).mapError _
  unfold SecretBackends.openKeyring
  split
  · exact .pure rfl
  · refine .bind probe.outcome ?_
    rintro _ _ (failure | _)
    · exact .bind (.note apart_recorded _ _ _) fun _ _ _ => .pure rfl
    · exact .bind (.note apart_recorded _ _ _) fun _ _ _ => .pure rfl

theorem parallel_openChain (settings : SecretSettings) :
    ((programOver cipher network keyring).backends.openChain environment settings).Parallel
      (Apart tree other) (fun _ _ => True)
      ((programOver cipher network keyring').backends.openChain environment settings) := by
  have made (stores stores' : List (SecretStore Session))
      (empty : stores.isEmpty = stores'.isEmpty) :
      Matches (fun _ _ => True) (SecretChain.ofStores stores) (SecretChain.ofStores stores') := by
    unfold SecretChain.ofStores
    rw [← empty]
    split
    · exact .error _
    · exact .ok trivial
  refine .bind (.ofState (parallel_openKeyring detached alike settings)) ?_
  intro stores stores' empty
  have joined (encrypted : List (SecretStore Session)) :
      (stores ++ encrypted).isEmpty = (stores' ++ encrypted).isEmpty := by
    cases stores with
    | nil =>
      cases stores' with
      | nil => rfl
      | cons _ _ => cases empty
    | cons _ _ =>
      cases stores' with
      | nil => cases empty
      | cons _ _ => rfl
  dsimp only
  rw [← empty]
  split
  · refine .bind (parallel_openEncrypted keyring keyring' settings) ?_
    rintro encrypted _ rfl
    exact .ofExcept (made _ _ (joined encrypted))
  · exact .ofExcept (made _ _ (joined []))

variable (cipher network) in
/-- Whether the stores can be opened depends on the configuration, on the file of accounts and on
whether there is a keyring, and on nothing else that files and keyring hold. -/
theorem parallel_openStores (same : SameStores environment tree other) :
    ((programOver cipher network keyring).openStores environment).Parallel (Apart tree other)
      (fun _ _ => True) ((programOver cipher network keyring').openStores environment) := by
  refine .bind (parallel_loadConfig keyring keyring' same) ?_
  rintro config _ ⟨rfl, agree⟩
  refine .bind (.debug apart_recorded _ _) fun _ _ _ =>
    .bind (parallel_openChain detached alike _) ?_
  rintro chain chain' -
  exact .bind (parallel_loadAccounts keyring keyring' chain.store chain'.store agree)
    fun _ _ _ => .pure trivial

end Session

end AccountKeeper
