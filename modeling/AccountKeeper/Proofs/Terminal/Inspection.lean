import AccountKeeper.Proofs.Terminal.Looking
import AccountKeeper.Proofs.Terminal.Opening

/-!
# Inspections

`status` and `list` inspect what is there, and so does `migrate` until it has
something to do.  An inspection leaves all files as they are.  How `status`
ends is decided by the configuration and the accounts; the legacy data has no
say in it.
-/

set_option autoImplicit false

namespace AccountKeeper

namespace Program

variable {σ : Type} [Journal σ] (program : Program σ)

theorem run_status (installation : Installation σ) (s : σ) :
    ((program.status installation).run s).1 = .ok 0 := rfl

theorem exitCode_command {environment : Environment} {arguments : List String} {found : Arguments}
    (reads : CommandLine.read arguments = .run found) (s : σ) :
    (StateT.run (program.main environment arguments) s).1 =
      match ((program.command environment found.command).run
        (program.started environment found s)).1 with
      | .ok code => code
      | .error failure => failure.exitCode := by
  have runs : StateT.run (program.main environment arguments) s =
      StateT.run (program.runArguments environment found) s := by
    unfold main
    rw [reads]
  rw [runs]
  unfold runArguments
  rw [ActionE.run_state_bind, ActionE.run_state_bind, ActionE.run_outcome,
    show (StateT.run (program.startLog environment
      (Logging.ofEnvironment environment found.format found.verbose)) s).2 =
        program.started environment found s from rfl]
  cases ((program.command environment found.command).run
    (program.started environment found s)).1 with
  | ok code => rfl
  | error failure => rfl

/-- What becomes of `status` once the program has tried to open its stores. -/
def statusCode : Except Failure (Installation σ) → Nat
  | .ok _ => 0
  | .error failure => failure.exitCode

theorem exitCode_status {environment : Environment} {arguments : List String} {found : Arguments}
    (reads : CommandLine.read arguments = .run found) (asked : found.command = .status) (s : σ) :
    (StateT.run (program.main environment arguments) s).1 =
      statusCode ((program.openStores environment).run (program.started environment found s)).1 := by
  rw [program.exitCode_command reads, asked]
  unfold command
  rw [ActionE.run_bind]
  rcases (program.openStores environment).run (program.started environment found s)
    with ⟨answer, ready⟩
  cases answer with
  | error failure => rfl
  | ok installation =>
    dsimp only
    rw [program.run_status installation ready]
    rfl

end Program

namespace Session

variable {cipher : Cipher} {network : Network Session} {keyring : Keyring Session}

theorem spares (quiet : ∀ request, Keeps Session.files (network.send request))
    (access : ∀ service user, (keyring.access service user).Keeps Session.files)
    (getPassword : ∀ service user, (keyring.getPassword service user).Keeps Session.files) :
    (programOver cipher network keyring).Spares Session.files where
  reports _ _ := rfl
  terminal _ _ := rfl
  password _ _ := rfl
  listed _ _ := rfl
  leads _ _ := rfl
  read _ _ := rfl
  isLink _ _ := rfl
  access
  getPassword
  send := quiet

variable (cipher network) in
theorem parallel_startLog {tree other : FileTree} (keyring keyring' : Keyring Session)
    (environment : Environment) (logging : Logging) :
    Parallel (Apart tree other) Eq
      ((programOver cipher network keyring).startLog environment logging)
      ((programOver cipher network keyring').startLog environment logging) := by
  refine .bind (.forIn fun _ _ => .bind (parallel_terminal _) fun _ _ _ => .pure rfl) fun _ _ _ => ?_
  rintro session _ ⟨here, rfl⟩
  exact ⟨rfl, here, rfl⟩

theorem statusCode_eq {opened opened' : Except Failure (Installation Session)}
    (alike : Matches (fun _ _ => True) opened opened') :
    Program.statusCode opened' = Program.statusCode opened := by
  cases alike with
  | error failure => rfl
  | ok _ => rfl

variable (cipher network) in
/-- Whatever a session meets, inspecting changes neither a file nor its rights, and creates none;
and `status` fails only where the stores cannot be opened.  It ends in the same way over any keyring
in which the same entries can be made, and with any files that agree on the configuration and on
the accounts. -/
theorem inspection_changes_nothing
    (quiet : ∀ request, Keeps Session.files (network.send request))
    (detached : keyring.Detached) (environment : Environment)
    (arguments : List String) (found : Arguments)
    (reads : CommandLine.read arguments = .run found) (session : Session) :
    let program := programOver cipher network keyring
    ((found.command = .migrate →
        program.Idle environment (program.started environment found session)) →
      (session.runOver cipher network keyring environment arguments).2.files = session.files) ∧
    (found.command = .status →
      (session.runOver cipher network keyring environment arguments).1 =
        Program.statusCode ((program.openStores environment).run
          (program.started environment found session)).1 ∧
      ∀ (other : FileTree) (keyring' : Keyring Session),
        SameStores environment session.files other → keyring'.access = keyring.access →
        (runOver { session with files := other } cipher network keyring' environment arguments).1 =
          (session.runOver cipher network keyring environment arguments).1) := by
  intro program
  refine ⟨fun idle => ?_, fun asked => ⟨program.exitCode_status reads asked session,
    fun other keyring' same alike => ?_⟩⟩
  · have spared : program.Spares Session.files :=
      spares quiet detached.keeps_access detached.getPassword
    refine spared.main fun again reads' migrates => ?_
    rw [reads] at reads'
    cases reads'
    exact idle migrates
  · have apart : Apart session.files other session { session with files := other } := ⟨rfl, rfl⟩
    obtain ⟨-, started⟩ := parallel_startLog cipher network keyring keyring' environment
      (Logging.ofEnvironment environment found.format found.verbose) _ _ apart
    obtain ⟨opened, -⟩ := parallel_openStores cipher network detached alike same _ _ started
    unfold runOver
    rw [(programOver cipher network keyring').exitCode_status reads asked,
      (programOver cipher network keyring).exitCode_status reads asked]
    exact statusCode_eq opened

def environmentWithPaths : Environment :=
  ⟨[("GH_ACCOUNTS_CONFIG", "/c")], none⟩

/-- A session with a configuration and a legacy account with a password, and nobody to ask. -/
def withPasswordAccount : Session where
  files :=
    (({} : FileTree).plant ["c"] (.file ("[legacy]\nsettings_file = \"/l\"\n" ++
      "[accounts]\nstate_file = \"/a\"\n").toUTF8 0o600)).plant ["l"]
        (.file "[auth]\nauth_type = \"basic\"\n".toUTF8 0o644)
  randomness := id

/-- The same files, but for a legacy file that is no document. -/
def damaged : FileTree :=
  withPasswordAccount.files.plant ["l"] (.file "[auth".toUTF8 0o644)

theorem sameStores_damaged : SameStores environmentWithPaths withPasswordAccount.files damaged where
  configuration path resolved := by
    obtain rfl : "/c" = path := Except.ok.inj resolved
    rfl
  accounts path config found := by
    have named : (configuration? withPasswordAccount.files environmentWithPaths).map
        (fun found => found.2.statePath environmentWithPaths) = some "/a" := by decide +kernel
    rw [found] at named
    have accounts : config.statePath environmentWithPaths = "/a" := Option.some.inj named
    rw [accounts]
    rfl

/-- A keyring with the password of the legacy account, which is locked against changes. -/
def keyringWithPassword : Keyring Session where
  access _ _ := return ()
  getPassword service user :=
    if service = serviceName ∧ user = legacySecretKey then return "secret"
    else throw .noEntry
  setPassword _ _ _ := throw (.other "Couldn't access platform secure storage: locked")
  deletePassword _ _ := throw (.other "Couldn't access platform secure storage: locked")

theorem detached_keyringWithPassword : keyringWithPassword.Detached where
  access _ _ _ _ := rfl
  getPassword service user session := by
    unfold keyringWithPassword
    dsimp only
    split <;> rfl

/-- Without a terminal the login form is cancelled, and the migration with it. -/
theorem idle_withPasswordAccount :
    (programOver (.age 14 20) .unreachable keyringWithPassword).Idle environmentWithPaths
      ((programOver (.age 14 20) .unreachable keyringWithPassword).started environmentWithPaths
        ⟨.migrate, false, none⟩ withPasswordAccount) := by
  let ended := (((programOver (.age 14 20) .unreachable keyringWithPassword).openStores
      environmentWithPaths >>= fun installation => installation.migration.run .interactive
        ((programOver (.age 14 20) .unreachable keyringWithPassword).interaction installation)).run
    ((programOver (.age 14 20) .unreachable keyringWithPassword).started environmentWithPaths
      ⟨.migrate, false, none⟩ withPasswordAccount)).1
  have cancels : ended.toOption = some { cancelled := true } := by decide +kernel
  have runs : ended = .ok { cancelled := true } := by
    cases answer : ended with
    | error failure =>
      rw [answer] at cancels
      cases cancels
    | ok outcome =>
      rw [answer] at cancels
      cases cancels
      rfl
  exact .of_run runs rfl

/-- A migration with a keyring that answers is cancelled; and `status` ends in the same way with a
damaged legacy file and over a keyring that answers nothing. -/
theorem inspection_changes_nothing_for_password_account :
    (∀ request, Keeps Session.files ((Network.unreachable : Network Session).send request)) ∧
      keyringWithPassword.Detached ∧
      ((keyringWithPassword.store serviceName).get legacySecretKey).run withPasswordAccount =
        (.ok (some "secret"), Journal.record ⟨.credentials, .debug,
          "Retrieved secret gh-accounts.GITHUB_SETTINGS_PASSWORD_KEY from OS keyring"⟩
            withPasswordAccount) ∧
      CommandLine.read ["migrate"] = .run ⟨.migrate, false, none⟩ ∧
      (programOver (.age 14 20) .unreachable keyringWithPassword).Idle environmentWithPaths
        ((programOver (.age 14 20) .unreachable keyringWithPassword).started environmentWithPaths
          ⟨.migrate, false, none⟩ withPasswordAccount) ∧
      (withPasswordAccount.runOver (.age 14 20) .unreachable keyringWithPassword
        environmentWithPaths ["migrate"]).2.files = withPasswordAccount.files ∧
      CommandLine.read ["status"] = .run ⟨.status, false, none⟩ ∧
      SameStores environmentWithPaths withPasswordAccount.files damaged ∧
      (runOver { withPasswordAccount with files := damaged } (.age 14 20) .unreachable .absent
          environmentWithPaths ["status"]).1 =
        (withPasswordAccount.runOver (.age 14 20) .unreachable keyringWithPassword
          environmentWithPaths ["status"]).1 := by
  have quiet : ∀ request,
      Keeps Session.files ((Network.unreachable : Network Session).send request) :=
    fun _ => .pure _
  have migrates : CommandLine.read ["migrate"] = .run ⟨.migrate, false, none⟩ := by
    decide +kernel
  have looks : CommandLine.read ["status"] = .run ⟨.status, false, none⟩ := by
    decide +kernel
  have kept := (inspection_changes_nothing (.age 14 20) .unreachable quiet
    detached_keyringWithPassword environmentWithPaths ["migrate"] ⟨.migrate, false, none⟩ migrates
    withPasswordAccount).1 fun _ => idle_withPasswordAccount
  have told := ((inspection_changes_nothing (.age 14 20) .unreachable quiet
    detached_keyringWithPassword environmentWithPaths ["status"] ⟨.status, false, none⟩ looks
    withPasswordAccount).2 rfl).2 damaged .absent sameStores_damaged rfl
  exact ⟨quiet, detached_keyringWithPassword, rfl, migrates, idle_withPasswordAccount, kept, looks,
    sameStores_damaged, told⟩

end Session

end AccountKeeper
