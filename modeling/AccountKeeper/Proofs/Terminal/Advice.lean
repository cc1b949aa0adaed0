import AccountKeeper.Proofs.Terminal.Acceptance
import AccountKeeper.Proofs.Terminal.Settlement

/-!
# Whether advice can be followed

The report about a legacy account ends with the advice to run a migration.  A
migration can be completed, by somebody who types the right things and with
servers that answer well, exactly where it needs no server or where there is a
server that can be asked.  An account whose address is invalid is reported with
advice as well, and nobody can follow it.
-/

set_option autoImplicit false

namespace AccountKeeper

theorem LegacyCredential.needsServer_or_no_secret {old : LegacyCredential}
    (account : old.hasLegacyAccount = true) :
    old.NeedsServer ∨ old.authMode = .token ∧ old.secret = none := by
  unfold LegacyCredential.hasLegacyAccount at account
  unfold LegacyCredential.NeedsServer
  cases mode : old.authMode with
  | none =>
    rw [mode] at account
    cases account
  | basic => exact .inl trivial
  | token =>
    cases secret : old.secret with
    | none => exact .inr ⟨rfl, rfl⟩
    | some token => exact .inl rfl

namespace Workstation

variable (cipher : Cipher) (replies : Replies) (environment : Environment) (config : Config)
  {shelf : Shelf} {typed : List Typed} {station : Workstation} {old : LegacyCredential}

/-- A migration that needs a server that cannot be asked is cancelled, whatever is typed and
whatever the network does. -/
theorem At.migrate_refused (here : station.At shelf typed)
    (read : station.legacy environment config = .ok old) (account : old.hasLegacyAccount = true)
    (alone : shelf.listed = []) (needs : old.NeedsServer)
    (unaskable : ∀ server, ServerAddress.readHost old.host = .ok server →
      ¬Identity.Askable config.lookups.client server) :
    (((program cipher replies).migrate (installation cipher replies environment config)).run
      station).1 = .ok 1 := by
  obtain ⟨known, -, ran⟩ := here.run_migration cipher replies environment config read account alone
  let migration := (installation cipher replies environment config).migration
  have refused : (StateT.run (migration.decide (migration.atTerminal terminalPart) old) known).1 =
      .cancelled := by
    refine migration.decide_refused terminalPart old needs ?_ known
    intro server place token s
    exact Identity.validate_unaskable (network replies) (unaskable server place) _ token s
  rw [run_migrate]
  rw [ran]
  dsimp only
  rw [refused]
  rfl

/-- The station with something else that is going to be typed. -/
def typing (station : Workstation) (typed : List Typed) : Workstation :=
  { station with terminal := { station.terminal with pending := typed } }

/-- Whether there is something to type and something for the servers to answer with which a
migration succeeds and leaves nothing to report. -/
def Completable (station : Workstation) : Prop :=
  ∃ (typed : List Typed) (replies : Replies),
    let ended := ((program cipher replies).migrate
      (installation cipher replies environment config)).run (station.typing typed)
    ended.1 = .ok 0 ∧ ¬ended.2.Reported cipher replies environment config

section Following

variable (attended : station.terminal.attended = true) (alone : station.shelf.listed = [])
  (read : station.legacy environment config = .ok old) (account : old.hasLegacyAccount = true)

include attended alone read account

theorem not_completable (needs : old.NeedsServer)
    (unaskable : ∀ server, ServerAddress.readHost old.host = .ok server →
      ¬Identity.Askable config.lookups.client server) :
    ¬station.Completable cipher environment config := by
  rintro ⟨typed, replies, succeeds, -⟩
  have here : (station.typing typed).At station.shelf typed := ⟨rfl, rfl, attended⟩
  rw [here.migrate_refused cipher replies environment config read account alone needs
    unaskable] at succeeds
  cases succeeds

variable (clearable : ∀ text,
  station.shelf.files (config.settingsPath environment) = some text.toUTF8 → Clearable text)

include clearable

theorem completable_of_decision
    (decides : ∀ known : Workstation, known.At station.shelf (answers old) →
      let migration := (installation cipher helpful environment config).migration
      let decided := StateT.run (migration.decide (migration.atTerminal terminalPart) old) known
      (∃ left, decided.2.At station.shelf left) ∧ decided.1 ≠ .cancelled ∧
        ∀ name server token, decided.1 = .register name server token → name = "a") :
    station.Completable cipher environment config := by
  refine ⟨answers old, helpful, ?_⟩
  have here : (station.typing (answers old)).At station.shelf (answers old) := ⟨rfl, rfl, attended⟩
  obtain ⟨known, there, ran⟩ :=
    here.run_migration cipher helpful environment config read account alone
  obtain ⟨⟨left, later⟩, uncancelled, name⟩ := decides known there
  obtain ⟨step, settled, carries, ends, kept⟩ := later.run_carryOut cipher helpful environment
    config alone _ uncancelled name
  obtain ⟨cleared, clears, unreported⟩ := run_clear_spared cipher helpful environment config
    read account clearable (kept _)
  rw [run_migrate]
  dsimp only at ran ⊢
  rw [ran, ActionE.run_bind, carries]
  dsimp only
  rw [Migration.run_conclude, if_neg ends, clears]
  dsimp only [Except.map]
  unfold Program.announce
  dsimp only
  rw [MigrationStep.outcome_uncancelled ends]
  exact ⟨rfl, unreported _ rfl⟩

theorem completable_of_no_secret (mode : old.authMode = .token) (secret : old.secret = none) :
    station.Completable cipher environment config := by
  refine completable_of_decision cipher environment config attended alone read account clearable ?_
  intro known there migration decided
  rw [show decided = _ from Migration.run_decide_no_token mode secret]
  exact ⟨⟨_, there.record _⟩, by simp, by simp⟩

theorem completable_of_askable (needs : old.NeedsServer) {server : ServerAddress}
    (place : ServerAddress.readHost old.host = .ok server)
    (askable : Identity.Askable config.lookups.client server) :
    station.Completable cipher environment config := by
  refine completable_of_decision cipher environment config attended alone read account clearable ?_
  intro known there migration decided
  have asks : migration.resolver =
      Identity.resolver (network helpful) config.lookups.client := rfl
  obtain ⟨chosen, left, registers, later⟩ := there.decide asks askable place needs
  rw [show decided.1 = _ from registers]
  refine ⟨⟨left, later⟩, by simp, ?_⟩
  intro name _ _ same
  cases same
  rfl

end Following

/-- When the advice of the report can be followed.  For an account with a token there must be no
secret, or else, as for an account with a password, there must be an address that can be read and
a server there that can be asked. -/
theorem advice_followed_iff (station : Workstation)
    (attended : station.terminal.attended = true) (alone : station.shelf.listed = [])
    (clearable : ∀ text, station.shelf.files (config.settingsPath environment) = some text.toUTF8 →
      Clearable text)
    (reported : station.Reported cipher replies environment config) :
    ∃ old, station.legacy environment config = .ok old ∧
      (station.Completable cipher environment config ↔
        old.authMode = .token ∧ old.secret = none ∨
          ∃ server, ServerAddress.readHost old.host = .ok server ∧
            Identity.Askable config.lookups.client server) := by
  obtain ⟨old, read, account⟩ :=
    (station.reported_iff cipher replies environment config).mp reported
  refine ⟨old, read, ?_⟩
  rcases LegacyCredential.needsServer_or_no_secret account with needs | ⟨mode, secret⟩
  · constructor
    · intro completable
      refine .inr (Classical.byContradiction fun nowhere => ?_)
      refine not_completable cipher environment config attended alone read account needs ?_
        completable
      intro server place askable
      exact nowhere ⟨server, place, askable⟩
    · rintro (⟨mode, secret⟩ | ⟨server, place, askable⟩)
      · exact completable_of_no_secret cipher environment config attended alone read account
          clearable mode secret
      · exact completable_of_askable cipher environment config attended alone read account
          clearable needs place askable
  · have completable := completable_of_no_secret cipher environment config attended alone read
      account clearable mode secret
    exact iff_of_true completable (.inl ⟨mode, secret⟩)

/-! ## Two accounts with a password -/

/-- A station with legacy settings and nothing else, where somebody attends. -/
def withSettings (text : String) : Workstation where
  terminal := { attended := true }
  shelf :=
    { files := fun path => if path = config.settingsPath environment then some text.toUTF8 else none
      secrets := {}
      listed := [] }

section Settings

variable {text : String}

theorem content_withSettings :
    (withSettings environment config text).shelf.files (config.settingsPath environment) =
      some text.toUTF8 :=
  if_pos rfl

theorem legacy_withSettings {settings : LegacySettings}
    (accepted : (LegacySettings.ofDocument text).toOption = some settings) :
    (withSettings environment config text).legacy environment config =
      .ok (.ofParts settings none) := by
  unfold legacy Workstation.settings
  rw [text?_of_content _ _ (content_withSettings environment config)]
  dsimp only
  cases read : LegacySettings.ofDocument text with
  | error fault =>
    rw [read] at accepted
    cases accepted
  | ok found =>
    rw [read] at accepted
    cases accepted
    rfl

theorem clearable_withSettings (clearable : Clearable text) (other : String)
    (content : (withSettings environment config text).shelf.files
      (config.settingsPath environment) = some other.toUTF8) :
    Clearable other := by
  rw [content_withSettings] at content
  have same := congrArg String.fromUTF8? (Option.some.inj content)
  rw [Text.Utf8.fromUTF8?_toUTF8, Text.Utf8.fromUTF8?_toUTF8] at same
  cases same
  exact clearable

end Settings

def passwordText : String := "[auth]\nlogin = \"bob\"\nauth_type = \"basic\"\n"

theorem clearable_passwordText : Clearable passwordText := by
  have parsed : Toml.parse passwordText = some [("auth", .table [("auth_type", .string "basic"),
      ("login", .string "bob")])] := by
    decide +kernel
  have cleared : LegacySettings.clearFrom [("auth", .table [("auth_type", .string "basic"),
      ("login", .string "bob")])] = [] := by
    decide +kernel
  have again : Toml.parse (Toml.print []) = some [] := by
    decide +kernel
  refine ⟨_, parsed, ?_, ?_⟩
  · rintro ⟨_, _, ⟨⟩⟩
  · rw [cleared]
    exact Toml.recovered_of_parse again (by simp)

/-- Where the public server says whom a token belongs to. -/
def publicUser : Url where
  scheme := .https
  username := ""
  password := none
  host := .domain "api.github.com"
  port := none
  path := ["user"]
  query := none
  fragment := none

theorem askable_public : Identity.Askable (LookupSettings.client {}) ServerAddress.default := by
  have address : Url.parse (Identity.address ServerAddress.default) = some publicUser := by
    decide +kernel
  have nobody : publicUser.login? = none := by
    decide +kernel
  have plain : isHeaderText "x" = true ∧
      isHeaderText (LookupSettings.client {}).userAgent = true := by
    constructor
    · simp [isHeaderText]
    · simp [isHeaderText, LookupSettings.client, LookupSettings.agent, defaultUserAgent]
  have usable : HttpRequest.isUsable publicUser = true := by
    simp [HttpRequest.isUsable, Url.Host.display, Url.display, HttpRequest.addressLimit, publicUser]
    decide
  have made : ∃ request, Identity.request? (LookupSettings.client {}) ServerAddress.default "x" =
      .ok request ∧ request.url = publicUser := by
    unfold Identity.request?
    rw [address]
    dsimp only
    rw [if_pos plain, nobody]
    exact ⟨_, rfl, rfl⟩
  obtain ⟨request, made, url⟩ := made
  rw [← url] at usable
  exact ⟨"x", request, made, usable⟩

/-- An account on the public server can be migrated. -/
theorem advice_followed_on_public_server :
    let environment : Environment := ⟨[], none⟩
    let station := withSettings environment {} passwordText
    station.terminal.attended = true ∧ station.shelf.listed = [] ∧
      (∀ text, station.shelf.files (Config.settingsPath {} environment) = some text.toUTF8 →
        Clearable text) ∧
      station.Reported (.age 14 20) helpful environment {} ∧
      station.Completable (.age 14 20) environment {} := by
  intro environment station
  have accepted : (LegacySettings.ofDocument passwordText).toOption =
      some { login := some "bob", authMode := .basic } := by
    decide +kernel
  have read := legacy_withSettings environment {} accepted
  have reported : station.Reported (.age 14 20) helpful environment {} :=
    (station.reported_iff _ _ _ _).mpr ⟨_, read, rfl⟩
  have clearable := clearable_withSettings environment {} clearable_passwordText
  obtain ⟨old, read', followed⟩ := advice_followed_iff (.age 14 20) helpful environment {} station
    rfl rfl clearable reported
  cases read.symm.trans read'
  have place : (ServerAddress.readHost none).toOption = some ServerAddress.default := by
    decide +kernel
  have askable : ∃ server, ServerAddress.readHost none = .ok server ∧
      Identity.Askable (LookupSettings.client {}) server := by
    cases address : ServerAddress.readHost none with
    | error failure =>
      rw [address] at place
      cases place
    | ok server =>
      rw [address] at place
      cases place
      exact ⟨_, rfl, askable_public⟩
  exact ⟨rfl, rfl, clearable, reported, followed.mpr (.inr askable)⟩

def strandedText : String :=
  "[auth]\nhost = \"bad host\"\nlogin = \"bob\"\nauth_type = \"basic\"\n"

/-- An account whose address is invalid is reported with the advice to log in again, and whatever
is typed and whatever the network does, it stays. -/
theorem advice_in_vain :
    let environment : Environment := ⟨[], none⟩
    let station := withSettings environment {} strandedText
    station.terminal.attended = true ∧ station.shelf.listed = [] ∧
      station.report (.age 14 20) helpful environment {} =
        ["Legacy account found, but its server address is invalid\n",
          "Run 'gh-accounts migrate' to log in again.\n", "0 account(s) registered\n"] ∧
      station.Reported (.age 14 20) helpful environment {} ∧
      ¬station.Completable (.age 14 20) environment {} := by
  intro environment station
  have accepted : (LegacySettings.ofDocument strandedText).toOption =
      some { host := some "bad host", login := some "bob", authMode := .basic } := by
    decide +kernel
  have read := legacy_withSettings environment {} accepted
  have nowhere : (ServerAddress.readHost (some "bad host")).toOption = none := by
    decide +kernel
  cases address : ServerAddress.readHost (some "bad host") with
  | ok server =>
    rw [address] at nowhere
    cases nowhere
  | error failure =>
    refine ⟨rfl, rfl, ?_, (station.reported_iff _ _ _ _).mpr ⟨_, read, rfl⟩, ?_⟩
    · have lines : legacyLines (.ok (.ofParts
            { host := some "bad host", login := some "bob", authMode := .basic } none)) =
          ["Legacy account found, but its server address is invalid\n",
            "Run 'gh-accounts migrate' to log in again.\n"] := by
        unfold legacyLines LegacyCredential.readServer LegacyCredential.ofParts
        dsimp only
        rw [if_pos (by rfl), address]
      have count : Nat.repr station.shelf.listed.length ++ " account(s) registered\n" =
          "0 account(s) registered\n" := by
        decide +kernel
      rw [report_eq, read, lines, count]
      rfl
    · refine not_completable (.age 14 20) environment {} rfl rfl read rfl trivial ?_
      intro server place
      cases address.symm.trans place

end Workstation

end AccountKeeper
