import AccountKeeper.Proofs.Accounts.Document
import AccountKeeper.Proofs.Secrets.Mirror
import AccountKeeper.Proofs.Terminal.Refusal
import AccountKeeper.Proofs.Terminal.Report

/-!
# What a migration leaves on a workstation

On a workstation without accounts a migration is what is decided about the
legacy account and then carried out.  Carrying a decision out writes the list of
accounts, which may be over the settings; either way the settings can be cleared
afterwards, and then no account is reported.
-/

set_option autoImplicit false

namespace AccountKeeper

theorem Login.require_a : Login.require "a" = .ok () := by
  unfold Login.require Login.check
  rw [if_neg (by decide), if_neg (by decide), if_pos (by decide)]
  rfl

theorem LegacyCredential.hasAnyInfo_of_account {old : LegacyCredential}
    (account : old.hasLegacyAccount = true) :
    old.hasAnyInfo = true := by
  unfold LegacyCredential.hasLegacyAccount at account
  unfold LegacyCredential.hasAnyInfo
  cases mode : old.authMode with
  | none =>
    rw [mode] at account
    cases account
  | basic => simp
  | token => simp

namespace Workstation

variable (cipher : Cipher) (replies : Replies) (environment : Environment) (config : Config)
  {shelf : Shelf} {typed : List Typed} {station : Workstation} {old : LegacyCredential}

/-- Where no account is listed, a migration decides about the account that is reported and carries
out its decision. -/
theorem At.run_migration (here : station.At shelf typed)
    (read : station.legacy environment config = .ok old) (account : old.hasLegacyAccount = true)
    (alone : shelf.listed = []) :
    let migration := (installation cipher replies environment config).migration
    ∃ known : Workstation, known.At shelf typed ∧
      (migration.run .interactive (migration.atTerminal terminalPart)).run station =
        let decided := StateT.run (migration.decide (migration.atTerminal terminalPart) old) known
        (migration.carryOut decided.1 >>= migration.conclude).run decided.2 := by
  intro migration
  let begun : Workstation := Journal.record ⟨.migration, .debug, "Migrating legacy auth"⟩ station
  let known : Workstation := Journal.record
    ⟨.migration, .debug, "Legacy auth data: " ++ old.display⟩ begun
  have there : known.At shelf typed := (here.record _).record _
  have reads : begun.legacy environment config = .ok old :=
    (station.legacy_of_shelf environment config rfl).trans read
  have snapshot : migration.legacy.readSnapshot.run begun = (.ok old, begun) := by
    rw [← reads]
    exact begun.run_readSnapshot cipher replies environment config
  have lists : migration.accounts.list.run known = (.ok [], known) := by
    rw [← alone, ← there.shelf]
    rfl
  refine ⟨known, there, ?_⟩
  rw [Migration.run_interactive, snapshot]
  dsimp only
  rw [if_pos (LegacyCredential.hasAnyInfo_of_account account), ActionE.run_bind,
    Migration.run_settle, show migration.accounts.list.run _ = _ from lists]
  dsimp only
  rw [if_pos rfl, ActionE.run_bind]

theorem run_migrate (station : Workstation) :
    let migration := (installation cipher replies environment config).migration
    ((program cipher replies).migrate (installation cipher replies environment config)).run station =
      (program cipher replies).announce
        ((migration.run .interactive (migration.atTerminal terminalPart)).run station) :=
  (program cipher replies).run_migrate (installation cipher replies environment config) station

/-! ## Registering -/

/-- The station with a first account and its token. -/
def enlisting (station : Workstation) (path : String) (account : Account) (token : String) :
    Workstation :=
  let saved := (station.keeping account.id.secretKey (some token)).holding path
    (AccountDocument.print [account]).toUTF8
  { saved with shelf := { saved.shelf with listed := [account] } }

theorem run_add (account : Account) (token : String)
    (login : Login.require account.login = .ok ()) (alone : station.shelf.listed = []) :
    ((installation cipher replies environment config).register.add account token).run station =
      (.ok (), Journal.record ⟨.accounts, .debug, "Registered account " ++ account.display⟩
        (station.enlisting (config.statePath environment) account token)) := by
  have lists : (installation cipher replies environment config).register.accounts.run station =
      (.ok [], station) := by
    rw [← alone]
    rfl
  have stores := station.run_setSecret (some token) (SecretKey.valid_secretKey account.id)
  unfold AccountRegister.add
  rw [ActionE.run_bind, ActionE.run_ofExcept, login]
  dsimp only
  rw [ActionE.run_bind, lists]
  simp only [List.any_nil, Bool.false_eq_true, if_false]
  rw [ActionE.run_bind,
    show ActionE.run ((installation cipher replies environment config).register.secrets.set
      account.id.secretKey (some token)) station = _ from stores]
  rfl

/-- A file is as it was, or it holds a list of one account. -/
def Spared (before : Shelf) (path : String) (after : Workstation) : Prop :=
  after.shelf.files path = before.files path ∨
    ∃ account : Account, after.shelf.files path = some (AccountDocument.print [account]).toUTF8

/-- A new account is registered where none is listed, and only the file of the list is written. -/
theorem At.run_register (here : station.At shelf typed) (alone : shelf.listed = [])
    (server : ServerAddress) (token : String) :
    ∃ (account : Account) (added : Workstation),
      ((installation cipher replies environment config).migration.register "a" server token).run
        station = (.ok (.registered account), added) ∧ ∀ path, Spared shelf path added := by
  rw [← here.shelf] at alone ⊢
  let drawn : Workstation := { station with draws := station.draws + 1 }
  let account : Account := ⟨⟨Uuid.random station.draws⟩, "a", server⟩
  have adds := drawn.run_add cipher replies environment config account token Login.require_a
    alone
  let reported : Workstation := Journal.record
    ⟨.accounts, .debug, "Registered account " ++ account.display⟩
    (drawn.enlisting (config.statePath environment) account token)
  refine ⟨account, Journal.record ⟨.migration, .info, "Registered account " ++ account.display⟩
    reported, ?_, ?_⟩
  · have draws : StateT.run (installation cipher replies environment config).migration.freshId
        station = (account.id, drawn) := rfl
    have adds' : ((installation cipher replies environment config).migration.accounts.add
        ⟨account.id, "a", server⟩ token).run drawn = (.ok (), reported) := adds
    rw [Migration.run_register, draws]
    dsimp only
    rw [adds']
  · intro path
    by_cases list : path = config.statePath environment
    · exact .inr ⟨account, if_pos list⟩
    · exact .inl (if_neg list)

theorem At.run_carryOut (here : station.At shelf typed) (alone : shelf.listed = [])
    (decision : Decision) (uncancelled : decision ≠ .cancelled)
    (login : ∀ name server token, decision = .register name server token → name = "a") :
    ∃ (step : MigrationStep) (settled : Workstation),
      ((installation cipher replies environment config).migration.carryOut decision).run station =
        (.ok step, settled) ∧
      step ≠ .cancelled ∧ ∀ path, Spared shelf path settled := by
  cases decision with
  | cancelled => exact absurd rfl uncancelled
  | nothingToMigrate =>
    exact ⟨.nothingToMigrate, station, rfl, by simp, fun path => .inl (by rw [here.shelf])⟩
  | register name server token =>
    cases login name server token rfl
    obtain ⟨account, added, registers, kept⟩ :=
      here.run_register cipher replies environment config alone server token
    exact ⟨.registered account, added, registers, by simp, kept⟩

/-! ## Clearing -/

/-- What clearing takes the settings from: a document where they are not in a list, and of which
the rest can be written and read back. -/
def Clearable (text : String) : Prop :=
  ∃ document, Toml.parse text = some document ∧
    (¬∃ first others, document.get? "auth" = some (.array (first :: others))) ∧
    ∃ items, Toml.Recovered (LegacySettings.clearFrom document) items

theorem clearable_print (account : Account) :
    Clearable (AccountDocument.print [account]) ∧
      LegacySettings.ofDocument (AccountDocument.print [account]) = .ok {} := by
  let document : Toml.Entries := [("accounts", .array [.table account.toEntries])]
  have recovered : Toml.Recovered document [("accounts", .tables
      [.table .headed (Toml.Document.textItems account.texts)])] := by
    have valued : (Toml.Item.tables [.table .headed
        (Toml.Document.textItems account.texts)]).toValue? = some (.array
          [.table account.toEntries]) := by
      simp [Toml.Item.toValue?, Toml.Item.toValues?, account.toValue?_texts]
    refine ⟨AccountDocument.read_items [account] (by simp), ?_, ?_⟩
    · simp [Toml.Item.toEntries?, valued, Toml.Entries.sorted, Toml.Entries.insert, document]
    · intro entry member date dated
      rw [List.mem_singleton.mp member, valued] at dated
      cases dated
  refine ⟨⟨document, recovered.parse, ?_, _, recovered⟩, ?_⟩
  · rintro ⟨_, _, ⟨⟩⟩
  · exact LegacySettings.ofDocument_print_of_saysNothing recovered .absent

theorem run_clear_unreported {text : String} {settings : LegacySettings}
    (content : station.shelf.files (config.settingsPath environment) = some text.toUTF8)
    (accepted : LegacySettings.ofDocument text = .ok settings) (clearable : Clearable text) :
    ∃ cleared : Workstation,
      (installation cipher replies environment config).migration.legacy.clear.run station =
        (.ok (), cleared) ∧
      ∀ after : Workstation, after.shelf = cleared.shelf →
        ¬after.Reported cipher replies environment config := by
  let path := config.settingsPath environment
  obtain ⟨document, parsed, table, items, recovered⟩ := clearable
  obtain ⟨items', done, valued⟩ := Toml.parse_eq_some.mp parsed
  have gone := (LegacySettings.ofDocument_cleared_iff done (Toml.Document.shows done valued)
    accepted recovered).mpr table
  let emptied := station.holding path (Toml.print (LegacySettings.clearFrom document)).toUTF8
  have clears : (settingsFile path).clear.run station = (.ok (), emptied) :=
    station.run_clear path content parsed
  have erases := emptied.run_setSecret none valid_legacySecretKey
  refine ⟨Journal.record ⟨.legacy, .debug, "Cleared legacy auth settings and secret"⟩
    (emptied.keeping legacySecretKey none), ?_, ?_⟩
  · rw [LegacyStore.run_clear, show (installation cipher replies environment
      config).migration.legacy.settings.clear.run station = _ from clears]
    dsimp only
    rw [show ((installation cipher replies environment config).migration.legacy.secrets.set
      legacySecretKey none).run emptied = _ from erases]
  · intro after same reported
    obtain ⟨left, read, account⟩ :=
      (after.reported_iff cipher replies environment config).mp reported
    have content' : after.shelf.files path =
        some (Toml.print (LegacySettings.clearFrom document)).toUTF8 := by
      rw [same]
      exact if_pos rfl
    have settings' : after.settings path = .ok {} := by
      unfold Workstation.settings
      rw [after.text?_of_content path content']
      dsimp only
      rw [gone]
      rfl
    unfold legacy at read
    rw [show after.settings (config.settingsPath environment) = _ from settings'] at read
    cases read
    cases account

theorem text_of_account (read : station.legacy environment config = .ok old)
    (account : old.hasLegacyAccount = true) :
    ∃ text settings,
      station.shelf.files (config.settingsPath environment) = some text.toUTF8 ∧
      LegacySettings.ofDocument text = .ok settings := by
  unfold legacy at read
  cases found : station.settings (config.settingsPath environment) with
  | error failure =>
    rw [found] at read
    cases read
  | ok settings =>
    rw [found] at read
    cases read
    have nonempty : settings ≠ {} := by
      rintro rfl
      cases account
    obtain ⟨text, content, accepted⟩ := station.text_of_settings _ found nonempty
    exact ⟨text, settings, content, accepted⟩

/-- After the list of accounts was written, whether over the settings or not, they can be cleared. -/
theorem run_clear_spared (read : station.legacy environment config = .ok old)
    (account : old.hasLegacyAccount = true)
    (clearable : ∀ text, station.shelf.files (config.settingsPath environment) = some text.toUTF8 →
      Clearable text)
    {later : Workstation} (spared : Spared station.shelf (config.settingsPath environment) later) :
    ∃ cleared : Workstation,
      (installation cipher replies environment config).migration.legacy.clear.run later =
        (.ok (), cleared) ∧
      ∀ after : Workstation, after.shelf = cleared.shelf →
        ¬after.Reported cipher replies environment config := by
  rcases spared with kept | ⟨listed, content⟩
  · obtain ⟨text, settings, content, accepted⟩ :=
      text_of_account environment config read account
    exact run_clear_unreported cipher replies environment config (kept.trans content) accepted
      (clearable text content)
  · obtain ⟨clears, accepted⟩ := clearable_print listed
    exact run_clear_unreported cipher replies environment config content accepted clears

end Workstation

end AccountKeeper
