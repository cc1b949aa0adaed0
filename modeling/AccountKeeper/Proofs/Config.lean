import AccountKeeper.Config
import AccountKeeper.Proofs.Legacy.Clearing
import AccountKeeper.Proofs.Toml.Digits
import AccountKeeper.Proofs.Toml.Items
import AccountKeeper.Proofs.Toml.Sections

/-!
# Writing and loading a configuration

Whatever a file leaves out, the configuration that is loaded from it has a
timeout that documents can hold and no master password.  So it can be written,
as a document of four sections, and is loaded from that document as it was.
-/

set_option autoImplicit false

namespace AccountKeeper

namespace Toml.Decoder

/-! ## What holds of a record after every field -/

variable {ρ : Type} {take : ρ → String → Item → Except Mismatch ρ} {start : ρ} {keeps : ρ → Prop}

theorem keeps_of_takeFields (starts : keeps start)
    (step : ∀ partly key item next, item.Sound → keeps partly →
      take partly key item = .ok next → keeps next)
    {items : ItemEntries} (sound : ∀ entry ∈ items, entry.2.Sound) {record : ρ}
    (taken : takeFields take start items = .ok record) : keeps record := by
  induction items generalizing start with
  | nil =>
    cases taken
    exact starts
  | cons entry rest ih =>
    obtain ⟨key, item⟩ := entry
    rw [takeFields_cons] at taken
    cases first : take start key item with
    | error mismatch =>
      rw [first] at taken
      cases taken
    | ok next =>
      rw [first] at taken
      have kept := step start key item next (sound (key, item) (by simp)) starts first
      exact ih kept (fun entry member => sound entry (List.mem_cons_of_mem _ member)) taken

/-- The fields are taken one after the other, from a table or from a list. -/
theorem keeps_of_fields (keeps : ρ → Prop) {name : String} {keys : List String} {item : Item}
    (sound : item.Sound) {record : ρ}
    (taken : (do let (record, _) ← fields name keys take start item; return record) = .ok record)
    (starts : keeps start)
    (step : ∀ partly key item next, item.Sound → keeps partly →
      take partly key item = .ok next → keeps next) : keeps record := by
  rw [map_first] at taken
  have zipped {items : List Item} (sound : ∀ item ∈ items, item.Sound) :
      ∀ entry ∈ keys.zip items, entry.2.Sound :=
    fun entry member => sound entry.2 (List.of_mem_zip member).2
  cases sound with
  | @scalar value =>
    cases value with
    | datetime date =>
      cases taken
      exact starts
    | _ => cases taken
  | array members =>
    rw [fields_list name keys (.inl rfl)] at taken
    exact keeps_of_takeFields starts step (zipped members) taken
  | table distinct members =>
    rw [fields_table] at taken
    exact keeps_of_takeFields starts step members taken
  | tables members =>
    rw [fields_list name keys (.inr rfl)] at taken
    exact keeps_of_takeFields starts step (zipped members) taken

theorem fits_of_natBelow {bound value : Nat} {name : String} {item : Item} (sound : item.Sound)
    (read : natBelow bound name item = .ok value) : Literal.inRange value = true := by
  unfold natBelow at read
  split at read
  · split at read
    · rename_i value inside
      cases read
      cases sound with
      | scalar fits =>
        rw [Int.toNat_of_nonneg inside.1]
        exact fits
    · cases read
  · cases read

theorem natBelow_of_fits {value : Nat} (fits : Literal.inRange value = true) (name : String) :
    natBelow (Nat.pow 2 64) name (.scalar (.integer value)) = .ok value := by
  have below : (value : Int) < (Nat.pow 2 64 : Nat) := by
    have small : (value : Int) < 9223372036854775808 := by
      simpa using (Bool.and_eq_true_iff.mp fits).2
    have size : ((Nat.pow 2 64 : Nat) : Int) = 18446744073709551616 := rfl
    omega
  unfold natBelow
  dsimp only
  rw [if_pos ⟨Int.natCast_nonneg value, below⟩]
  rfl

end Toml.Decoder

namespace Config

open Toml

variable {item : Item}

/-! ## Loaded configurations -/

theorem noPassword_of_secretsDecoder (sound : item.Sound) {settings : SecretSettings}
    (decoded : secretsDecoder item = .ok settings) : settings.masterPassword = none := by
  have kept := Decoder.keeps_of_fields
    (fun settings : SecretSettings => settings.masterPassword = none) sound decoded
  refine kept rfl ?_
  intro partly key item next _ kept taken
  unfold takeSecret at taken
  split at taken
  · obtain ⟨storage, _, taken⟩ := (bind_eq_ok _ _ _).mp taken
    cases taken
    exact kept
  · obtain ⟨path, _, taken⟩ := (bind_eq_ok _ _ _).mp taken
    cases taken
    exact kept
  · cases taken
    exact kept

theorem fits_of_lookupsDecoder (sound : item.Sound) {settings : LookupSettings}
    (decoded : lookupsDecoder item = .ok settings) :
    Literal.inRange settings.timeoutSeconds = true := by
  have kept := Decoder.keeps_of_fields
    (fun settings : LookupSettings => Literal.inRange settings.timeoutSeconds = true) sound decoded
  refine kept (by decide) ?_
  intro partly key item next sound kept taken
  unfold takeLookup at taken
  split at taken
  · obtain ⟨agent, _, taken⟩ := (bind_eq_ok _ _ _).mp taken
    cases taken
    exact kept
  · -- The decoder admits all of 64 bits; that the number has 63 of them is due to the reader.
    obtain ⟨timeout, read, taken⟩ := (bind_eq_ok _ _ _).mp taken
    cases taken
    exact Decoder.fits_of_natBelow sound read
  · cases taken
    exact kept

/-- What files can say of a configuration. -/
structure Storable (config : Config) : Prop where
  noPassword : config.secrets.masterPassword = none
  fits : Literal.inRange config.lookups.timeoutSeconds = true

theorem storable_of_decoder (sound : item.Sound) {config : Config}
    (decoded : decoder item = .ok config) : config.Storable := by
  have kept := Decoder.keeps_of_fields Storable sound decoded
  refine kept ⟨rfl, by decide⟩ ?_
  intro partly key item next sound kept taken
  unfold takeTable at taken
  split at taken
  · obtain ⟨file, _, taken⟩ := (bind_eq_ok _ _ _).mp taken
    cases taken
    exact ⟨kept.noPassword, kept.fits⟩
  · obtain ⟨file, _, taken⟩ := (bind_eq_ok _ _ _).mp taken
    cases taken
    exact ⟨kept.noPassword, kept.fits⟩
  · obtain ⟨secrets, read, taken⟩ := (bind_eq_ok _ _ _).mp taken
    cases taken
    exact ⟨noPassword_of_secretsDecoder sound read, kept.fits⟩
  · obtain ⟨lookups, read, taken⟩ := (bind_eq_ok _ _ _).mp taken
    cases taken
    exact ⟨kept.noPassword, fits_of_lookupsDecoder sound read⟩
  · cases taken
    exact kept

theorem storable_of_parse {text : String} {config : Config} (parsed : parse text = .ok config) :
    config.Storable ∧ config.check = .ok () := by
  obtain ⟨read, outcome, parsed⟩ := (bind_eq_ok _ _ _).mp parsed
  obtain ⟨_, checked, same⟩ := (bind_eq_ok _ _ _).mp parsed
  cases same
  refine ⟨?_, checked⟩
  have decoded := ActionE.mapError_eq_ok.mp outcome
  unfold Decoder.document at decoded
  split at decoded
  · cases decoded
  · rename_i items done
    exact storable_of_decoder ((Document.sound_read done).table _)
      (ActionE.mapError_eq_ok.mp decoded)

/-! ## Writing -/

/-- The sections in which a configuration is written. -/
def sections (config : Config) : List Section :=
  [⟨"legacy", [("settings_file", .string config.settingsFile)]⟩,
    ⟨"accounts", [("state_file", .string config.stateFile)]⟩,
    ⟨"credentials", [("storage", .string config.secrets.storage.name),
      ("path", .string config.secrets.path)]⟩,
    ⟨"github", (config.lookups.userAgent.map fun agent => ("user_agent", .string agent)).toList ++
      [("timeout_secs", .integer config.lookups.timeoutSeconds)]⟩]

theorem serialize_of_fits {config : Config}
    (fits : Literal.inRange config.lookups.timeoutSeconds = true) :
    config.serialize = .ok (Toml.print (config.sections.map Section.entry)) := by
  have timeout : Value.natural "u64" config.lookups.timeoutSeconds =
      .ok (.integer config.lookups.timeoutSeconds) := if_pos fits
  unfold serialize toEntries lookupEntries
  rw [timeout]
  unfold sections
  cases config.lookups.userAgent <;> rfl

theorem plain_sections {config : Config}
    (fits : Literal.inRange config.lookups.timeoutSeconds = true) :
    ∀ part ∈ config.sections, part.IsPlain := by
  have timeout := legible_natural config.lookups.timeoutSeconds fits
  intro part member
  simp only [sections, List.mem_cons, List.not_mem_nil, or_false] at member
  rcases member with rfl | rfl | rfl | rfl
  case inl =>
    have bare : ∀ key ∈ ["legacy", "settings_file"], IsBareKey key := by decide
    exact ⟨bare, by simp [legible_string], by simp⟩
  case inr.inl =>
    have bare : ∀ key ∈ ["accounts", "state_file"], IsBareKey key := by decide
    exact ⟨bare, by simp [legible_string], by simp⟩
  case inr.inr.inl =>
    have bare : ∀ key ∈ ["credentials", "storage", "path"], IsBareKey key := by decide
    exact ⟨bare, by simp [legible_string], by simp⟩
  case inr.inr.inr =>
    cases config.lookups.userAgent with
    | none =>
      have bare : ∀ key ∈ ["github", "timeout_secs"], IsBareKey key := by decide
      exact ⟨bare, by simp [timeout], by simp⟩
    | some agent =>
      have bare : ∀ key ∈ ["github", "user_agent", "timeout_secs"], IsBareKey key := by decide
      exact ⟨bare, by simp [legible_string, timeout], by simp⟩

theorem oneText_section (name field default value : String) :
    oneText name field default (.table .headed (Document.scalarItems [(field, .string value)])) =
      .ok value := by
  unfold oneText
  rw [Decoder.map_first, Decoder.fields_table]
  simp only [Document.scalarItems, List.map_cons, List.map_nil, Decoder.takeFields_cons, if_true,
    Decoder.string]
  rfl

theorem secretsDecoder_section (storage : StorageKind) (path : String) :
    secretsDecoder (.table .headed (Document.scalarItems
      [("storage", .string storage.name), ("path", .string path)])) =
        .ok { storage := storage, path := path } := by
  cases storage <;> rfl

theorem lookupsDecoder_section (agent : Option String) {timeout : Nat}
    (fits : Literal.inRange timeout = true) :
    lookupsDecoder (.table .headed (Document.scalarItems
      ((agent.map fun agent => ("user_agent", .string agent)).toList ++
        [("timeout_secs", .integer timeout)]))) = .ok ⟨agent, timeout⟩ := by
  have takes (settings : LookupSettings) :
      takeLookup settings "timeout_secs" (.scalar (.integer timeout)) =
        .ok { settings with timeoutSeconds := timeout } := by
    unfold takeLookup
    rw [Decoder.natBelow_of_fits fits "u64"]
    rfl
  unfold lookupsDecoder
  rw [Decoder.map_first, Decoder.fields_table]
  cases agent with
  | none =>
    change Decoder.takeFields takeLookup {} [("timeout_secs", .scalar (.integer timeout))] = _
    rw [Decoder.takeFields_cons, takes]
    rfl
  | some agent =>
    change Decoder.takeFields takeLookup {} [("user_agent", .scalar (.string agent)),
      ("timeout_secs", .scalar (.integer timeout))] = _
    have first : takeLookup {} "user_agent" (.scalar (.string agent)) =
        .ok { userAgent := some agent } := rfl
    rw [Decoder.takeFields_cons, first]
    dsimp only
    rw [Decoder.takeFields_cons, takes]
    rfl

theorem decoder_sections {config : Config} (storable : config.Storable) :
    decoder (.table .headed (config.sections.map Section.item)) = .ok config := by
  obtain ⟨settingsFile, stateFile, ⟨storage, path, password⟩, ⟨agent, timeout⟩⟩ := config
  obtain ⟨noPassword, fits⟩ := storable
  dsimp only at noPassword fits
  subst noPassword
  have lookups := lookupsDecoder_section agent fits
  have secrets := secretsDecoder_section storage path
  unfold decoder
  rw [Decoder.map_first, Decoder.fields_table]
  simp only [sections, List.map_cons, List.map_nil, Decoder.takeFields_cons, Section.item,
    takeTable, oneText_section, secrets, lookups]
  rfl

theorem parse_print_sections {config : Config} (storable : config.Storable)
    (checked : config.check = .ok ()) :
    parse (Toml.print (config.sections.map Section.entry)) = .ok config := by
  have names : (config.sections.map (·.name)).Nodup :=
    (by decide : ["legacy", "accounts", "credentials", "github"].Nodup)
  have read := Document.read_sections config.sections (List.cons_ne_nil _ _)
    (plain_sections storable.fits) names
  unfold parse Decoder.document
  rw [read]
  dsimp only
  rw [decoder_sections storable]
  dsimp only [ActionE.mapError_ok]
  change (config.check >>= fun _ => .ok config) = .ok config
  rw [checked]
  rfl

/-! ## Loading again -/

theorem loadFrom_eq_ok {σ : Type} {files : FileSystem σ} {path : String} {s : σ}
    {config : Config} :
    ((loadFrom files path).run s).1 = .ok config ↔
      ∃ text, ((files.readText path).run s).1 = .ok text ∧ parse text = .ok config := by
  unfold loadFrom
  rw [ActionE.run_bind, ActionE.run_mapError]
  rcases (files.readText path).run s with ⟨outcome, s'⟩
  cases outcome with
  | error fault => simp
  | ok text =>
    simp only [ActionE.mapError_ok, Except.ok.injEq, exists_eq_left']
    cases parse text with
    | error failure => simp
    | ok found => simp

theorem serialize_password (config : Config) (password : Option String) :
    ({ config with secrets := { config.secrets with masterPassword := password } } :
      Config).serialize = config.serialize :=
  rfl

/-- A loaded configuration can be written, and what was written is loaded as the same
configuration.  The master password has no part in it. -/
theorem survives_serialization :
    (∀ (σ : Type) (files : FileSystem σ) (path : String) (s : σ) (config : Config),
      ((loadFrom files path).run s).1 = .ok config →
        ∃ text, config.serialize = .ok text ∧
          ∀ (τ : Type) (copies : FileSystem τ) (copy : String) (t : τ),
            ((copies.readText copy).run t).1 = .ok text →
              ((loadFrom copies copy).run t).1 = .ok config) ∧
      ∀ (config : Config) (password : Option String),
        ({ config with secrets := { config.secrets with masterPassword := password } } :
          Config).serialize = config.serialize := by
  refine ⟨fun σ files path s config loaded => ?_, serialize_password⟩
  obtain ⟨_, _, parsed⟩ := loadFrom_eq_ok.mp loaded
  obtain ⟨storable, checked⟩ := storable_of_parse parsed
  refine ⟨_, serialize_of_fits storable.fits, fun τ copies copy t content => ?_⟩
  exact loadFrom_eq_ok.mpr ⟨_, content, parse_print_sections storable checked⟩

/-- A file that leaves out most of the configuration. -/
def partialText : String :=
  "[github]\ntimeout_secs = 45\n\n[credentials]\nstorage = \"encrypted\"\n"

theorem survives_serialization_of_partial_file :
    let config : Config :=
      { secrets := { storage := .encrypted }, lookups := { timeoutSeconds := 45 } }
    ∃ text, config.serialize = .ok text ∧
      ((loadFrom FileTree.system "/settings.toml").run (SettingsFile.withFile text)).1 =
        .ok config := by
  intro config
  have accepted : (parse partialText).toOption = some config := by decide +kernel
  have parsed : parse partialText = .ok config := by
    cases outcome : parse partialText with
    | error failure =>
      rw [outcome] at accepted
      cases accepted
    | ok found =>
      rw [outcome] at accepted
      cases accepted
      rfl
  have holds (text : String) : ((FileTree.system.readText "/settings.toml").run
      (SettingsFile.withFile text)).1 = .ok text :=
    congrArg Prod.fst (SettingsFile.run_readText (SettingsFile.read_withFile text))
  obtain ⟨text, written, again⟩ := survives_serialization.1 FileTree FileTree.system
    "/settings.toml" (SettingsFile.withFile partialText) config
    (loadFrom_eq_ok.mpr ⟨partialText, holds partialText, parsed⟩)
  exact ⟨text, written, again FileTree FileTree.system "/settings.toml" _ (holds text)⟩

end Config

end AccountKeeper
