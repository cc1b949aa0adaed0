import AccountKeeper.Proofs.Legacy.Clearing
import AccountKeeper.Proofs.Toml.Sections

/-!
# Writing the settings file

Writing puts the settings in the place of whatever stands under `auth` and keeps
the rest of the document, so that reading gives the written settings.  A file
that holds no document is refused and left as it is.
-/

set_option autoImplicit false

namespace AccountKeeper

theorem Toml.Item.eq_string_of_toValue? {item : Toml.Item} {text : String}
    (valued : item.toValue? = some (.string text)) : item = .scalar (.string text) := by
  cases item with
  | scalar value =>
    simp only [toValue?, Option.some.injEq, Value.scalar.injEq] at valued
    rw [valued]
  | array items => simp [toValue?] at valued
  | tables items => simp [toValue?] at valued
  | table form items =>
    rcases toValue?_table valued with ⟨date, isDate⟩ | ⟨values, _, isTable⟩
    · cases isDate
    · cases isTable

namespace LegacySettings

open Toml

variable {settings start : LegacySettings} {items : ItemEntries}

/-! ## Reading the written settings -/

theorem get?_toEntries (settings : LegacySettings) (key : String) :
    settings.toEntries.get? key =
      if key = "auth_type" then some (.string settings.authMode.name)
      else if key = "host" then settings.host.map Value.string
      else if key = "login" then settings.login.map Value.string
      else none := by
  rcases settings with ⟨host, login, mode⟩
  unfold toEntries
  cases host <;> cases login <;> simp only [Option.map_none, Option.map_some, Option.toList_none,
    Option.toList_some, List.append_nil, List.cons_append, List.nil_append, Entries.get?_cons,
    Entries.get?_nil]
  all_goals grind

/-- Items of which those with names of settings say what the settings are. -/
structure Tells (items : ItemEntries) (settings : LegacySettings) : Prop where
  host : ∀ item, ("host", item) ∈ items →
    ∃ host, settings.host = some host ∧ item = .scalar (.string host)
  login : ∀ item, ("login", item) ∈ items →
    ∃ login, settings.login = some login ∧ item = .scalar (.string login)
  mode : ∀ item, ("auth_type", item) ∈ items →
    item = .scalar (.string settings.authMode.name)

theorem choice_name (mode : AuthMode) :
    Decoder.choice AuthMode.names (.scalar (.string mode.name)) = .ok mode := by
  cases mode <;> rfl

theorem take_of_tells (start : LegacySettings) {key : String} {item : Item}
    {rest : ItemEntries} (tells : Tells ((key, item) :: rest) settings) :
    ∃ next, take start key item = .ok next ∧
      next.host = (if key = "host" then settings.host else start.host) ∧
      next.login = (if key = "login" then settings.login else start.login) ∧
      next.authMode = (if key = "auth_type" then settings.authMode else start.authMode) := by
  by_cases known : key ∈ fieldNames
  · simp only [fieldNames, List.mem_cons, List.not_mem_nil, or_false] at known
    rcases known with rfl | rfl | rfl
    · obtain ⟨host, isHost, rfl⟩ := tells.host item (by simp)
      exact ⟨{ start with host := some host }, rfl, by simp [isHost]⟩
    · obtain ⟨login, isLogin, rfl⟩ := tells.login item (by simp)
      exact ⟨{ start with login := some login }, rfl, by simp [isLogin]⟩
    · obtain rfl := tells.mode item (by simp)
      refine ⟨{ start with authMode := settings.authMode }, ?_, by simp⟩
      unfold take
      rw [choice_name]
      rfl
  · refine ⟨start, take_of_unknown start item known, ?_⟩
    simp only [fieldNames, List.mem_cons, List.not_mem_nil, or_false, not_or] at known
    simp [known]

/-- A setting that is not taken over under one key is as it was, or comes under a later key. -/
theorem reached_of_cons {α : Type} {name key : String} {later : List String} {was next wanted : α}
    (reached : was = wanted ∨ name ∈ key :: later)
    (taken : next = if key = name then wanted else was) : next = wanted ∨ name ∈ later := by
  by_cases same : key = name
  · exact .inl (taken.trans (if_pos same))
  · rw [taken, if_neg same]
    exact reached.imp_right fun member =>
      (List.mem_cons.mp member).resolve_left (Ne.symm same)

/-- Each setting is there from the start or is taken over from the items. -/
theorem takeFields_of_tells (tells : Tells items settings)
    (host : start.host = settings.host ∨ "host" ∈ items.map (·.1))
    (login : start.login = settings.login ∨ "login" ∈ items.map (·.1))
    (mode : start.authMode = settings.authMode ∨ "auth_type" ∈ items.map (·.1)) :
    Decoder.takeFields take start items = .ok settings := by
  induction items generalizing start with
  | nil =>
    simp only [List.map_nil, List.not_mem_nil, or_false] at host login mode
    rcases start with ⟨startHost, startLogin, startMode⟩
    rcases settings with ⟨itsHost, itsLogin, itsMode⟩
    cases host
    cases login
    cases mode
    rfl
  | cons entry rest ih =>
    obtain ⟨key, item⟩ := entry
    obtain ⟨next, taken, nextHost, nextLogin, nextMode⟩ := take_of_tells start tells
    rw [Decoder.takeFields_cons, taken]
    have others : Tells rest settings :=
      ⟨fun item member => tells.host item (List.mem_cons_of_mem _ member),
        fun item member => tells.login item (List.mem_cons_of_mem _ member),
        fun item member => tells.mode item (List.mem_cons_of_mem _ member)⟩
    exact ih others (reached_of_cons host nextHost) (reached_of_cons login nextLogin)
      (reached_of_cons mode nextMode)

theorem tells_of_shows (shown : Document.Shows items settings.toEntries) :
    Tells items settings := by
  have under {key : String} {item : Item} (member : (key, item) ∈ items) :
      ∃ value, item.toValue? = some value ∧ settings.toEntries.get? key = some value := by
    have found := shown.distinct.lookup_of_mem member
    rcases shown.under key with ⟨absent, _⟩ | ⟨itsItem, value, there, itsValue, said⟩
    · cases absent.symm.trans found
    · cases there.symm.trans found
      exact ⟨value, itsValue, said⟩
  constructor
  · intro item member
    obtain ⟨value, itsValue, said⟩ := under member
    rw [get?_toEntries, if_neg (by decide), if_pos rfl] at said
    obtain ⟨host, isHost, rfl⟩ := Option.map_eq_some_iff.mp said
    exact ⟨host, isHost, Item.eq_string_of_toValue? itsValue⟩
  · intro item member
    obtain ⟨value, itsValue, said⟩ := under member
    rw [get?_toEntries, if_neg (by decide), if_neg (by decide), if_pos rfl] at said
    obtain ⟨login, isLogin, rfl⟩ := Option.map_eq_some_iff.mp said
    exact ⟨login, isLogin, Item.eq_string_of_toValue? itsValue⟩
  · intro item member
    obtain ⟨value, itsValue, said⟩ := under member
    rw [get?_toEntries, if_pos rfl] at said
    cases said
    exact Item.eq_string_of_toValue? itsValue

theorem mem_keys_of_shows {document : Entries} (shown : Document.Shows items document)
    {key : String} (said : document.get? key ≠ none) : key ∈ items.map (·.1) := by
  rcases shown.under key with ⟨_, absent⟩ | ⟨item, _, there, _⟩
  · exact absurd absent said
  · exact List.mem_map_of_mem (Entries.mem_of_lookup there)

theorem decoder_of_shows {form : TableForm} (shown : Document.Shows items settings.toEntries) :
    decoder (.table form items) = .ok settings := by
  have carried {key : String} {setting : Option String}
      (said : settings.toEntries.get? key = setting.map Value.string) :
      none = setting ∨ key ∈ items.map (·.1) := by
    cases setting with
    | none => exact .inl rfl
    | some text => exact .inr (mem_keys_of_shows shown (by simp [said]))
  have mode : "auth_type" ∈ items.map (·.1) :=
    mem_keys_of_shows shown (by rw [get?_toEntries]; simp)
  rw [decoder_eq, Decoder.fields_table]
  exact takeFields_of_tells (tells_of_shows shown) (carried (get?_toEntries settings "host"))
    (carried (get?_toEntries settings "login")) (.inr mode)

theorem ofDocument_of_shows {text : String} {items : ItemEntries} {document : Entries}
    (done : Document.read text = some items)
    (valued : (Item.toEntries? items).map Entries.sorted = some document)
    (written : document.get? "auth" = some (.table settings.toEntries)) :
    ofDocument text = .ok settings := by
  rw [ofDocument_eq done]
  rcases (Document.shows done valued).under "auth" with
    ⟨_, absent⟩ | ⟨item, value, there, itsValue, said⟩
  · cases absent.symm.trans written
  · cases said.symm.trans written
    obtain ⟨form, inner, values, rfl, itsValues, same⟩ := Item.eq_table_of_toValue? itsValue
    -- The value alone does not say that a key stands once in the table it came from.
    have sound := (Document.sound_read done).lookup there
    cases sound with
    | table distinct members =>
      have shown := Document.shows_sorted distinct itsValues
      rw [← same] at shown
      rw [there]
      dsimp only
      rw [decoder_of_shows shown]
      rfl

/-! ## The document of the settings alone -/

/-- The settings as the only section of a document. -/
def ownSection (settings : LegacySettings) : Section where
  name := "auth"
  scalars := ("auth_type", .string settings.authMode.name) ::
    (settings.host.map fun host => ("host", Scalar.string host)).toList ++
      (settings.login.map fun login => ("login", Scalar.string login)).toList

theorem plain_ownSection (settings : LegacySettings) : settings.ownSection.IsPlain := by
  have bare : ∀ key ∈ ["auth", "auth_type", "host", "login"], IsBareKey key := by decide
  rcases settings with ⟨host, login, mode⟩
  constructor
  · intro key member
    refine bare key ?_
    cases host <;> cases login <;> grind [ownSection]
  · cases host <;> cases login <;> simp [ownSection, legible_string]
  · cases host <;> cases login <;> simp [ownSection]

theorem writeTo_nil (settings : LegacySettings) :
    settings.writeTo [] = [settings.ownSection.entry] := by
  rcases settings with ⟨host, login, mode⟩
  cases host <;> cases login <;> rfl

theorem sorted_toEntries (settings : LegacySettings) :
    Entries.sorted settings.toEntries = settings.toEntries := by
  have host : "host" ≠ "auth_type" ∧ ¬"host" < "auth_type" := by decide +kernel
  have login : "login" ≠ "auth_type" ∧ ¬"login" < "auth_type" ∧ "login" ≠ "host" ∧
      ¬"login" < "host" := by
    decide +kernel
  rcases settings with ⟨place, name, mode⟩
  unfold Entries.sorted toEntries
  cases place <;> cases name <;>
    simp only [Option.map_none, Option.map_some, Option.toList_none, Option.toList_some,
      List.append_nil, List.cons_append, List.nil_append, List.foldl_cons, List.foldl_nil,
      Entries.insert, host.1, host.2, login.1, login.2.1, login.2.2.1, login.2.2.2, if_false]

theorem toValue?_ownSection (settings : LegacySettings) :
    settings.ownSection.item.2.toValue? = some (.table settings.toEntries) := by
  have plain : "auth_type" ≠ Item.datetimeKey := by decide
  have sorted := settings.sorted_toEntries
  rcases settings with ⟨host, login, mode⟩
  unfold toEntries at sorted ⊢
  unfold ownSection Section.item Document.scalarItems
  cases host <;> cases login <;>
    simp only [Option.map_none, Option.map_some, Option.toList_none, Option.toList_some,
      List.append_nil, List.cons_append, List.nil_append, List.map_cons, List.map_nil,
      Item.toValue?, Item.toEntries?, plain, if_false] at sorted ⊢ <;>
    rw [sorted]

theorem parse_writeTo_nil (settings : LegacySettings) :
    parse (print (settings.writeTo [])) = some (settings.writeTo []) := by
  have read := Document.read_sections [settings.ownSection] (List.cons_ne_nil _ _)
    (fun part member => List.mem_singleton.mp member ▸ plain_ownSection settings) (by simp)
  refine parse_eq_some.mpr ⟨[settings.ownSection.item], ?_, ?_⟩
  · rw [writeTo_nil]
    exact read
  · have valued : Item.toEntries? [settings.ownSection.item] =
        some [("auth", .table settings.toEntries)] := by
      change Item.toEntries? [("auth", settings.ownSection.item.2)] = _
      simp only [Item.toEntries?, toValue?_ownSection]
    rw [valued]
    rfl

end LegacySettings

namespace SettingsFile

open Toml

variable {path : String} {tree after : FileTree} {document : Entries}

/-! ## What the file holds -/

/-- The document of the file; a missing file has an empty one. -/
inductive Holds (path : String) (tree : FileTree) : Entries → Prop where
  | missing (absent : tree.leads path = false) : Holds path tree []
  | document {text : String} {document : Entries} (content : tree.read path = .ok text.toUTF8)
      (parsed : Toml.parse text = some document) : Holds path tree document

/-- Why the file holds no document. -/
inductive HoldsNone (path : String) (tree : FileTree) : Failure → Prop where
  | unreadable {fault : FileFault} (there : tree.leads path = true)
      (content : tree.read path = .error fault) :
      HoldsNone path tree (.legacy (.unreadable fault))
  | notText {bytes : ByteArray} (content : tree.read path = .ok bytes)
      (notText : String.fromUTF8? bytes = none) :
      HoldsNone path tree (.legacy (.unreadable .notText))
  | notToml {text : String} (content : tree.read path = .ok text.toUTF8)
      (refused : Toml.parse text = none) :
      HoldsNone path tree (.legacy (.malformed .notADocument))

theorem run_document_of_holds (holds : Holds path tree document) :
    ∃ held, (inTree path).document?.run tree = (.ok held, tree) ∧ held.getD [] = document := by
  cases holds with
  | missing absent =>
    refine ⟨none, ?_, rfl⟩
    have nothing : (inTree path).text?.run tree = (.ok none, tree) := by
      unfold text?
      rw [ActionE.run_bind, run_leads, absent]
      rfl
    unfold document?
    rw [ActionE.run_bind, nothing]
    rfl
  | document content parsed =>
    refine ⟨some document, ?_, rfl⟩
    unfold document?
    rw [ActionE.run_bind, run_text content]
    dsimp only
    rw [parsed]
    rfl

theorem run_document_of_unread {fault : FileFault} (there : tree.leads path = true)
    (failed : (FileTree.system.readText path).run tree = (.error fault, tree)) :
    (inTree path).document?.run tree = (.error (.legacy (.unreadable fault)), tree) := by
  unfold document?
  rw [ActionE.run_bind, run_text_of_leads there failed]
  rfl

theorem run_document_of_holdsNone {failure : Failure} (refused : HoldsNone path tree failure) :
    (inTree path).document?.run tree = (.error failure, tree) := by
  have bytes {content : Except FileFault ByteArray} (read : tree.read path = content) :
      (FileTree.system.read path).run tree = (content, tree) :=
    congrArg (fun outcome => (outcome, tree)) read
  cases refused with
  | unreadable there content =>
    refine run_document_of_unread there ?_
    unfold FileSystem.readText
    rw [ActionE.run_bind, bytes content]
  | notText content notText =>
    refine run_document_of_unread (FileTree.leads_of_read content) ?_
    unfold FileSystem.readText
    rw [ActionE.run_bind, bytes content]
    dsimp only
    rw [notText]
    rfl
  | notToml content refused =>
    unfold document?
    rw [ActionE.run_bind, run_text content]
    dsimp only
    rw [refused]
    rfl

theorem run_write_of_holds (settings : LegacySettings) (holds : Holds path tree document) :
    ((inTree path).write settings).run tree =
      ((inTree path).replace (settings.writeTo document)).run tree := by
  obtain ⟨held, run, rfl⟩ := run_document_of_holds holds
  unfold write
  rw [ActionE.run_bind, run]

theorem run_write_of_holdsNone (settings : LegacySettings) {failure : Failure}
    (refused : HoldsNone path tree failure) :
    ((inTree path).write settings).run tree = (.error failure, tree) := by
  unfold write
  rw [ActionE.run_bind, run_document_of_holdsNone refused]

/-- Whatever is at the path, it is either a document or refused. -/
theorem holds_or_holdsNone (path : String) (tree : FileTree) :
    (∃ document, Holds path tree document) ∨ ∃ failure, HoldsNone path tree failure := by
  cases leads : tree.leads path with
  | false => exact .inl ⟨[], .missing leads⟩
  | true =>
    cases content : tree.read path with
    | error fault => exact .inr ⟨_, .unreadable leads content⟩
    | ok bytes =>
      cases decoded : String.fromUTF8? bytes with
      | none => exact .inr ⟨_, .notText content decoded⟩
      | some text =>
        have same : bytes = text.toUTF8 := by
          unfold String.fromUTF8? at decoded
          split at decoded
          · cases decoded
            rfl
          · cases decoded
        subst same
        cases parsed : Toml.parse text with
        | none => exact .inr ⟨_, .notToml content parsed⟩
        | some document => exact .inl ⟨document, .document content parsed⟩

theorem get?_writeTo (document : Entries) (settings : LegacySettings) (key : String) :
    (settings.writeTo document).get? key =
      if key = "auth" then some (.table settings.toEntries) else document.get? key :=
  Entries.get?_insert "auth" key (.table settings.toEntries) document

/-- Files can be written at a path, once the directories above it are made. -/
def Replaceable (path : String) (tree : FileTree) : Prop :=
  ∃ made place, tree.makeParents path = (.ok (), made) ∧ made.Writable path place

/-- What was written is read, and the rest of the document is kept, if the document is read back
as it was printed.  Where there is no document nothing is written. -/
theorem read_undoes_write (path : String) (tree : FileTree) (settings : LegacySettings) :
    (∀ document, Holds path tree document → Replaceable path tree →
      ∃ after, ((inTree path).write settings).run tree = (.ok (), after) ∧
        ((document ≠ [] →
            Toml.parse (Toml.print (settings.writeTo document)) =
              some (settings.writeTo document)) →
          ((inTree path).read.run after).1 = .ok settings ∧
            ∃ text written, after.read path = .ok text.toUTF8 ∧ Toml.parse text = some written ∧
              ∀ key, key ≠ "auth" → written.get? key = document.get? key)) ∧
    ∀ failure, HoldsNone path tree failure →
      ((inTree path).write settings).run tree = (.error failure, tree) := by
  refine ⟨fun document holds replaceable => ?_, fun _ => run_write_of_holdsNone settings⟩
  obtain ⟨made, place, parents, writable⟩ := replaceable
  have replaced : ((inTree path).replace (settings.writeTo document)).run tree = (.ok (), _) :=
    run_replace_eq_ok.mpr ⟨made, place, parents, writable, rfl⟩
  refine ⟨_, (run_write_of_holds settings holds).trans replaced, fun recovers => ?_⟩
  have content := read_of_replace replaced
  have parsed : Toml.parse (Toml.print (settings.writeTo document)) =
      some (settings.writeTo document) := by
    by_cases empty : document = []
    · subst empty
      exact settings.parse_writeTo_nil
    · exact recovers empty
  constructor
  · obtain ⟨items, done, valued⟩ := Toml.parse_eq_some.mp parsed
    have written := LegacySettings.ofDocument_of_shows done valued
      ((get?_writeTo document settings "auth").trans (if_pos rfl))
    rw [run_read content, written]
    rfl
  · refine ⟨_, settings.writeTo document, content, parsed, fun key other => ?_⟩
    rw [get?_writeTo, if_neg other]

/-- A document of which nothing can be read as settings. -/
def oddText : String :=
  "auth = 5\nclone_with_ssh = true\n"

theorem read_undoes_write_over_odd_text :
    (LegacySettings.ofDocument oddText).toOption = none ∧
      ∃ after, ((inTree "/settings.toml").write
          { host := some "ghe.corp", authMode := .token }).run (withFile oddText) =
            (.ok (), after) ∧
        ((inTree "/settings.toml").read.run after).1 =
          .ok { host := some "ghe.corp", authMode := .token } ∧
        ((inTree "/settings.toml").write {}).run (withFile "auth =\n") =
          (.error (.legacy (.malformed .notADocument)), withFile "auth =\n") := by
  refine ⟨by decide +kernel, ?_⟩
  have parsed : Toml.parse oddText =
      some [("auth", .integer 5), ("clone_with_ssh", .scalar (.boolean true))] := by
    decide +kernel
  obtain ⟨after, written, read⟩ := (read_undoes_write "/settings.toml" (withFile oddText)
    { host := some "ghe.corp", authMode := .token }).1 _ (.document (read_withFile _) parsed)
    ⟨withFile oddText, _, rfl, writable_bare.again _ _⟩
  refine ⟨after, written, (read fun _ => by decide +kernel).1, ?_⟩
  exact (read_undoes_write "/settings.toml" (withFile "auth =\n") {}).2 _
    (.notToml (read_withFile _) (by decide +kernel))

end SettingsFile

end AccountKeeper
