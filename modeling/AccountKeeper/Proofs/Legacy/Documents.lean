import AccountKeeper.Legacy.SettingsFile
import AccountKeeper.Proofs.Action
import AccountKeeper.Proofs.Toml.Keys

/-!
# Settings in a document

What a document says about the legacy settings depends on the form of its entry
`auth`: a table or a list of the settings, a date, or nothing.  Clearing removes
the settings from a table only, so those in a list stay.
-/

set_option autoImplicit false

namespace AccountKeeper

namespace Toml

namespace Decoder

variable {ρ : Type} {take : ρ → String → Item → Except Mismatch ρ} {start : ρ}

theorem takeFields_cons (key : String) (item : Item) (rest : ItemEntries) :
    takeFields take start ((key, item) :: rest) =
      match take start key item with
      | .ok next => takeFields take next rest
      | .error mismatch => .error mismatch := by
  unfold takeFields
  rw [List.foldlM_cons]
  dsimp only
  cases take start key item <;> rfl

theorem takeFields_pass {items : ItemEntries}
    (passes : ∀ entry ∈ items, take start entry.1 entry.2 = .ok start) :
    takeFields take start items = .ok start := by
  induction items with
  | nil => rfl
  | cons entry rest ih =>
    obtain ⟨key, item⟩ := entry
    rw [takeFields_cons, passes (key, item) (List.mem_cons_self ..)]
    exact ih fun entry member => passes entry (List.mem_cons_of_mem _ member)

theorem map_first {ε α β : Type} (outcome : Except ε (α × β)) :
    (do let (first, _) ← outcome; return first) = outcome.map (·.1) := by
  cases outcome <;> rfl

theorem fields_table (name : String) (keys : List String) (form : TableForm)
    (items : ItemEntries) :
    (fields name keys take start (.table form items)).map (·.1) = takeFields take start items := by
  unfold fields
  dsimp only
  cases takeFields take start items <;> rfl

theorem fields_list (name : String) (keys : List String) {item : Item} {items : List Item}
    (list : item = .array items ∨ item = .tables items) :
    (fields name keys take start item).map (·.1) = takeFields take start (keys.zip items) := by
  rcases list with rfl | rfl
  all_goals
    unfold fields fields.listed
    dsimp only
    cases takeFields take start (keys.zip items) <;> rfl

end Decoder

/-- The document is read back from its printed form, with the dates as dates. -/
structure Recovered (document : Entries) (items : ItemEntries) : Prop where
  read : Document.read (print document) = some items
  values : (Item.toEntries? items).map Entries.sorted = some document
  dates : ∀ entry ∈ items, ∀ date, entry.2.toValue? = some (.scalar (.datetime date)) →
    entry.2 = .scalar (.datetime date)

theorem Recovered.parse {document : Entries} {items : ItemEntries}
    (recovered : Recovered document items) : parse (print document) = some document :=
  parse_eq_some.mpr ⟨items, recovered.read, recovered.values⟩

/-- Without dates at the top level the value is all that matters. -/
theorem recovered_of_parse {document : Entries}
    (parsed : Toml.parse (print document) = some document)
    (noDates : ∀ entry ∈ document, ∀ date, entry.2 ≠ .scalar (.datetime date)) :
    ∃ items, Recovered document items := by
  obtain ⟨items, done, valued⟩ := parse_eq_some.mp parsed
  have shown := Document.shows done valued
  refine ⟨items, done, valued, fun entry member date isDate => ?_⟩
  rcases shown.under entry.1 with ⟨absent, _⟩ | ⟨item, value, found, itsValue, there⟩
  · rw [shown.distinct.lookup_of_mem member] at absent
    cases absent
  · cases (shown.distinct.lookup_of_mem member).symm.trans found
    cases isDate.symm.trans itsValue
    exact absurd rfl (noDates (entry.1, _) (Entries.mem_of_lookup there) date)

end Toml

namespace LegacySettings

open Toml

/-! ## Forms of the settings -/

theorem take_of_unknown (settings : LegacySettings) {key : String} (item : Item)
    (unknown : key ∉ fieldNames) : take settings key item = .ok settings := by
  unfold take
  split
  · simp [fieldNames] at unknown
  · simp [fieldNames] at unknown
  · simp [fieldNames] at unknown
  · rfl

theorem take_host (settings : LegacySettings) (item : Item) :
    take settings "host" item =
      (Decoder.string item).map fun host => { settings with host := some host } := by
  unfold take
  cases Decoder.string item <;> rfl

theorem host_of_take {settings settings' : LegacySettings} {key : String} {item : Item}
    (other : key ≠ "host") (taken : take settings key item = .ok settings') :
    settings'.host = settings.host := by
  unfold take at taken
  split at taken
  · exact absurd rfl other
  · cases text : Decoder.string item with
    | error mismatch => simp [text, bind, Except.bind] at taken
    | ok login =>
      simp only [text, bind, Except.bind] at taken
      cases taken
      rfl
  · cases mode : Decoder.choice AuthMode.names item with
    | error mismatch => simp [mode, bind, Except.bind] at taken
    | ok authMode =>
      simp only [mode, bind, Except.bind] at taken
      cases taken
      rfl
  · cases taken
    rfl

theorem decoder_eq (item : Item) :
    decoder item = (Decoder.fields "LegacyAuthSettings" fieldNames take {} item).map (·.1) := by
  unfold decoder
  exact Decoder.map_first _

theorem documentDecoder_eq (item : Item) :
    documentDecoder item = (Decoder.fields "LegacyFile" ["auth"] (fun settings key item =>
      if key = "auth" then decoder item else return settings) {} item).map (·.1) := by
  unfold documentDecoder
  exact Decoder.map_first _

/-! ## Forms of the settings -/

theorem decoder_table {form : TableForm} {items : ItemEntries}
    (strange : ∀ entry ∈ items, entry.1 ∉ fieldNames) : decoder (.table form items) = .ok {} := by
  rw [decoder_eq, Decoder.fields_table]
  exact Decoder.takeFields_pass fun entry member => take_of_unknown {} entry.2 (strange entry member)

theorem decoder_date (date : Datetime) : decoder (.scalar (.datetime date)) = .ok {} := by
  rw [decoder_eq]
  rfl

theorem decoder_nil {item : Item} (list : item = .array [] ∨ item = .tables []) :
    decoder item = .ok {} := by
  rw [decoder_eq, Decoder.fields_list _ _ list]
  rfl

theorem date_of_decoder {value : Scalar} {settings : LegacySettings}
    (decoded : decoder (.scalar value) = .ok settings) : ∃ date, value = .datetime date := by
  rw [decoder_eq] at decoded
  cases value with
  | datetime date => exact ⟨date, rfl⟩
  | _ => cases decoded

theorem host_of_takeFields {start settings : LegacySettings} {items : ItemEntries}
    (others : ∀ entry ∈ items, entry.1 ≠ "host")
    (taken : Decoder.takeFields take start items = .ok settings) :
    settings.host = start.host := by
  induction items generalizing start with
  | nil =>
    cases taken
    rfl
  | cons entry rest ih =>
    obtain ⟨key, item⟩ := entry
    rw [Decoder.takeFields_cons] at taken
    cases first : take start key item with
    | error mismatch =>
      rw [first] at taken
      cases taken
    | ok next =>
      rw [first] at taken
      rw [ih (fun entry member => others entry (List.mem_cons_of_mem _ member)) taken]
      exact host_of_take (others (key, item) (List.mem_cons_self ..)) first

theorem host_of_decoder {item first : Item} {others : List Item} {settings : LegacySettings}
    (list : item = .array (first :: others) ∨ item = .tables (first :: others))
    (decoded : decoder item = .ok settings) :
    ∃ host, first = .scalar (.string host) ∧ settings.host = some host := by
  rw [decoder_eq, Decoder.fields_list _ _ list] at decoded
  have zipped : fieldNames.zip (first :: others) =
      ("host", first) :: ["login", "auth_type"].zip others := rfl
  rw [zipped, Decoder.takeFields_cons, take_host] at decoded
  cases text : Decoder.string first with
  | error mismatch =>
    rw [text] at decoded
    cases decoded
  | ok host =>
    rw [text] at decoded
    have later := host_of_takeFields (fun entry member => ?_) decoded
    · refine ⟨host, ?_, later⟩
      unfold Decoder.string at text
      split at text
      · cases text
        rfl
      · cases text
    · rintro isHost
      obtain ⟨key, item⟩ := entry
      dsimp only at isHost
      subst isHost
      exact absurd (List.of_mem_zip member).1 (by decide)

theorem takeFields_auth {items : ItemEntries} (distinct : Document.Distinct items) :
    Decoder.takeFields (fun settings key item =>
        if key = "auth" then decoder item else return settings) {} items =
      match items.lookup "auth" with
      | none => .ok {}
      | some item => decoder item := by
  induction items with
  | nil => rfl
  | cons entry rest ih =>
    obtain ⟨key, item⟩ := entry
    obtain ⟨new, distinct⟩ := List.nodup_cons.mp distinct
    rw [Association.lookup_front, Decoder.takeFields_cons]
    by_cases same : key = "auth"
    · subst same
      rw [if_pos rfl, if_pos rfl]
      dsimp only
      cases decoder item with
      | error mismatch => rfl
      | ok settings =>
        refine Decoder.takeFields_pass fun entry member => ?_
        rw [if_neg fun isAuth => new (List.mem_map.mpr ⟨entry, member, isAuth⟩)]
        rfl
    · rw [if_neg same, if_neg (Ne.symm same)]
      exact ih distinct

/-- A document says what its entry `auth` says. -/
theorem ofDocument_eq {text : String} {items : ItemEntries}
    (done : Document.read text = some items) :
    ofDocument text = match items.lookup "auth" with
      | none => .ok {}
      | some item => (decoder item).mapError .mismatch := by
  unfold ofDocument Decoder.document
  rw [done]
  dsimp only
  rw [documentDecoder_eq, Decoder.fields_table, takeFields_auth (Document.distinct_read done)]
  cases items.lookup "auth" <;> rfl

/-- Values of the entry `auth` without a setting in them. -/
inductive SaysNothing : Option Value → Prop where
  | absent : SaysNothing none
  | date (date : Datetime) : SaysNothing (some (.scalar (.datetime date)))
  | emptyList : SaysNothing (some (.array []))
  | table (entries : Entries) (strange : ∀ entry ∈ entries, entry.1 ∉ fieldNames) :
    SaysNothing (some (.table entries))

theorem forms_of_ofDocument {text : String} {items : ItemEntries} {document : Entries}
    {settings : LegacySettings} (done : Document.read text = some items)
    (shown : Document.Shows items document) (accepted : ofDocument text = .ok settings) :
    SaysNothing (document.get? "auth") ∨
      (∃ entries, document.get? "auth" = some (.table entries)) ∨
      ∃ host others, document.get? "auth" = some (.array (.string host :: others)) := by
  rcases shown.under "auth" with ⟨_, absent⟩ | ⟨item, value, found, valued, there⟩
  · rw [absent]
    exact .inl .absent
  rw [ofDocument_eq done, found] at accepted
  have decoded : decoder item = .ok settings := ActionE.mapError_eq_ok.mp accepted
  rw [there]
  cases value with
  | scalar value =>
    suffices ∃ date, value = .datetime date by
      obtain ⟨date, rfl⟩ := this
      exact .inl (.date date)
    cases item with
    | scalar value' =>
      simp only [Item.toValue?, Option.some.injEq, Value.scalar.injEq] at valued
      subst valued
      exact date_of_decoder decoded
    | table form items =>
      rcases Item.toValue?_table valued with ⟨date, isDate⟩ | ⟨_, _, isTable⟩
      · cases isDate
        exact ⟨date, rfl⟩
      · cases isTable
    | array items => simp [Item.toValue?] at valued
    | tables items => simp [Item.toValue?] at valued
  | table entries => exact .inr (.inl ⟨entries, rfl⟩)
  | array values =>
    obtain ⟨elements, list, itsValues⟩ := Item.eq_array_of_toValue? valued
    cases elements with
    | nil =>
      simp only [Item.toValues?, Option.some.injEq] at itsValues
      subst itsValues
      exact .inl .emptyList
    | cons first others =>
      obtain ⟨host, rfl, _⟩ := host_of_decoder list decoded
      simp only [Item.toValues?, Item.toValue?] at itsValues
      split at itsValues
      · rename_i isHost _
        cases isHost
        cases itsValues
        exact .inr (.inr ⟨host, _, rfl⟩)
      · cases itsValues

/-! ## What is read after printing -/

section Printed

variable {document : Entries} {items : ItemEntries} (recovered : Recovered document items)

include recovered

theorem ofDocument_print_of_saysNothing (nothing : SaysNothing (document.get? "auth")) :
    ofDocument (print document) = .ok {} := by
  have shown := Document.shows recovered.read recovered.values
  rw [ofDocument_eq recovered.read]
  rcases shown.under "auth" with ⟨absent, _⟩ | ⟨item, value, found, valued, there⟩
  · rw [absent]
  rw [found]
  suffices decoder item = .ok {} by
    dsimp only
    rw [this]
    rfl
  rw [there] at nothing
  cases nothing with
  | date date =>
    have isDate : item = .scalar (.datetime date) :=
      recovered.dates ("auth", item) (Entries.mem_of_lookup found) date valued
    rw [isDate]
    exact decoder_date date
  | emptyList =>
    obtain ⟨elements, list, itsValues⟩ := Item.eq_array_of_toValue? valued
    cases elements with
    | nil => exact decoder_nil list
    | cons first others =>
      simp only [Item.toValues?] at itsValues
      split at itsValues <;> cases itsValues
  | table entries strange =>
    obtain ⟨form, members, values, rfl, itsValues, rfl⟩ := Item.eq_table_of_toValue? valued
    refine decoder_table fun entry member => ?_
    have isKey : entry.1 ∈ values.map (·.1) := by
      rw [Item.toEntries?_keys itsValues]
      exact List.mem_map_of_mem member
    obtain ⟨valuedEntry, member', same⟩ := List.mem_map.mp isKey
    obtain ⟨value, found⟩ := Option.ne_none_iff_exists'.mp (Entries.get?_sorted_ne_none member')
    rw [← same]
    exact strange (valuedEntry.1, value) (Entries.mem_of_lookup found)

theorem ofDocument_print_of_list {host : String} {others : List Value}
    (list : document.get? "auth" = some (.array (.string host :: others))) :
    ofDocument (print document) ≠ .ok {} := by
  have shown := Document.shows recovered.read recovered.values
  rw [ofDocument_eq recovered.read]
  rcases shown.under "auth" with ⟨_, absent⟩ | ⟨item, value, found, valued, there⟩
  · rw [absent] at list
    cases list
  rw [found]
  rw [there] at list
  cases list
  obtain ⟨elements, isList, itsValues⟩ := Item.eq_array_of_toValue? valued
  cases elements with
  | nil => simp [Item.toValues?] at itsValues
  | cons first rest =>
    intro same
    obtain ⟨_, _, hosted⟩ := host_of_decoder isList (ActionE.mapError_eq_ok.mp same)
    cases hosted

end Printed

/-! ## Clearing -/

section Clearing

variable {document : Entries}

/-- The entries of a table besides the settings. -/
def strangeEntries (auth : Entries) : Entries :=
  auth.filter fun entry => entry.1 ∉ fieldNames

theorem get?_strangeEntries (auth : Entries) (key : String) :
    (strangeEntries auth).get? key = if key ∈ fieldNames then none else auth.get? key := by
  have filtered : (strangeEntries auth).get? key =
      if decide (key ∉ fieldNames) then auth.get? key else none :=
    Entries.get?_filter (fun key => decide (key ∉ fieldNames)) auth key
  rw [filtered]
  by_cases field : key ∈ fieldNames
  · simp [field]
  · simp [field]

theorem clearFrom_of_table {auth : Entries}
    (there : document.get? "auth" = some (.table auth)) :
    clearFrom document =
      if strangeEntries auth = [] then Entries.erase "auth" document
      else Entries.insert "auth" (.table (strangeEntries auth)) document := by
  unfold clearFrom
  rw [there]
  rfl

theorem clearFrom_of_not_table
    (other : ∀ auth, document.get? "auth" ≠ some (.table auth)) :
    clearFrom document = document := by
  unfold clearFrom
  split
  · rename_i auth there
    exact absurd there (other auth)
  · rfl

theorem get?_clearFrom (document : Entries) {key : String} (other : key ≠ "auth") :
    (clearFrom document).get? key = document.get? key := by
  by_cases isTable : ∃ auth, document.get? "auth" = some (.table auth)
  · obtain ⟨auth, there⟩ := isTable
    rw [clearFrom_of_table there]
    split
    · rw [Entries.get?_erase, if_neg other]
    · rw [Entries.get?_insert, if_neg other]
  · rw [clearFrom_of_not_table fun auth there => isTable ⟨auth, there⟩]

theorem get?_clearFrom_table {auth : Entries}
    (there : document.get? "auth" = some (.table auth)) :
    (clearFrom document).get? "auth" =
      if strangeEntries auth = [] then none else some (.table (strangeEntries auth)) := by
  rw [clearFrom_of_table there]
  split
  · rw [Entries.get?_erase, if_pos rfl]
  · rw [Entries.get?_insert, if_pos rfl]

theorem saysNothing_clearFrom_table {auth : Entries}
    (there : document.get? "auth" = some (.table auth)) :
    SaysNothing ((clearFrom document).get? "auth") := by
  rw [get?_clearFrom_table there]
  split
  · exact .absent
  · exact .table _ fun entry member => by simpa using (List.mem_filter.mp member).2

theorem saysNothing_clearFrom (form : SaysNothing (document.get? "auth") ∨
    ∃ auth, document.get? "auth" = some (.table auth)) :
    SaysNothing ((clearFrom document).get? "auth") := by
  by_cases isTable : ∃ auth, document.get? "auth" = some (.table auth)
  · obtain ⟨auth, there⟩ := isTable
    exact saysNothing_clearFrom_table there
  · rw [clearFrom_of_not_table fun auth there => isTable ⟨auth, there⟩]
    exact form.resolve_right isTable

/-- After clearing no settings are read, unless they are in a list. -/
theorem ofDocument_cleared_iff {text : String} {items items' : ItemEntries}
    {settings : LegacySettings} (done : Document.read text = some items)
    (shown : Document.Shows items document) (accepted : ofDocument text = .ok settings)
    (recovered : Recovered (clearFrom document) items') :
    ofDocument (print (clearFrom document)) = .ok {} ↔
      ¬∃ first others, document.get? "auth" = some (.array (first :: others)) := by
  rcases forms_of_ofDocument done shown accepted with nothing | ⟨auth, there⟩ | ⟨host, others, list⟩
  · refine iff_of_true (ofDocument_print_of_saysNothing recovered
      (saysNothing_clearFrom (.inl nothing))) ?_
    rintro ⟨first, others, list⟩
    rw [list] at nothing
    cases nothing
  · refine iff_of_true (ofDocument_print_of_saysNothing recovered
      (saysNothing_clearFrom (.inr ⟨auth, there⟩))) ?_
    rintro ⟨first, others, list⟩
    rw [there] at list
    cases list
  · have same : clearFrom document = document := clearFrom_of_not_table (by simp [list])
    refine iff_of_false (ofDocument_print_of_list recovered (by rw [same]; exact list)) ?_
    exact fun noList => noList ⟨_, others, list⟩

/-- A document has everything of another one besides the settings in the table `auth`; the table
is gone if they were all of it. -/
structure KeepsRest (document document' : Entries) : Prop where
  others : ∀ key ≠ "auth", document'.get? key = document.get? key
  table : ∀ auth : Entries, document.get? "auth" = some (.table auth) →
    (document'.get? "auth" = none ∧ ∀ entry ∈ auth, entry.1 ∈ fieldNames) ∨
      ∃ kept : Entries, document'.get? "auth" = some (.table kept) ∧ kept ≠ [] ∧
        ∀ key, kept.get? key = if key ∈ fieldNames then none else auth.get? key
  otherwise : (∀ auth, document.get? "auth" ≠ some (.table auth)) →
    document'.get? "auth" = document.get? "auth"

theorem keepsRest_clearFrom (document : Entries) : KeepsRest document (clearFrom document) where
  others _ other := get?_clearFrom document other
  table auth there := by
    rw [get?_clearFrom_table there]
    split
    · rename_i unremarkable
      refine .inl ⟨rfl, fun entry member => ?_⟩
      simpa using List.filter_eq_nil_iff.mp unremarkable entry member
    · rename_i strange
      exact .inr ⟨_, rfl, strange, get?_strangeEntries auth⟩
  otherwise other := by rw [clearFrom_of_not_table other]

theorem clearFrom_clearFrom (document : Entries) :
    clearFrom (clearFrom document) = clearFrom document := by
  by_cases isTable : ∃ auth, document.get? "auth" = some (.table auth)
  · obtain ⟨auth, there⟩ := isTable
    have after := get?_clearFrom_table there
    by_cases unremarkable : strangeEntries auth = []
    · rw [if_pos unremarkable] at after
      exact clearFrom_of_not_table (by simp [after])
    · rw [if_neg unremarkable] at after
      have again : strangeEntries (strangeEntries auth) = strangeEntries auth := by
        simp [strangeEntries]
      rw [clearFrom_of_table after, again, if_neg unremarkable, clearFrom_of_table there,
        if_neg unremarkable, Entries.insert_insert]
  · have same := clearFrom_of_not_table fun auth there => isTable ⟨auth, there⟩
    rw [same, same]

end Clearing

end LegacySettings

end AccountKeeper
