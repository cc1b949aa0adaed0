import AccountKeeper.Proofs.Toml.Items

/-!
# Keys of documents

No key stands twice in a document that is read, so what stands under a key in
its items is what stands under the key in its value.
-/

set_option autoImplicit false

namespace AccountKeeper.Toml

/-! ## Sorted entries -/

namespace Entries

variable {entries : Entries} {key : String}

theorem get?_eq_none_iff : get? entries key = none ↔ ∀ entry ∈ entries, entry.1 ≠ key := by
  induction entries with
  | nil => simp
  | cons entry rest ih =>
    obtain ⟨k, v⟩ := entry
    rw [get?_cons]
    by_cases same : key = k
    · simp [same]
    · simp [same, ih, Ne.symm same]

theorem mem_of_lookup {α : Type} {items : List (String × α)} {item : α}
    (found : items.lookup key = some item) : (key, item) ∈ items := by
  obtain ⟨before, after, rfl, _⟩ := List.lookup_eq_some_iff.mp found
  simp

/-- Of several values under a key the last one counts. -/
theorem get?_foldl_insert (entries done : Entries) (distinct : (entries.map (·.1)).Nodup)
    (key : String) :
    get? (entries.foldl (fun done entry => insert entry.1 entry.2 done) done) key =
      (get? entries key).or (get? done key) := by
  induction entries generalizing done with
  | nil => rfl
  | cons entry rest ih =>
    obtain ⟨k, v⟩ := entry
    rw [List.map_cons, List.nodup_cons] at distinct
    rw [List.foldl_cons, ih _ distinct.2, get?_insert, get?_cons]
    by_cases same : key = k
    · subst same
      have absent : get? rest key = none := by
        rw [get?_eq_none_iff]
        intro entry member isKey
        exact distinct.1 (List.mem_map.mpr ⟨entry, member, isKey⟩)
      simp [absent]
    · simp [same]

theorem get?_sorted (distinct : (entries.map (·.1)).Nodup) (key : String) :
    get? (sorted entries) key = get? entries key := by
  rw [sorted, get?_foldl_insert entries [] distinct]
  simp

theorem get?_sorted_ne_none {entry : String × Value} (member : entry ∈ entries) :
    get? (sorted entries) entry.1 ≠ none := by
  have general : ∀ (entries done : Entries),
      (entry ∈ entries ∨ get? done entry.1 ≠ none) →
        get? (entries.foldl (fun done entry => insert entry.1 entry.2 done) done) entry.1 ≠
          none := by
    intro entries
    induction entries with
    | nil =>
      rintro done (member | there)
      · cases member
      · exact there
    | cons first rest ih =>
      intro done start
      refine ih _ ?_
      rw [get?_insert]
      rcases start with member | there
      · rcases List.mem_cons.mp member with rfl | behind
        · exact .inr (by simp)
        · exact .inl behind
      · refine .inr ?_
        split
        · simp
        · exact there
  exact general entries [] (.inl member)

theorem get?_filter (keeps : String → Bool) (entries : Entries) (key : String) :
    get? (entries.filter fun entry => keeps entry.1) key =
      if keeps key then get? entries key else none := by
  induction entries with
  | nil => simp
  | cons entry rest ih =>
    obtain ⟨k, v⟩ := entry
    rw [List.filter_cons, get?_cons]
    by_cases same : key = k
    · subst same
      by_cases kept : keeps key = true
      · simp [kept, get?_cons]
      · simp [kept, ih]
    · by_cases kept : keeps k = true
      · simp [kept, get?_cons, same, ih]
      · simp [kept, same, ih]

theorem insert_insert (key : String) (value : Value) (entries : Entries) :
    insert key value (insert key value entries) = insert key value entries := by
  induction entries with
  | nil => simp [insert]
  | cons entry rest ih =>
    obtain ⟨k, v⟩ := entry
    by_cases same : key = k
    · simp [insert, same]
    · by_cases less : key < k
      · simp [insert, same, less]
      · simp [insert, same, less, ih]

end Entries

/-! ## Items and their values -/

namespace Item

variable {item : Item}

theorem toEntries?_keys {items : List (String × Item)} {entries : Entries}
    (valued : toEntries? items = some entries) : entries.map (·.1) = items.map (·.1) := by
  induction items generalizing entries with
  | nil =>
    simp only [toEntries?, Option.some.injEq] at valued
    subst valued
    rfl
  | cons entry rest ih =>
    obtain ⟨key, item⟩ := entry
    simp only [toEntries?] at valued
    split at valued
    · rename_i itsOthers
      cases valued
      simp [ih itsOthers]
    · cases valued

/-- Under each key there is an item with the value under the key, or nothing in both. -/
theorem get?_of_toEntries? {items : List (String × Item)} {entries : Entries}
    (valued : toEntries? items = some entries) (key : String) :
    (items.lookup key = none ∧ entries.get? key = none) ∨
      ∃ item value, items.lookup key = some item ∧ item.toValue? = some value ∧
        entries.get? key = some value := by
  induction items generalizing entries with
  | nil =>
    simp only [toEntries?, Option.some.injEq] at valued
    subst valued
    exact .inl ⟨rfl, rfl⟩
  | cons entry rest ih =>
    obtain ⟨k, item⟩ := entry
    simp only [toEntries?] at valued
    split at valued
    · rename_i value others itsValue itsOthers
      cases valued
      rw [Entries.get?_cons, Association.lookup_front]
      by_cases same : key = k
      · exact .inr ⟨item, value, if_pos same, itsValue, if_pos same⟩
      · rw [if_neg same, if_neg same]
        exact ih itsOthers
    · cases valued

theorem toValue?_table {form : TableForm} {items : List (String × Item)} {value : Value}
    (valued : (Item.table form items).toValue? = some value) :
    (∃ date, value = .scalar (.datetime date)) ∨
      ∃ values, toEntries? items = some values ∧ value = .table (Entries.sorted values) := by
  cases items with
  | nil =>
    simp only [toValue?, Option.some.injEq] at valued
    exact .inr ⟨[], rfl, valued.symm⟩
  | cons entry rest =>
    obtain ⟨key, first⟩ := entry
    simp only [toValue?] at valued
    split at valued
    · split at valued
      · obtain ⟨date, _, isDate⟩ := Option.map_eq_some_iff.mp valued
        exact .inl ⟨date, isDate.symm⟩
      · cases valued
    · split at valued
      · rename_i itsValue itsOthers
        cases valued
        exact .inr ⟨_, by simp [toEntries?, itsValue, itsOthers], rfl⟩
      · cases valued

theorem eq_table_of_toValue? {entries : Entries}
    (valued : item.toValue? = some (.table entries)) :
    ∃ form items values, item = .table form items ∧ toEntries? items = some values ∧
      entries = Entries.sorted values := by
  cases item with
  | scalar value => simp [toValue?] at valued
  | array items => simp [toValue?] at valued
  | tables items => simp [toValue?] at valued
  | table form items =>
    rcases toValue?_table valued with ⟨date, isDate⟩ | ⟨values, itsValues, same⟩
    · cases isDate
    · cases same
      exact ⟨form, items, values, rfl, itsValues, rfl⟩

theorem eq_array_of_toValue? {values : List Value}
    (valued : item.toValue? = some (.array values)) :
    ∃ items, (item = .array items ∨ item = .tables items) ∧ toValues? items = some values := by
  cases item with
  | scalar value => simp [toValue?] at valued
  | array items => exact ⟨items, .inl rfl, by simpa [toValue?] using valued⟩
  | tables items => exact ⟨items, .inr rfl, by simpa [toValue?] using valued⟩
  | table form items =>
    rcases toValue?_table valued with ⟨date, isDate⟩ | ⟨values, _, same⟩
    · cases isDate
    · cases same

end Item

/-! ## Documents and their values -/

theorem parse_eq_some {text : String} {document : Entries} :
    parse text = some document ↔
      ∃ items, Document.read text = some items ∧
        (Item.toEntries? items).map Entries.sorted = some document := by
  unfold parse
  cases Document.read text with
  | none => simp
  | some items => simp

theorem Document.Distinct.lookup_of_mem {items : ItemEntries} (distinct : Distinct items)
    {entry : String × Item} (member : entry ∈ items) : items.lookup entry.1 = some entry.2 := by
  induction items with
  | nil => cases member
  | cons first rest ih =>
    obtain ⟨k, item⟩ := first
    obtain ⟨new, distinct⟩ := List.nodup_cons.mp distinct
    rw [Association.lookup_front]
    rcases List.mem_cons.mp member with rfl | behind
    · rw [if_pos rfl]
    · rw [if_neg fun same => new (List.mem_map.mpr ⟨entry, behind, same⟩)]
      exact ih distinct behind

/-- Items and entries that say the same of each key. -/
structure Document.Shows (items : ItemEntries) (document : Entries) : Prop where
  distinct : Distinct items
  under : ∀ key, (items.lookup key = none ∧ document.get? key = none) ∨
    ∃ item value, items.lookup key = some item ∧ item.toValue? = some value ∧
      document.get? key = some value

theorem Document.shows_sorted {items : ItemEntries} {values : Entries}
    (distinct : Distinct items) (itsValues : Item.toEntries? items = some values) :
    Shows items values.sorted := by
  refine ⟨distinct, fun key => ?_⟩
  rw [Entries.get?_sorted (by rw [Item.toEntries?_keys itsValues]; exact distinct)]
  exact Item.get?_of_toEntries? itsValues key

theorem Document.shows {text : String} {items : ItemEntries} {document : Entries}
    (done : Document.read text = some items)
    (valued : (Item.toEntries? items).map Entries.sorted = some document) :
    Shows items document := by
  obtain ⟨values, itsValues, rfl⟩ := Option.map_eq_some_iff.mp valued
  exact shows_sorted (distinct_read done) itsValues

end AccountKeeper.Toml
