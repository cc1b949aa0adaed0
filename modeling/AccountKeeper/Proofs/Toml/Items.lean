import AccountKeeper.Toml.Document

/-!
# Items of documents

Of a document that is read, every whole number has 64 bits and a sign, and no
table has a key twice, wherever in it they stand (`Document.sound_read`).
Longer numbers are refused where they are read, and the changes that build the
tables of a document keep to new keys or replace the item under a key.
-/

set_option autoImplicit false

namespace AccountKeeper.Toml

/-! ## Distinct keys -/

namespace Document

def Distinct (entries : ItemEntries) : Prop :=
  (entries.map (·.1)).Nodup

namespace Distinct

variable {entries : ItemEntries} {key : String}

theorem append_new (distinct : Distinct entries) (new : entries.lookup key = none)
    (item : Item) : Distinct (entries ++ [(key, item)]) := by
  have absent : key ∉ entries.map (·.1) := by
    intro isKey
    obtain ⟨entry, member, rfl⟩ := List.mem_map.mp isKey
    simpa using List.lookup_eq_none_iff.mp new entry member
  unfold Distinct
  rw [List.map_append, List.nodup_append]
  refine ⟨distinct, by simp, ?_⟩
  rintro k member _ isKey rfl
  obtain rfl := List.mem_singleton.mp isKey
  exact absent member

theorem replaceItem (distinct : Distinct entries) (key : String) (item : Item) :
    Distinct (replaceItem key item entries) := by
  have keys : (Document.replaceItem key item entries).map (·.1) = entries.map (·.1) := by
    unfold Document.replaceItem
    rw [List.map_map]
    refine List.map_congr_left fun entry _ => ?_
    dsimp only [Function.comp]
    split
    · rename_i same
      exact same.symm
    · rfl
  unfold Distinct
  rw [keys]
  exact distinct

theorem filter (distinct : Distinct entries) (keep : String × Item → Bool) :
    Distinct (entries.filter keep) :=
  distinct.sublist (List.filter_sublist.map _)

end Distinct

end Document

/-! ## Sound items -/

def Scalar.Fits : Scalar → Prop
  | .integer value => Literal.inRange value = true
  | .string _ => True
  | .float _ => True
  | .boolean _ => True
  | .datetime _ => True

/-- All whole numbers in an item are in range, and no table in it has a key twice. -/
inductive Item.Sound : Item → Prop where
  | scalar {value} (fits : value.Fits) : Sound (.scalar value)
  | array {items} (sound : ∀ item ∈ items, Sound item) : Sound (.array items)
  | table {form entries} (distinct : Document.Distinct entries)
    (sound : ∀ entry ∈ entries, Sound entry.2) : Sound (.table form entries)
  | tables {items} (sound : ∀ item ∈ items, Sound item) : Sound (.tables items)

structure SoundAll (entries : ItemEntries) : Prop where
  distinct : Document.Distinct entries
  sound : ∀ entry ∈ entries, entry.2.Sound

/-! ## Scalars -/

namespace Literal

variable {text rest : List Char} {value : Scalar}

theorem fits_readBased {base : Nat} (read : readBased base text = some (value, rest)) :
    value.Fits := by
  unfold readBased at read
  dsimp only at read
  split at read
  · cases read
  · split at read
    · rename_i inRange
      cases read
      exact inRange
    · cases read

theorem fits_readSpecial (read : readSpecial text = some (value, rest)) : value.Fits := by
  unfold readSpecial at read
  dsimp only at read
  split at read
  · cases read
    trivial
  · cases read
    trivial
  · cases read

theorem fits_readDecimal (read : readDecimal text = some (value, rest)) : value.Fits := by
  unfold readDecimal at read
  generalize readSign text = signed at read
  obtain ⟨negative, unsigned⟩ := signed
  obtain ⟨⟨whole, afterWhole⟩, -, read⟩ := Option.bind_eq_some_iff.mp read
  obtain ⟨⟨fraction, afterFraction⟩, -, read⟩ := Option.bind_eq_some_iff.mp read
  obtain ⟨⟨exponent, afterExponent⟩, -, read⟩ := Option.bind_eq_some_iff.mp read
  dsimp only at read
  split at read
  · generalize (if negative = true then -(decimalValue whole : Int) else decimalValue whole) =
      number at read
    split at read
    · rename_i inRange
      cases read
      exact inRange
    · cases read
  · split at read
    · cases read
    · cases read
      trivial

theorem fits_readNumber (read : readNumber text = some (value, rest)) : value.Fits := by
  unfold readNumber at read
  split at read
  · cases read
    trivial
  · cases read
  · split at read
    · exact fits_readBased read
    · exact fits_readBased read
    · exact fits_readBased read
    · split at read
      · rename_i special
        rw [read] at special
        exact fits_readSpecial special
      · exact fits_readDecimal read

theorem fits_readScalar (read : readScalar text = some (value, rest)) : value.Fits := by
  unfold readScalar at read
  split at read
  · cases read
  · split at read
    · obtain ⟨_, -, same⟩ := Option.map_eq_some_iff.mp read
      cases same
      trivial
    · split at read
      · exact fits_readNumber read
      · split at read
        · exact fits_readSpecial read
        · split at read
          · cases read
            trivial
          · split at read
            · cases read
              trivial
            · cases read

end Literal

/-! ## Changes of tables -/

namespace SoundAll

variable {entries : ItemEntries}

theorem nil : SoundAll [] where
  distinct := List.nodup_nil
  sound entry member := by cases member

theorem table (sound : SoundAll entries) (form : TableForm) : (Item.table form entries).Sound :=
  .table sound.distinct sound.sound

theorem concat (sound : SoundAll entries) {key : String} (absent : entries.lookup key = none)
    {item : Item} (new : item.Sound) : SoundAll (entries ++ [(key, item)]) where
  distinct := sound.distinct.append_new absent item
  sound entry member := by
    rcases List.mem_append.mp member with old | last
    · exact sound.sound entry old
    · obtain rfl := List.mem_singleton.mp last
      exact new

theorem replaceItem (sound : SoundAll entries) (key : String)
    {item : Item} (new : item.Sound) : SoundAll (Document.replaceItem key item entries) where
  distinct := sound.distinct.replaceItem key item
  sound entry member := by
    obtain ⟨old, inside, rfl⟩ := List.mem_map.mp member
    split
    · exact new
    · exact sound.sound old inside

theorem filter (sound : SoundAll entries) (keep : String × Item → Bool) :
    SoundAll (entries.filter keep) where
  distinct := sound.distinct.filter keep
  sound entry member := sound.sound entry (List.mem_filter.mp member).1

theorem lookup (sound : SoundAll entries) {key : String}
    {item : Item} (found : entries.lookup key = some item) : item.Sound := by
  obtain ⟨before, after, rfl, -⟩ := List.lookup_eq_some_iff.mp found
  exact sound.sound (key, item) (by simp)

end SoundAll

namespace Document

open Literal

/-- A change that brings in no number out of range; `good` is what holds of its result. -/
def KeepsSound {α : Type} (good : α → Prop) (change : TableChange α) : Prop :=
  ∀ table result table', change table = some (result, table') → SoundAll table.entries →
    good result ∧ SoundAll table'.entries

namespace KeepsSound

variable {α : Type} {good : α → Prop}

/-- The induction is on the keys: further down the change is made within a sound table. -/
theorem changeAt (braced dotted : Bool) {change : TableChange α} (keeps : KeepsSound good change)
    (keys : List String) : KeepsSound good (changeAt braced dotted change keys) := by
  induction keys with
  | nil => exact keeps
  | cons key keys ih =>
    intro table result table' changed sound
    unfold Document.changeAt at changed
    split at changed
    · rename_i absent
      split at changed
      · cases changed
      · rename_i inside
        cases changed
        obtain ⟨result, inner⟩ := ih _ _ _ inside .nil
        exact ⟨result, sound.concat absent (inner.table _)⟩
    · rename_i found
      split at changed
      · cases changed
      · split at changed
        · cases changed
        · rename_i inside
          cases changed
          have old := sound.lookup found
          cases old with
          | table distinct members =>
            obtain ⟨result, inner⟩ := ih _ _ _ inside ⟨distinct, members⟩
            exact ⟨result, sound.replaceItem key (inner.table _)⟩
    · rename_i tables found
      have old := sound.lookup found
      cases old with
      | tables members =>
        split at changed
        · rename_i last
          split at changed
          · cases changed
          · rename_i inside
            cases changed
            have lastSound := members _ (List.mem_of_getLast? last)
            cases lastSound with
            | table distinct entries =>
              obtain ⟨result, inner⟩ := ih _ _ _ inside ⟨distinct, entries⟩
              refine ⟨result, sound.replaceItem key (.tables fun item member => ?_)⟩
              rcases List.mem_append.mp member with front | new
              · exact members item (List.dropLast_subset _ front)
              · obtain rfl := List.mem_singleton.mp new
                exact inner.table _
        · cases changed
    · cases changed

theorem changeAbove (braced dotted : Bool) {change : String → TableChange α}
    (keeps : ∀ key, KeepsSound good (change key)) (keys : List String) :
    KeepsSound good (changeAbove braced dotted change keys) := by
  unfold Document.changeAbove
  split
  · intro table result table' changed
    cases changed
  · exact changeAt braced dotted (keeps _) _

theorem addNew (through : Bool) {item : Item} (new : item.Sound) (key : String) :
    KeepsSound (fun _ => True) (addNew through item key) := by
  intro table result table' changed sound
  unfold Document.addNew at changed
  split at changed
  · cases changed
  · rename_i absent
    cases changed
    exact ⟨trivial, sound.concat (Option.not_isSome_iff_eq_none.mp (not_or.mp absent).2) new⟩

theorem addTable {item : Item} (new : item.Sound) (key : String) :
    KeepsSound (fun _ => True) (addTable item key) := by
  intro table result table' changed sound
  unfold Document.addTable at changed
  split at changed
  · cases changed
  · rename_i absent
    cases changed
    exact ⟨trivial, sound.concat (Option.not_isSome_iff_eq_none.mp absent) new⟩

theorem addListed {item : Item} (new : item.Sound) (key : String) :
    KeepsSound (fun _ => True) (addListed item key) := by
  intro table result table' changed sound
  unfold Document.addListed at changed
  split at changed
  · rename_i absent
    cases changed
    refine ⟨trivial, sound.concat absent (.tables fun item member => ?_)⟩
    obtain rfl := List.mem_singleton.mp member
    exact new
  · rename_i found
    cases changed
    have old := sound.lookup found
    cases old with
    | tables members =>
      refine ⟨trivial, sound.replaceItem key (.tables fun item member => ?_)⟩
      rcases List.mem_append.mp member with inside | last
      · exact members item inside
      · obtain rfl := List.mem_singleton.mp last
        exact new
  · cases changed

theorem takeImplied (key : String) : KeepsSound SoundAll (takeImplied key) := by
  intro table result table' changed sound
  unfold Document.takeImplied at changed
  split at changed
  · cases changed
    exact ⟨.nil, sound⟩
  · rename_i found
    split at changed
    · cases changed
    · cases changed
      have old := sound.lookup found
      cases old with
      | table distinct members => exact ⟨⟨distinct, members⟩, sound.filter _⟩
  · cases changed

theorem assign (braced : Bool) (keys : List String) {item : Item} (new : item.Sound) :
    KeepsSound (fun _ => True) (assign braced keys item) :=
  changeAbove _ _ (fun key => addNew _ new key) keys

end KeepsSound

/-! ## Values -/

theorem sound_readValue (fuel : Nat) :
    (∀ depth text item rest, readValue fuel depth text = some (item, rest) → item.Sound) ∧
    (∀ depth text items rest, readItems fuel depth text = some (items, rest) →
      ∀ item ∈ items, item.Sound) ∧
    (∀ depth done text entries rest, readPairs fuel depth done text = some (entries, rest) →
      SoundAll done → SoundAll entries) := by
  induction fuel with
  | zero =>
    refine ⟨?_, ?_, ?_⟩
    · intro depth text item rest read
      simp [readValue] at read
    · intro depth text items rest read
      simp [readItems] at read
    · intro depth done text entries rest read
      simp [readPairs] at read
  | succ fuel ih =>
    obtain ⟨values, lists, pairs⟩ := ih
    refine ⟨?value, ?items, ?pairs⟩
    case value =>
      intro depth text item rest read
      unfold readValue at read
      split at read
      · split at read
        · cases read
        · split at read
          · cases read
          · rename_i inside
            cases read
            exact .array (lists _ _ _ _ inside)
      · split at read
        · cases read
        · dsimp only at read
          split at read
          · cases read
            exact SoundAll.nil.table _
          · split at read
            · cases read
            · rename_i inside
              cases read
              exact (pairs _ _ _ _ _ inside .nil).table _
      · split at read
        · cases read
        · rename_i inside
          cases read
          exact .scalar (fits_readScalar inside)
    case items =>
      intro depth text items rest read
      unfold readItems at read
      split at read
      · cases read
      · cases read
        intro item member
        cases member
      · split at read
        · cases read
        · rename_i first
          have sound := values _ _ _ _ first
          split at read
          · cases read
          · cases read
            intro item member
            obtain rfl := List.mem_singleton.mp member
            exact sound
          · split at read
            · cases read
            · rename_i others
              cases read
              intro item member
              rcases List.mem_cons.mp member with rfl | later
              · exact sound
              · exact lists _ _ _ _ others item later
          · cases read
    case pairs =>
      intro depth done text entries rest read sound
      unfold readPairs at read
      split at read
      · split at read
        · cases read
        · rename_i value
          split at read
          · cases read
          · rename_i assigned
            have table := (KeepsSound.assign true _ (values _ _ _ _ value) _ _ _ assigned sound).2
            split at read
            · cases read
              exact table
            · exact pairs _ _ _ _ _ read table
            · cases read
      · cases read

theorem sound_readAssignment {text rest : List Char} {keys : List String} {item : Item}
    (read : readAssignment text = some (keys, item, rest)) : item.Sound := by
  unfold readAssignment at read
  split at read
  · dsimp only at read
    split at read
    · cases read
    · rename_i value
      obtain ⟨_, -, same⟩ := Option.map_eq_some_iff.mp read
      cases same
      exact (sound_readValue _).1 _ _ _ _ value
  · cases read

/-! ## Lines -/

structure Draft.Sound (draft : Draft) : Prop where
  root : SoundAll draft.root.entries
  table : SoundAll draft.table.entries

namespace Draft.Sound

variable {draft draft' : Draft}

theorem start : Draft.start.Sound := ⟨.nil, .nil⟩

theorem close (sound : draft.Sound) {table : OpenTable} (closed : draft.close = some table) :
    SoundAll table.entries := by
  unfold Draft.close at closed
  split at closed
  · cases closed
    exact sound.table
  · rename_i header _
    obtain ⟨⟨result, table'⟩, changed, rfl⟩ := Option.map_eq_some_iff.mp closed
    have keeps : ∀ key, KeepsSound (fun _ => True) ((if header.listed
        then addListed (.table draft.table.form draft.table.entries)
        else addTable (.table draft.table.form draft.table.entries)) key) := by
      intro key
      split
      · exact KeepsSound.addListed (sound.table.table _) key
      · exact KeepsSound.addTable (sound.table.table _) key
    exact (KeepsSound.changeAbove false false keeps header.keys _ _ _ changed sound.root).2

theorem openHeader (sound : draft.Sound) {header : Header}
    (opened : draft.openHeader header = some draft') : draft'.Sound := by
  unfold Draft.openHeader at opened
  obtain ⟨root, closed, next⟩ := Option.bind_eq_some_iff.mp opened
  have top := sound.close closed
  split at next
  · cases next
    exact ⟨top, .nil⟩
  · obtain ⟨⟨entries, root'⟩, changed, done⟩ := Option.bind_eq_some_iff.mp next
    cases done
    obtain ⟨taken, left⟩ := KeepsSound.changeAbove false false KeepsSound.takeImplied header.keys
      _ _ _ changed top
    exact ⟨left, taken⟩

end Draft.Sound

theorem sound_readLines (fuel : Nat) {draft : Draft} (sound : draft.Sound) {text : List Char}
    {table : OpenTable} (done : readLines fuel draft text = some table) :
    SoundAll table.entries := by
  induction fuel generalizing draft text with
  | zero => cases done
  | succ fuel ih =>
    unfold readLines at done
    split at done
    · exact sound.close done
    · split at done
      · cases done
      · exact ih sound done
    · split at done
      · cases done
      · split at done
        · cases done
        · rename_i opened
          exact ih (sound.openHeader opened) done
    · split at done
      · exact ih sound done
      · split at done
        · cases done
        · rename_i read
          split at done
          · cases done
          · rename_i table' assigned
            have inner : SoundAll table'.entries :=
              (KeepsSound.assign false _ (sound_readAssignment read) _ _ _ assigned sound.table).2
            have next : ({ draft with table := table' } : Draft).Sound := ⟨sound.root, inner⟩
            exact ih next done

theorem sound_read {text : String} {items : ItemEntries} (done : read text = some items) :
    SoundAll items := by
  unfold read at done
  obtain ⟨table, lines, rfl⟩ := Option.map_eq_some_iff.mp done
  exact sound_readLines _ .start lines

theorem distinct_read {text : String} {items : ItemEntries} (done : read text = some items) :
    Distinct items :=
  (sound_read done).distinct

end Document

end AccountKeeper.Toml
