import AccountKeeper.Proofs.Files.Lodging
import AccountKeeper.Proofs.Secrets.Vault

/-!
# Entries of the vault

What the calls of the vault do in terms of the entries of its directory: a secret
is looked up in the entry of its key, and storing or erasing it replaces this
entry and no other one.  The directory may still have to be made.
-/

set_option autoImplicit false

namespace AccountKeeper

/-- What a store with this master password makes of a file. -/
def Cipher.reveal (cipher : Cipher) (password : Option String) (content : ByteArray) :
    Except Failure String :=
  match password with
  | none => .error (.credential .masterPasswordNotSet)
  | some password => (cipher.decrypt password content).mapError .credential

/-- What a store with this master password finds in an entry. -/
def Cipher.answer (cipher : Cipher) (password : Option String) :
    Option FileNode → Except Failure (Option String)
  | some (.file content _) => (cipher.reveal password content).map some
  | _ => .ok none

theorem Cipher.answer_file_ne (cipher : Cipher) (password : Option String) (content : ByteArray)
    (mode : Nat) : cipher.answer password (some (.file content mode)) ≠ .ok none := by
  intro found
  have found : (cipher.reveal password content).map some = .ok none := found
  cases revealed : cipher.reveal password content with
  | error _ =>
    rw [revealed] at found
    cases found
  | ok _ =>
    rw [revealed] at found
    cases found

theorem FileTree.Differ.sealed {tree : FileTree} {place : Place} (leaf : tree.Leaf place)
    (content : ByteArray) : tree.Differ (tree.sealed place content) place := by
  have there := leaf.sealed_at? content
  refine .of_leaf rfl leaf ⟨?_, ?_⟩ fun other different => ?_
  · rw [there, if_pos rfl]
    simp
  · rw [there, if_pos rfl]
    simp
  · rw [there, if_neg different]

namespace Session

variable {cipher : Cipher} {directory service key : String} {base : Place} {used : String → Prop}
  {s after : Session}

/-- The entries of the directory, except for one name, are what they were. -/
structure Replaces (directory : String) (base : Place) (used : String → Prop) (name : String)
    (s after : Session) : Prop where
  password : after.password = s.password
  serves : after.files.Serves directory base used
  reaches : ∀ other, s.files.Reaches directory other → after.files.Reaches directory other
  others : ∀ other, used other → Path.IsName other → other ≠ name →
    after.files.entry? (Path.join directory other) = s.files.entry? (Path.join directory other)

namespace Replaces

variable {name : String}

theorem refl (serves : s.files.Serves directory base used) (name : String) :
    Replaces directory base used name s s :=
  ⟨rfl, serves, fun _ reaches => reaches, fun _ _ _ _ => rfl⟩

theorem record (replaces : Replaces directory base used name s after) (entry : JournalEntry) :
    Replaces directory base used name s (Journal.record entry after) :=
  ⟨replaces.password, replaces.serves, replaces.reaches, replaces.others⟩

theorem of_differ {made : FileTree} (serves : s.files.Serves directory base used)
    (makes : s.files.makeDirectories directory = (.ok (), made))
    (differ : made.Differ after.files (base ++ [name])) (same : after.password = s.password) :
    Replaces directory base used name s after := by
  obtain ⟨ready, makes', located, leaf, entries⟩ := serves.ready
  obtain rfl : ready = made := congrArg Prod.snd (makes'.symm.trans makes)
  refine ⟨same, .there (located.mono differ.keeps) fun other isUsed =>
    (leaf other isUsed).of_differ differ, fun other reaches =>
    reaches.mono makes located differ.keeps, fun other isUsed isName different => ?_⟩
  rw [located.entry?_other differ isName different, entries other isUsed isName]

end Replaces

section Calls

variable (cipher) (serves : s.files.Serves directory base used) (plain : '/' ∉ service.toList)
  (valid : SecretKey.Valid key) (isUsed : used (sealedName service key))

include serves plain valid isUsed

theorem answer_get :
    (((vault cipher directory service).get key).run s).1 =
      cipher.answer s.password
        (s.files.entry? (Path.join directory (sealedName service key))) := by
  have isName := SecretKey.isName_sealedName plain valid
  cases there : s.files.entry? (Path.join directory (sealedName service key)) with
  | none =>
    rw [run_get_absent valid (FileTree.not_leads_of_entry there)]
    rfl
  | some node =>
    obtain ⟨content, mode, rfl⟩ := serves.entry_file isUsed isName there
    obtain ⟨place, named, there⟩ := FileTree.entry?_eq_some.mp there
    have run : ((vault cipher directory service).get key).run s = _ :=
      run_get_file valid named there
    rw [run]
    unfold Cipher.answer Cipher.reveal
    cases s.password with
    | none => rfl
    | some password =>
      dsimp only
      cases cipher.decrypt password content <;> rfl

omit plain valid isUsed in
theorem replaces_get (name : String) :
    Replaces directory base used name s
      (((vault cipher directory service).get key).run s).2 := by
  rcases @run_get_state cipher directory service s key with same | ⟨entry, same⟩
  · rw [same]
    exact .refl serves name
  · rw [same]
    exact (Replaces.refl serves name).record entry

theorem run_erase_entry :
    ∃ after, ((vault cipher directory service).set key none).run s = (.ok (), after) ∧
      Replaces directory base used (sealedName service key) s after ∧
      after.files.entry? (Path.join directory (sealedName service key)) = none := by
  have isName := SecretKey.isName_sealedName plain valid
  cases there : s.files.entry? (Path.join directory (sealedName service key)) with
  | none =>
    obtain ⟨entry, run⟩ := run_erase_absent valid (FileTree.not_leads_of_entry there)
    exact ⟨_, run, (Replaces.refl serves _).record entry, there⟩
  | some node =>
    obtain ⟨located, leaf⟩ := serves.located_of_entry isUsed there
    obtain ⟨content, mode, rfl⟩ := serves.entry_file isUsed isName there
    obtain ⟨place, ⟨arrival, followed, rfl⟩, there⟩ := FileTree.entry?_eq_some.mp there
    have arrived := located.follow isName followed
    rw [arrived] at followed there
    have found := FileTree.find_of_names ((vault cipher directory service).endsInSlash_pathOf key)
      ⟨_, followed, rfl⟩ there (by simp)
    have removed := FileTree.remove_eq_ok.mpr
      ⟨_, followed, by rw [there]; rfl, by rw [there]; simp, rfl⟩
    obtain ⟨entry, run⟩ := run_erase_present valid (FileTree.leads_iff.mpr ⟨_, _, found⟩)
    have removed' : s.files.remove ((vault cipher directory service).pathOf key) =
      .ok (s.files.erase (base ++ [sealedName service key])) := removed
    rw [removed'] at run
    have differ := FileTree.Differ.erase (leaf _ isUsed)
    have replaced : Replaces directory base used (sealedName service key) s
        (s.withFiles (s.files.erase (base ++ [sealedName service key]))) :=
      .of_differ serves located.makeDirectories differ rfl
    have named : (s.files.erase (base ++ [sealedName service key])).Names
        (Path.join directory (sealedName service key)) (base ++ [sealedName service key]) :=
      (differ.names_iff _ _).mpr ⟨_, followed, rfl⟩
    refine ⟨_, run, replaced.record entry, (FileTree.entry?_of_names named).trans ?_⟩
    rw [FileTree.at?_erase _ _ _ (leaf _ isUsed).not_root, if_pos rfl]

/-- A secret is sealed in its entry, or else no entry is changed; without a failure of the files
nothing but a missing password stands in the way. -/
theorem run_put_entry (text : String) :
    ∃ after, Replaces directory base used (sealedName service key) s after ∧
      ((∃ password bits, s.password = some password ∧
          ((vault cipher directory service).set key (some text)).run s = (.ok (), after) ∧
          after.files.entry? (Path.join directory (sealedName service key)) =
            some (.file (cipher.encrypt password bits text) EncryptedStore.fileMode)) ∨
        ∃ failure, ((vault cipher directory service).set key (some text)).run s =
            (.error failure, after) ∧
          (s.password = none ∨ ¬s.files.Reaches directory (sealedName service key)) ∧
          after.files.entry? (Path.join directory (sealedName service key)) =
            s.files.entry? (Path.join directory (sealedName service key))) := by
  have isName := SecretKey.isName_sealedName plain valid
  cases unlocked : s.password with
  | none =>
    exact ⟨s, .refl serves _, .inr ⟨_, run_put_locked valid unlocked text, .inl rfl, rfl⟩⟩
  | some password =>
    obtain ⟨made, makes, located, leaf, entries⟩ := serves.ready
    have isLeaf := leaf _ isUsed
    rcases @run_put_unlocked cipher directory service s key valid password unlocked text with
      ⟨failure, run, unwritable⟩ | ⟨place, entry, _, writable, run⟩
    · rw [makes] at run unwritable
      have replaced : Replaces directory base used (sealedName service key) s
          ({ s with draws := s.draws + 1 }.withFiles made) :=
        .of_differ serves makes (.refl made _) rfl
      refine ⟨_, replaced, .inr ⟨failure, run, .inr ?_, entries _ isUsed isName⟩⟩
      rintro ⟨arrival, followed⟩
      rw [makes] at followed
      have arrived := located.follow isName followed
      subst arrived
      exact unwritable ⟨rfl, _,
        FileTree.follow_change followed (fun _ _ never => by cases never) isLeaf.noLink, isLeaf⟩
    · rw [makes] at writable run
      -- Writing follows links, but there is none at the name, so the file is the entry itself.
      have noLink : ¬made.NamesLink (Path.join directory (sealedName service key)) := by
        rintro ⟨other, target, named, there⟩
        rw [located.place_of_names isName named] at there
        exact isLeaf.noLink target there
      have named := FileTree.names_of_follow writable.followed noLink
      obtain rfl := located.place_of_names isName named
      have differ := FileTree.Differ.sealed isLeaf
        (cipher.encrypt password (s.randomness s.draws) text)
      have replaced : Replaces directory base used (sealedName service key) s
          ({ s with draws := s.draws + 1 }.withFiles (made.sealed _ _)) :=
        .of_differ serves makes differ rfl
      refine ⟨_, replaced.record entry, .inl ⟨password, s.randomness s.draws, rfl, run, ?_⟩⟩
      refine (FileTree.entry?_of_names ((differ.names_iff _ _).mpr named)).trans ?_
      rw [isLeaf.sealed_at?, if_pos rfl]

omit valid isUsed in
/-- A call on the vault changes no entry but the one of its key. -/
theorem replaces_perform (call : SecretCall)
    (isUsed : SecretKey.Valid call.key → used (sealedName service call.key)) :
    Replaces directory base used (sealedName service call.key) s
      (((vault cipher directory service).store.perform call).run s).2 := by
  by_cases valid : SecretKey.Valid call.key
  · cases call with
    | get key => exact replaces_get cipher serves _
    | set key value =>
      rw [SecretStore.run_perform_set]
      cases value with
      | none =>
        obtain ⟨after, run, replaces, _⟩ :=
          run_erase_entry cipher serves plain valid (isUsed valid)
        rw [show ((vault cipher directory service).store.set key none).run s = _ from run]
        exact replaces
      | some text =>
        obtain ⟨after, replaces, ⟨_, _, _, run, _⟩ | ⟨_, run, _⟩⟩ :=
          run_put_entry cipher serves plain valid (isUsed valid) text
        · rw [show ((vault cipher directory service).store.set key (some text)).run s = _ from run]
          exact replaces
        · rw [show ((vault cipher directory service).store.set key (some text)).run s = _ from run]
          exact replaces
  · obtain ⟨failure, refused⟩ := SecretKey.require_of_invalid valid
    rw [run_perform_invalid call refused]
    exact .refl serves _

end Calls

end Session

end AccountKeeper
