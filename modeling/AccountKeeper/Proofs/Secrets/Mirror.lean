import AccountKeeper.Legacy.Store
import AccountKeeper.Proofs.Secrets.Vault
import AccountKeeper.Proofs.Uuid

/-!
# The vault as a table

The vault answers every call as a table in memory does.  Its files mirror the
table: under each key there is a sealed file with the secret, or nothing.
-/

set_option autoImplicit false

namespace AccountKeeper

namespace SecretKey

theorem digitChar_inKey :
    ∀ d : Fin 16, isKeyChar (Uuid.digitChar d) = true ∧ Uuid.digitChar d ≠ '.' := by
  decide

/-- The keys of accounts are keys: their only dot stands before an identifier. -/
theorem valid_secretKey (id : AccountId) : Valid id.secretKey := by
  have chars : ∀ c ∈ id.uuid.display.toList, isKeyChar c = true ∧ c ≠ '.' := by
    intro c member
    rcases id.uuid.display_chars c member with rfl | ⟨d, rfl⟩
    · decide
    · exact digitChar_inKey d
  have front : ∀ c ∈ "account".toList, isKeyChar c = true :=
    List.all_eq_true.mp (by decide +kernel)
  have text : id.secretKey.toList = "account".toList ++ ['.'] ++ id.uuid.display.toList := by
    simp [AccountId.secretKey, AccountId.display]
  refine valid_iff.mpr ⟨by simp [text], fun dots => ?_, fun c member => ?_⟩
  · have twice := dots.sublist.count_le '.'
    have dotless : id.uuid.display.toList.count '.' = 0 :=
      List.count_eq_zero.mpr fun member => (chars '.' member).2 rfl
    rw [text, List.count_append, dotless] at twice
    exact absurd twice (by decide)
  · rw [text, List.append_assoc] at member
    rcases List.mem_append.mp member with before | behind
    · exact front c before
    · rcases List.mem_cons.mp behind with rfl | written
      · rfl
      · exact (chars c written).1

theorem secretKey_ne_legacy (id : AccountId) : id.secretKey ≠ legacySecretKey := by
  intro same
  have heads := congrArg (·.toList.head?) same
  simp [AccountId.secretKey, legacySecretKey] at heads

end SecretKey

/-- What stands in place of a secret: a sealed file, or nothing if there is none. -/
def SealedAs (cipher : Cipher) (password : String) (node : Option FileNode) :
    Option String → Prop
  | none => node = none
  | some text => ∃ bits, node = some (.file (cipher.encrypt password bits text)
      EncryptedStore.fileMode)

/-- The files of a session mirror a table in the directory at a place; outside of it they are as
they were at the start. -/
structure Mirrors (cipher : Cipher) (directory service password : String) (base : Place)
    (start : FileTree) (used : String → Prop) (s : Session) (table : SecretTable) : Prop where
  unlocked : s.password = some password
  found : s.files.find .always directory = .ok (base, .directory)
  named : ∀ key, used key →
    s.files.follow .never ((Session.vault cipher directory service).pathOf key) =
      .ok ⟨base ++ [sealedName service key], true, false⟩
  stored : ∀ key, SecretKey.Valid key →
    SealedAs cipher password (s.files.at? (base ++ [sealedName service key])) (table.get? key)
  others : ∀ place, s.files.at? place = start.at? place ∨
    ∃ key, SecretKey.Valid key ∧ place = base ++ [sealedName service key]

namespace Mirrors

variable {cipher : Cipher} {directory service password key : String} {base : Place}
  {start : FileTree} {used : String → Prop} {s s' : Session} {table : SecretTable}

theorem record (mirrors : Mirrors cipher directory service password base start used s table)
    (entry : JournalEntry) :
    Mirrors cipher directory service password base start used (Journal.record entry s) table :=
  ⟨mirrors.unlocked, mirrors.found, mirrors.named, mirrors.stored, mirrors.others⟩

theorem leaf (mirrors : Mirrors cipher directory service password base start used s table)
    (valid : SecretKey.Valid key) : s.files.Leaf (base ++ [sealedName service key]) := by
  have stored := mirrors.stored key valid
  cases held : table.get? key with
  | none =>
    rw [held] at stored
    exact .of_absent stored
  | some text =>
    rw [held] at stored
    obtain ⟨bits, there⟩ := stored
    exact ⟨by simp [there], by simp [there]⟩

theorem change (mirrors : Mirrors cipher directory service password base start used s table)
    (valid : SecretKey.Valid key) {value : Option String} (keeps : s.files.KeepsWays s'.files)
    (same : s'.password = s.password)
    (changed : SealedAs cipher password (s'.files.at? (base ++ [sealedName service key])) value)
    (rest : ∀ place ≠ base ++ [sealedName service key],
      s'.files.at? place = s.files.at? place) :
    Mirrors cipher directory service password base start used s' (table.put key value) where
  unlocked := same.trans mirrors.unlocked
  found := by
    obtain ⟨_, _, _, there, _⟩ := FileTree.find_eq_ok.mp mirrors.found
    exact FileTree.find_mono keeps mirrors.found (keeps.directory base there) (by simp)
  named other isUsed := FileTree.follow_never_mono keeps (mirrors.named other isUsed)
  stored other valid' := by
    rw [SecretTable.get?_put]
    by_cases here : other = key
    · subst here
      rw [if_pos rfl]
      exact changed
    · rw [if_neg here, rest _ fun place => here ?_]
      · exact mirrors.stored other valid'
      · exact sealedName_injective service (by simpa using place)
  others place := by
    by_cases here : place = base ++ [sealedName service key]
    · exact .inr ⟨key, valid, here⟩
    · rw [rest place here]
      exact mirrors.others place

section Step

variable (mirrors : Mirrors cipher directory service password base start used s table)
  (valid : SecretKey.Valid key) (isUsed : used key)

include mirrors valid isUsed

theorem run_get
    (opens : ∀ bits text, cipher.decrypt password (cipher.encrypt password bits text) = .ok text) :
    ∃ after, ((Session.vault cipher directory service).get key).run s =
        (.ok (table.get? key), after) ∧
      Mirrors cipher directory service password base start used after table := by
  have names : s.files.Names ((Session.vault cipher directory service).pathOf key)
      (base ++ [sealedName service key]) := ⟨_, mirrors.named key isUsed, rfl⟩
  have stored := mirrors.stored key valid
  cases held : table.get? key with
  | none =>
    rw [held] at stored
    exact ⟨s, Session.run_get_absent valid (FileTree.not_leads_of_names names stored), mirrors⟩
  | some text =>
    rw [held] at stored
    obtain ⟨bits, there⟩ := stored
    obtain ⟨entry, run⟩ :=
      Session.run_get_sealed valid names there mirrors.unlocked (opens bits text)
    exact ⟨_, run, mirrors.record entry⟩

theorem run_erase :
    ∃ after, ((Session.vault cipher directory service).set key none).run s = (.ok (), after) ∧
      Mirrors cipher directory service password base start used after (table.put key none) := by
  have followed := mirrors.named key isUsed
  have names : s.files.Names ((Session.vault cipher directory service).pathOf key)
      (base ++ [sealedName service key]) := ⟨_, followed, rfl⟩
  have stored := mirrors.stored key valid
  have leaf := mirrors.leaf valid
  cases held : table.get? key with
  | none =>
    rw [held] at stored
    obtain ⟨entry, run⟩ :=
      Session.run_erase_absent valid (FileTree.not_leads_of_names names stored)
    exact ⟨_, run, (mirrors.change valid (.refl s.files) rfl stored fun _ _ => rfl).record entry⟩
  | some text =>
    rw [held] at stored
    obtain ⟨bits, there⟩ := stored
    have found := FileTree.find_of_names
      ((Session.vault cipher directory service).endsInSlash_pathOf key) names there (by simp)
    obtain ⟨entry, run⟩ :=
      Session.run_erase_present valid (FileTree.leads_iff.mpr ⟨_, _, found⟩)
    have removed := FileTree.remove_eq_ok.mpr
      ⟨_, followed, by rw [there]; rfl, leaf.noDirectory, rfl⟩
    rw [removed] at run
    have erased := FileTree.at?_erase s.files (base ++ [sealedName service key])
    refine ⟨_, run, mirrors.change valid (FileTree.KeepsWays.erase leaf) rfl ?_ ?_⟩
    · exact (erased _ leaf.not_root).trans (if_pos rfl)
    · intro place different
      exact (erased place leaf.not_root).trans (if_neg different)

theorem run_put (text : String) :
    ∃ after, ((Session.vault cipher directory service).set key (some text)).run s =
        (.ok (), after) ∧
      Mirrors cipher directory service password base start used after
        (table.put key (some text)) := by
  have followed := mirrors.named key isUsed
  have leaf := mirrors.leaf valid
  have made : s.files.makeDirectories directory = (.ok (), s.files) :=
    FileTree.makeDirectories_of_leads (FileTree.leadsToDirectory_iff.mpr ⟨base, mirrors.found⟩)
  have writable : s.files.Writable ((Session.vault cipher directory service).pathOf key)
      (base ++ [sealedName service key]) :=
    ⟨FileTree.follow_change followed (fun _ _ never => by cases never) leaf.noLink, leaf⟩
  obtain ⟨entry, run⟩ := Session.run_put_at valid mirrors.unlocked made writable text
  have sealedAt := leaf.sealed_at? (cipher.encrypt password (s.randomness s.draws) text)
  refine ⟨_, run, mirrors.change valid (leaf.keeps_sealed _) rfl ?_ ?_⟩
  · exact ⟨_, (sealedAt _).trans (if_pos rfl)⟩
  · intro other different
    exact (sealedAt other).trans (if_neg different)

end Step

/-- One call gets the answer of the table, and the files mirror the table afterwards. -/
theorem perform (mirrors : Mirrors cipher directory service password base start used s table)
    (opens : ∀ bits text, cipher.decrypt password (cipher.encrypt password bits text) = .ok text)
    (call : SecretCall) (isUsed : SecretKey.Valid call.key → used call.key) :
    (((Session.vault cipher directory service).store.perform call).run s).1 =
        ((SecretTable.store.perform call).run table).1 ∧
      Mirrors cipher directory service password base start used
        (((Session.vault cipher directory service).store.perform call).run s).2
        ((SecretTable.store.perform call).run table).2 := by
  by_cases valid : SecretKey.Valid call.key
  · have required := SecretKey.require_of_valid valid
    cases call with
    | get key =>
      obtain ⟨after, run, mirrors'⟩ := mirrors.run_get valid (isUsed valid) opens
      have looked : (SecretTable.store.perform (.get key)).run table =
          (.ok (table.get? key), table) := by
        show (SecretTable.store.get key).run table = _
        rw [SecretTable.run_get, show SecretKey.require key = _ from required]
        rfl
      rw [looked, show ((Session.vault cipher directory service).store.perform (.get key)).run s =
        _ from run]
      exact ⟨rfl, mirrors'⟩
    | set key value =>
      have changed : (SecretTable.store.set key value).run table =
          (.ok (), table.put key value) := by
        rw [SecretTable.run_set, show SecretKey.require key = _ from required]
      obtain ⟨after, run, mirrors'⟩ : ∃ after,
          ((Session.vault cipher directory service).store.set key value).run s = (.ok (), after) ∧
          Mirrors cipher directory service password base start used after
            (table.put key value) := by
        cases value with
        | none => exact mirrors.run_erase valid (isUsed valid)
        | some text => exact mirrors.run_put valid (isUsed valid) text
      rw [SecretStore.run_perform_set, SecretStore.run_perform_set, changed, run]
      exact ⟨rfl, mirrors'⟩
  · obtain ⟨failure, refused⟩ := SecretKey.require_of_invalid valid
    have same : (SecretTable.store.perform call).run table = (.error failure, table) := by
      cases call with
      | get key =>
        show (SecretTable.store.get key).run table = _
        rw [SecretTable.run_get, show SecretKey.require key = _ from refused]
        rfl
      | set key value =>
        rw [SecretStore.run_perform_set, SecretTable.run_set,
          show SecretKey.require key = _ from refused]
        rfl
    rw [same, Session.run_perform_invalid call refused]
    exact ⟨rfl, mirrors⟩

end Mirrors

theorem names_sealed {cipher : Cipher} {directory service key : String} {tree : FileTree}
    {place : Place} (plain : '/' ∉ service.toList) (valid : SecretKey.Valid key)
    (names : tree.Names ((Session.vault cipher directory service).pathOf key) place) :
    ∃ above, place = above ++ [sealedName service key] := by
  obtain ⟨arrival, followed, rfl⟩ := names
  rcases FileTree.follow_join (SecretKey.isName_sealedName plain valid) followed with
    ⟨_, rfl⟩ | ⟨middle, _, rfl⟩
  · exact ⟨_, rfl⟩
  · exact ⟨_, rfl⟩

/-- In an empty directory, the vault gives to any calls the answers of a table in memory.  It
changes nothing but files of keys in this directory, one for each key; the key of the old data and
the keys of accounts are all different. -/
theorem vault_is_table (cipher : Cipher) (directory service password : String)
    (calls : List SecretCall) (s : Session) (base : Place) (plain : '/' ∉ service.toList)
    (unlocked : s.password = some password)
    (opens : ∀ bits text, cipher.decrypt password (cipher.encrypt password bits text) = .ok text)
    (found : s.files.find .always directory = .ok (base, .directory))
    (empty : ∀ name rest, s.files.at? (base ++ name :: rest) = none)
    (reaches : ∀ call ∈ calls, SecretKey.Valid call.key →
      (s.files.follow .never ((Session.vault cipher directory service).pathOf call.key)).isOk) :
    let vault := Session.vault cipher directory service
    let reached := vault.store.performAll calls s
    reached.1 = (SecretTable.store.performAll calls {}).1 ∧
      (∀ place, reached.2.files.at? place = s.files.at? place ∨
        ∃ key, SecretKey.Valid key ∧ place = base ++ [sealedName service key]) ∧
      (∀ key other, SecretKey.Valid key → SecretKey.Valid other →
        ∀ (tree : FileTree) (place : Place), tree.Names (vault.pathOf key) place →
          tree.Names (vault.pathOf other) place → key = other) ∧
      SecretKey.Valid legacySecretKey ∧
      (∀ id : AccountId, SecretKey.Valid id.secretKey ∧ id.secretKey ≠ legacySecretKey) ∧
      ∀ id other : AccountId, id.secretKey = other.secretKey → id = other := by
  intro vault reached
  have start : Mirrors cipher directory service password base s.files
      (fun key => SecretKey.Valid key ∧ ∃ call ∈ calls, call.key = key) s {} := by
    refine ⟨unlocked, found, ?_, fun key _ => empty _ [], fun _ => .inl rfl⟩
    rintro key ⟨valid, call, member, rfl⟩
    have reach := reaches call member valid
    obtain ⟨arrival, led, rfl, _⟩ := FileTree.find_eq_ok.mp found
    cases followed : s.files.follow .never (vault.pathOf call.key) with
    | error fault =>
      rw [show s.files.follow .never _ = _ from followed] at reach
      cases reach
    | ok named =>
      rcases FileTree.follow_join (SecretKey.isName_sealedName plain valid) followed with
        ⟨unnamed, _⟩ | ⟨middle, led', rfl⟩
      · exact absurd unnamed (FileTree.follow_eq_ok.mp led).1.nonempty
      · cases led.symm.trans led'
        rfl
  obtain ⟨answers, mirrors⟩ := SecretStore.performAll_alike vault.store SecretTable.store
    (Mirrors cipher directory service password base s.files
      (fun key => SecretKey.Valid key ∧ ∃ call ∈ calls, call.key = key)) calls
    (fun call member s table mirrors =>
      mirrors.perform opens call fun valid => ⟨valid, call, member, rfl⟩) start
  refine ⟨answers, mirrors.others, ?_, by decide, fun id => ?_, AccountId.secretKey_injective⟩
  · intro key other valid valid' tree place names names'
    obtain ⟨above, rfl⟩ := names_sealed plain valid names
    obtain ⟨above', same⟩ := names_sealed plain valid' names'
    exact sealedName_injective service (by simpa using (List.append_inj' same rfl).2)
  · exact ⟨SecretKey.valid_secretKey id, SecretKey.secretKey_ne_legacy id⟩

/-! ## A first secret -/

/-- A cipher that writes the passphrase in front of the text. -/
def Cipher.prefixed : Cipher where
  encrypt passphrase _ text := (passphrase ++ text).toUTF8
  decrypt passphrase file :=
    match String.fromUTF8? file with
    | none => .error .decryptionFailed
    | some whole =>
      if passphrase.toList <+: whole.toList then
        .ok (String.ofList (whole.toList.drop passphrase.toList.length))
      else .error .decryptionFailed

theorem Cipher.prefixed_opens (passphrase : String) (bits : Nat) (text : String) :
    prefixed.decrypt passphrase (prefixed.encrypt passphrase bits text) = .ok text := by
  unfold prefixed
  dsimp only
  rw [Text.Utf8.fromUTF8?_toUTF8]
  simp

/-- A secret that is stored is found, one that is erased is not, and a path is no key. -/
theorem vault_is_table_for_first_secret :
    ((Session.vault .prefixed "/credentials" serviceName).store.performAll
      [.get "token", .set "token" (some "ghp_secret"), .get "token", .set "token" none,
        .get "token", .get "../token"]
      { files := ({} : FileTree).put ["credentials"] .directory,
        password := some "test_password_123", randomness := id }).1 =
      [.ok none, .ok none, .ok (some "ghp_secret"), .ok none, .ok none,
        .error (.input (.secretKey (.outsideAlphabet "../token")))] := by
  have plain : '/' ∉ serviceName.toList := by decide
  have empty (name : String) (rest : Place) :
      (({} : FileTree).put ["credentials"] .directory).at? (["credentials"] ++ name :: rest) =
        none := by
    rw [FileTree.at?_put _ _ _ _ (by simp), if_neg (by simp)]
    simp [FileTree.at?]
  obtain ⟨answers, _⟩ := vault_is_table .prefixed "/credentials" serviceName "test_password_123"
    [.get "token", .set "token" (some "ghp_secret"), .get "token", .set "token" none,
      .get "token", .get "../token"]
    { files := ({} : FileTree).put ["credentials"] .directory,
      password := some "test_password_123", randomness := id }
    ["credentials"] plain rfl (Cipher.prefixed_opens _) rfl empty (by
      intro call member valid
      simp only [List.mem_cons, List.not_mem_nil, or_false] at member
      rcases member with rfl | rfl | rfl | rfl | rfl | rfl
      · rfl
      · rfl
      · rfl
      · rfl
      · rfl
      · exact absurd valid (by decide))
  exact answers.trans (by rfl)

end AccountKeeper
