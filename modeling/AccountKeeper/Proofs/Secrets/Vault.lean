import AccountKeeper.Proofs.Files.Path
import AccountKeeper.Proofs.Secrets.Calls
import AccountKeeper.Session

/-!
# The vault

The store of encrypted files in a session: which files it names, and what each of
its calls does when the file is there, is missing or is a symbolic link.
-/

set_option autoImplicit false

namespace AccountKeeper

def Session.vault (cipher : Cipher) (directory service : String) : EncryptedStore Session where
  files := FileTree.system.on filesPart
  directory
  service
  password := passwordPart
  cipher
  draw

/-! ## Names of sealed files -/

def sealedName (service key : String) : String :=
  service ++ "." ++ key ++ ".age"

theorem sealedName_injective (service : String) {key other : String}
    (same : sealedName service key = sealedName service other) : key = other := by
  have texts := congrArg String.toList same
  exact String.toList_inj.mp (by simpa [sealedName] using texts)

namespace SecretKey

theorem Valid.noSlash {key : String} (valid : Valid key) : '/' ∉ key.toList := by
  intro member
  obtain ⟨_, _, alphabet⟩ := valid_iff.mp valid
  exact absurd (alphabet '/' member) (by decide)

theorem isName_sealedName {service key : String} (plain : '/' ∉ service.toList)
    (valid : Valid key) : Path.IsName (sealedName service key) := by
  have long : ∀ short : String, short.toList.length < 4 → sealedName service key ≠ short := by
    rintro short few rfl
    simp [sealedName] at few
    omega
  refine ⟨?_, long "" (by decide), long "." (by decide), long ".." (by decide)⟩
  have inKey := valid.noSlash
  simp [sealedName, plain, inKey]

end SecretKey

namespace EncryptedStore

variable {σ : Type} (store : EncryptedStore σ)

theorem endsInSlash_pathOf (key : String) : Path.endsInSlash (store.pathOf key) = false := by
  obtain ⟨front, whole⟩ : ∃ front, store.pathOf key = front ++ ".age" := by
    unfold pathOf Path.join
    split
    · exact ⟨_, rfl⟩
    · split
      · exact ⟨store.directory ++ (store.service ++ "." ++ key), by simp only [String.append_assoc]⟩
      · exact ⟨store.directory ++ "/" ++ (store.service ++ "." ++ key),
          by simp only [String.append_assoc]⟩
  simp [Path.endsInSlash, whole, List.getLast?_append]

end EncryptedStore

/-! ## Sealed files -/

namespace FileTree

variable {tree : FileTree} {path : String} {place : Place}

/-- The tree after a file was written at a place and closed to everybody else. -/
def sealed (tree : FileTree) (place : Place) (content : ByteArray) : FileTree :=
  (tree.put place (.file content (tree.modeAt place))).put place
    (.file content EncryptedStore.fileMode)

theorem Leaf.sealed_at? (leaf : tree.Leaf place) (content : ByteArray) (other : Place) :
    (tree.sealed place content).at? other =
      if other = place then some (.file content EncryptedStore.fileMode) else tree.at? other := by
  unfold sealed
  rw [at?_put _ _ _ _ leaf.not_root, at?_put _ _ _ _ leaf.not_root]
  split <;> rfl

theorem Leaf.keeps_sealed (leaf : tree.Leaf place) (content : ByteArray) :
    tree.KeepsWays (tree.sealed place content) := by
  refine (KeepsWays.put leaf _).trans (KeepsWays.put ⟨?_, ?_⟩ _)
  · rw [at?_put _ _ _ _ leaf.not_root, if_pos rfl]
    simp
  · rw [at?_put _ _ _ _ leaf.not_root, if_pos rfl]
    simp

end FileTree

/-! ## Calls -/

namespace Session

def withFiles (s : Session) (files : FileTree) : Session :=
  { s with files }

/-- What the state of a session is after a change to its files that may fail. -/
def changed (s : Session) : Except FileFault FileTree → Except Failure Unit × Session
  | .ok files => (.ok (), s.withFiles files)
  | .error fault => (.error (.credential (.files fault)), s)

section Calls

variable (cipher : Cipher) (directory service path : String) (s : Session)

theorem run_leads :
    ActionE.run (liftM ((vault cipher directory service).files.leads path) : Action Session Bool)
      s = (.ok (s.files.leads path), s) := rfl

theorem run_read :
    (EncryptedStore.onFiles ((vault cipher directory service).files.read path)).run s =
      ((s.files.read path).mapError fun fault => .credential (.files fault), s) := rfl

theorem run_makeDirectories :
    (EncryptedStore.onFiles ((vault cipher directory service).files.makeDirectories path)).run s =
      ((s.files.makeDirectories path).1.mapError fun fault => .credential (.files fault),
        s.withFiles (s.files.makeDirectories path).2) := rfl

theorem run_changing (change : FileTree → Except FileFault FileTree) (s : Session) :
    (EncryptedStore.onFiles (filesPart.lift (FileTree.changing change))).run s =
      s.changed (change s.files) := by
  unfold EncryptedStore.onFiles FileTree.changing
  rw [ActionE.run_mapError, Part.run_lift, ActionE.run_of]
  have looked : filesPart.get s = s.files := rfl
  rw [looked]
  cases change s.files <;> rfl

theorem run_requirePassword :
    (vault cipher directory service).requirePassword.run s =
      (match s.password with
        | some password => .ok password
        | none => .error (Failure.credential .masterPasswordNotSet), s) := by
  show ActionE.run (match s.password with
    | some password => pure password
    | none => throw (Failure.credential .masterPasswordNotSet)) s = _
  cases s.password <;> rfl

theorem run_setPassword (password : String) :
    ((vault cipher directory service).setPassword password).run s =
      if password.utf8ByteSize < EncryptedStore.passwordMinimum then
        (.error (.credential .weakPassword), s)
      else (.ok (), Journal.record ⟨.credentials, .debug,
        "Master password set for encrypted file store"⟩ { s with password := some password }) := by
  unfold EncryptedStore.setPassword
  split <;> rfl

theorem run_isLink :
    ∃ isLink : FileNode → Bool, (∀ node, isLink node = false ↔ ∀ target, node ≠ .link target) ∧
      ((vault cipher directory service).files.isLink path).run s =
        ((s.files.named path).map isLink, s) := by
  refine ⟨_, fun node => ?_, rfl⟩
  cases node with
  | link target => simp
  | file _ _ => simp
  | directory => simp

theorem run_refuseLink :
    ∃ outcome, (EncryptedStore.refuseLink (vault cipher directory service).files path).run s =
        (outcome, s) ∧
      (outcome = .ok () ↔
        ∃ node, s.files.named path = .ok node ∧ ∀ target, node ≠ .link target) := by
  obtain ⟨isLink, other, inspected⟩ := run_isLink cipher directory service path s
  unfold EncryptedStore.refuseLink
  rw [ActionE.run_bind, ActionE.run_mapError, inspected]
  cases s.files.named path with
  | error fault => exact ⟨_, rfl, by simp⟩
  | ok node =>
    dsimp only [Except.map, ActionE.mapError_ok]
    cases linked : isLink node with
    | true => exact ⟨_, rfl, by simp [← other, linked]⟩
    | false => exact ⟨_, rfl, by simp [← other, linked]⟩

/-- A file is written and closed to everybody else, or nothing is changed. -/
theorem run_seal (content : ByteArray) (message : String) :
    let run := (EncryptedStore.onFiles ((vault cipher directory service).files.write path content)
      >>= fun _ => EncryptedStore.onFiles ((vault cipher directory service).files.setMode path
        EncryptedStore.fileMode) >>= fun _ => Journal.debug .credentials message).run s
    (∃ failure, run = (.error failure, s) ∧ ¬∃ place, s.files.Writable path place) ∨
    ∃ place, s.files.Writable path place ∧ run = (.ok (),
      Journal.record ⟨.credentials, .debug, message⟩ (s.withFiles (s.files.sealed place content))) := by
  intro run
  have wrote : (EncryptedStore.onFiles ((vault cipher directory service).files.write path
      content)).run s = s.changed (s.files.write path content) :=
    run_changing (·.write path content) s
  have closed (s : Session) : (EncryptedStore.onFiles ((vault cipher directory service).files.setMode
      path EncryptedStore.fileMode)).run s =
        s.changed (s.files.setMode path EncryptedStore.fileMode) :=
    run_changing (·.setMode path EncryptedStore.fileMode) s
  show (∃ failure, ActionE.run _ s = _ ∧ _) ∨ ∃ place, _ ∧ ActionE.run _ s = _
  rw [ActionE.run_bind, wrote]
  cases written : s.files.write path content with
  | error fault =>
    refine .inl ⟨.credential (.files fault), rfl, ?_⟩
    rintro ⟨place, writable⟩
    cases written.symm.trans (writable.write content)
  | ok tree =>
    obtain ⟨place, writable, rfl⟩ := FileTree.write_eq_ok.mp written
    have closing := writable.setMode content (s.files.modeAt place) EncryptedStore.fileMode
    refine .inr ⟨place, writable, ?_⟩
    dsimp only [changed]
    rw [ActionE.run_bind, closed]
    dsimp only [withFiles]
    rw [closing]
    rfl

variable {cipher directory service s} {key : String}

theorem run_get_state :
    (((vault cipher directory service).get key).run s).2 = s ∨
      ∃ entry, (((vault cipher directory service).get key).run s).2 = Journal.record entry s := by
  obtain ⟨outcome, inspected, _⟩ := run_refuseLink cipher directory service
    ((vault cipher directory service).pathOf key) s
  unfold EncryptedStore.get
  rw [ActionE.run_bind, ActionE.run_ofExcept]
  cases SecretKey.require key with
  | error failure => exact .inl rfl
  | ok _ =>
    dsimp only
    rw [ActionE.run_bind, run_leads]
    dsimp only
    split
    · exact .inl rfl
    rw [ActionE.run_bind, inspected]
    cases outcome with
    | error failure => exact .inl rfl
    | ok _ =>
      dsimp only
      rw [ActionE.run_bind, run_read]
      cases s.files.read ((vault cipher directory service).pathOf key) with
      | error failure => exact .inl rfl
      | ok content =>
        dsimp only [ActionE.mapError_ok]
        rw [ActionE.run_bind, run_requirePassword]
        cases s.password with
        | none => exact .inl rfl
        | some password =>
          dsimp only
          cases (vault cipher directory service).cipher.decrypt password content with
          | error failure => exact .inl rfl
          | ok text => exact .inr ⟨_, rfl⟩

theorem run_perform_invalid (call : SecretCall) {failure : Failure}
    (refused : SecretKey.require call.key = .error failure) :
    ((vault cipher directory service).store.perform call).run s = (.error failure, s) := by
  cases call with
  | get key =>
    show ((vault cipher directory service).get key).run s = _
    unfold EncryptedStore.get
    rw [ActionE.run_bind, ActionE.run_ofExcept, show SecretKey.require key = _ from refused]
  | set key value =>
    have same : ((vault cipher directory service).store.set key value).run s =
        (.error failure, s) := by
      show ((vault cipher directory service).set key value).run s = _
      unfold EncryptedStore.set
      rw [ActionE.run_bind, ActionE.run_ofExcept, show SecretKey.require key = _ from refused]
    rw [SecretStore.run_perform_set, same]
    rfl

variable (valid : SecretKey.Valid key)

include valid

theorem run_get_absent
    (absent : s.files.leads ((vault cipher directory service).pathOf key) = false) :
    ((vault cipher directory service).get key).run s = (.ok none, s) := by
  unfold EncryptedStore.get
  rw [ActionE.run_bind, ActionE.run_ofExcept, SecretKey.require_of_valid valid]
  dsimp only
  rw [ActionE.run_bind, run_leads, absent]
  rfl

theorem run_get_link {target : String}
    (leads : s.files.leads ((vault cipher directory service).pathOf key) = true)
    (linked : s.files.named ((vault cipher directory service).pathOf key) = .ok (.link target)) :
    ∃ failure, ((vault cipher directory service).get key).run s = (.error failure, s) := by
  obtain ⟨outcome, inspected, accepted⟩ := run_refuseLink cipher directory service
    ((vault cipher directory service).pathOf key) s
  have refused : outcome ≠ .ok () := by
    rintro rfl
    obtain ⟨node, named, noLink⟩ := accepted.mp rfl
    rw [linked] at named
    exact noLink target (Except.ok.inj named).symm
  unfold EncryptedStore.get
  rw [ActionE.run_bind, ActionE.run_ofExcept, SecretKey.require_of_valid valid]
  dsimp only
  rw [ActionE.run_bind, run_leads, leads]
  simp only [Bool.not_true, Bool.false_eq_true, if_false]
  rw [ActionE.run_bind, inspected]
  cases outcome with
  | error failure => exact ⟨failure, rfl⟩
  | ok _ => exact absurd rfl refused

theorem run_get_file {place : Place} {content : ByteArray} {mode : Nat}
    (names : s.files.Names ((vault cipher directory service).pathOf key) place)
    (there : s.files.at? place = some (.file content mode)) :
    ((vault cipher directory service).get key).run s =
      match s.password with
      | none => (.error (.credential .masterPasswordNotSet), s)
      | some password =>
        match cipher.decrypt password content with
        | .error failure => (.error (.credential failure), s)
        | .ok text => (.ok (some text), Journal.record ⟨.credentials, .debug,
            "Retrieved encrypted secret " ++ key ++ " from " ++
              Text.quoted ((vault cipher directory service).pathOf key)⟩ s) := by
  have plain := (vault cipher directory service).endsInSlash_pathOf key
  have found := FileTree.find_of_names plain names there (by simp)
  obtain ⟨outcome, inspected, accepted⟩ := run_refuseLink cipher directory service
    ((vault cipher directory service).pathOf key) s
  obtain rfl : outcome = .ok () :=
    accepted.mpr ⟨_, FileTree.named_of_names plain names there, by simp⟩
  unfold EncryptedStore.get
  rw [ActionE.run_bind, ActionE.run_ofExcept, SecretKey.require_of_valid valid]
  dsimp only
  rw [ActionE.run_bind, run_leads, FileTree.leads_iff.mpr ⟨_, _, found⟩]
  simp only [Bool.not_true, Bool.false_eq_true, if_false]
  rw [ActionE.run_bind, inspected]
  dsimp only
  rw [ActionE.run_bind, run_read, FileTree.read_of_find found]
  dsimp only [ActionE.mapError_ok]
  rw [ActionE.run_bind, run_requirePassword]
  cases s.password with
  | none => rfl
  | some password =>
    dsimp only
    rw [show (vault cipher directory service).cipher = cipher from rfl]
    cases cipher.decrypt password content <;> rfl

theorem run_get_sealed {place : Place} {content : ByteArray} {mode : Nat} {password text : String}
    (names : s.files.Names ((vault cipher directory service).pathOf key) place)
    (there : s.files.at? place = some (.file content mode))
    (unlocked : s.password = some password) (opened : cipher.decrypt password content = .ok text) :
    ∃ entry, ((vault cipher directory service).get key).run s =
      (.ok (some text), Journal.record entry s) := by
  have run : ((vault cipher directory service).get key).run s = _ :=
    run_get_file valid names there
  rw [unlocked] at run
  dsimp only at run
  rw [opened] at run
  exact ⟨_, run⟩

theorem run_erase_absent
    (absent : s.files.leads ((vault cipher directory service).pathOf key) = false) :
    ∃ entry, ((vault cipher directory service).set key none).run s =
      (.ok (), Journal.record entry s) := by
  unfold EncryptedStore.set EncryptedStore.erase
  rw [ActionE.run_bind, ActionE.run_ofExcept, SecretKey.require_of_valid valid]
  dsimp only
  rw [ActionE.run_bind, run_leads, absent]
  exact ⟨_, rfl⟩

theorem run_erase_present
    (leads : s.files.leads ((vault cipher directory service).pathOf key) = true) :
    ∃ entry, ((vault cipher directory service).set key none).run s =
      match s.files.remove ((vault cipher directory service).pathOf key) with
      | .ok files => (.ok (), Journal.record entry (s.withFiles files))
      | .error fault => (.error (.credential (.files fault)), s) := by
  have removed : (EncryptedStore.onFiles ((vault cipher directory service).files.remove
      ((vault cipher directory service).pathOf key))).run s =
        s.changed (s.files.remove ((vault cipher directory service).pathOf key)) :=
    run_changing (·.remove ((vault cipher directory service).pathOf key)) s
  refine ⟨⟨.credentials, .debug, "Deleted encrypted secret " ++ key ++ " at " ++
    Text.quoted ((vault cipher directory service).pathOf key)⟩, ?_⟩
  unfold EncryptedStore.set EncryptedStore.erase
  rw [ActionE.run_bind, ActionE.run_ofExcept, SecretKey.require_of_valid valid]
  dsimp only
  rw [ActionE.run_bind, run_leads, leads]
  simp only [if_true]
  rw [ActionE.run_bind, removed]
  cases s.files.remove ((vault cipher directory service).pathOf key) with
  | error fault => rfl
  | ok files => rfl

theorem run_put_locked (locked : s.password = none) (text : String) :
    ((vault cipher directory service).set key (some text)).run s =
      (.error (.credential .masterPasswordNotSet), s) := by
  unfold EncryptedStore.set EncryptedStore.put
  rw [ActionE.run_bind, ActionE.run_ofExcept, SecretKey.require_of_valid valid]
  dsimp only
  rw [ActionE.run_bind, run_requirePassword, locked]

/-- With a password a secret is sealed where its path leads to, after making the directories; a
failure leaves the directories. -/
theorem run_put_unlocked {password : String} (unlocked : s.password = some password)
    (text : String) :
    let path := (vault cipher directory service).pathOf key
    let run := ((vault cipher directory service).set key (some text)).run s
    let made := (s.files.makeDirectories directory).2
    let sealing := { s with draws := s.draws + 1 }
    let content := cipher.encrypt password (s.randomness s.draws) text
    (∃ failure, run = (.error failure, sealing.withFiles made) ∧
      ¬((s.files.makeDirectories directory).1 = .ok () ∧ ∃ place, made.Writable path place)) ∨
    ∃ place entry, (s.files.makeDirectories directory).1 = .ok () ∧ made.Writable path place ∧
      run = (.ok (), Journal.record entry (sealing.withFiles (made.sealed place content))) := by
  intro path run made sealing content
  have drawn : ActionE.run (liftM (vault cipher directory service).draw : Action Session Nat) s =
      (.ok (s.randomness s.draws), sealing) := rfl
  have directories := run_makeDirectories cipher directory service directory sealing
  have steps : run = (EncryptedStore.onFiles
      ((vault cipher directory service).files.makeDirectories directory) >>= fun _ =>
        EncryptedStore.onFiles ((vault cipher directory service).files.write path content) >>=
          fun _ => EncryptedStore.onFiles ((vault cipher directory service).files.setMode path
            EncryptedStore.fileMode) >>= fun _ => Journal.debug .credentials
              ("Stored encrypted secret " ++ key ++ " at " ++ Text.quoted path)).run sealing := by
    show ActionE.run (EncryptedStore.set _ key (some text)) s = _
    unfold EncryptedStore.set EncryptedStore.put
    rw [ActionE.run_bind, ActionE.run_ofExcept, SecretKey.require_of_valid valid]
    dsimp only
    rw [ActionE.run_bind, run_requirePassword, unlocked]
    dsimp only
    rw [ActionE.run_bind, drawn]
    rfl
  rw [steps, ActionE.run_bind, directories]
  have same : sealing.files = s.files := rfl
  rw [same]
  cases outcome : (s.files.makeDirectories directory).1 with
  | error fault =>
    refine .inl ⟨.credential (.files fault), rfl, fun both => ?_⟩
    cases both.1
  | ok _ =>
    rcases run_seal cipher directory service path (sealing.withFiles made) content
      ("Stored encrypted secret " ++ key ++ " at " ++ Text.quoted path) with
      ⟨failure, refused, unwritable⟩ | ⟨place, writable, written⟩
    · exact .inl ⟨failure, refused, fun both => unwritable both.2⟩
    · exact .inr ⟨place, _, rfl, writable, written⟩

/-- A secret is stored where its path leads to, if the directory is there already. -/
theorem run_put_at {password : String} (unlocked : s.password = some password)
    (ready : s.files.makeDirectories directory = (.ok (), s.files)) {place : Place}
    (writable : s.files.Writable ((vault cipher directory service).pathOf key) place)
    (text : String) :
    ∃ entry, ((vault cipher directory service).set key (some text)).run s =
      (.ok (), Journal.record entry ({ s with draws := s.draws + 1 }.withFiles
        (s.files.sealed place (cipher.encrypt password (s.randomness s.draws) text)))) := by
  rcases run_put_unlocked valid unlocked text with ⟨_, _, refused⟩ | ⟨other, entry, _, there, run⟩
  · rw [ready] at refused
    exact absurd ⟨rfl, place, writable⟩ refused
  · rw [ready] at there run
    obtain rfl := writable.unique there
    exact ⟨entry, run⟩

end Calls

end Session

end AccountKeeper
