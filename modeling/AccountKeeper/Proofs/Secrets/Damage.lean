import AccountKeeper.Proofs.Secrets.Strongroom

/-!
# Files that cannot be opened

A file is opened in three steps, and each of them may find a fault.  A fault of
the header or of the content is reported as it is.  A fault of the second step,
which tries the passphrase, is reported as a failed decryption if its text says
so: if it has the word decryption or the word MAC in it.
-/

set_option autoImplicit false

namespace AccountKeeper

/-- The text of the fault has one of the words that stand for a failed decryption. -/
def Age.Fault.SaysDecryption (fault : Age.Fault) : Prop :=
  "decryption".toList <:+: fault.message.toList ∨ "MAC".toList <:+: fault.message.toList

/-! ## The texts of faults -/

namespace Text

/-- No occurrence of a part starts in the text, whatever follows. -/
def clearOf (part : List Char) : List Char → Bool
  | [] => true
  | c :: rest =>
    !part.isPrefixOf (c :: rest) && !(c :: rest).isPrefixOf part && clearOf part rest

theorem clearOf_of_notMem {c : Char} {part text : List Char} (notMem : c ∉ text) :
    clearOf (c :: part) text = true := by
  induction text with
  | nil => rfl
  | cons d rest ih =>
    have other : c ≠ d := fun same => notMem (same ▸ List.mem_cons_self)
    simp [clearOf, List.isPrefixOf, other, other.symm,
      ih fun member => notMem (List.mem_cons_of_mem d member)]

theorem infix_of_clearOf {part first rest : List Char} (clear : clearOf part first = true)
    (occurs : part <:+: first ++ rest) : part <:+: rest := by
  induction first with
  | nil => exact occurs
  | cons c first ih =>
    simp only [clearOf, Bool.and_eq_true, Bool.not_eq_true', ← Bool.not_eq_true,
      List.isPrefixOf_iff_prefix] at clear
    obtain ⟨⟨longer, shorter⟩, clear⟩ := clear
    rcases List.infix_cons_iff.mp occurs with here | later
    · rcases List.prefix_or_prefix_of_prefix here (List.prefix_append (c :: first) rest) with
        inside | beyond
      · exact absurd inside longer
      · exact absurd beyond shorter
    · exact ih clear later

end Text

namespace Age.Fault

def workText : String :=
  "Excessive work parameter for passphrase.\nDecryption would take around "

theorem excessiveWork_silent {c : Char} {part : List Char} (seconds : Nat)
    (noDigit : c.isDigit = false)
    (before : Text.clearOf (c :: part) workText.toList = true)
    (behind : Text.hasInfix (c :: part) " seconds.".toList = false) :
    ¬(c :: part) <:+: (excessiveWork seconds).message.toList := by
  have digits : c ∉ Nat.toDigits 10 seconds := fun member => by
    rw [Nat.isDigit_of_mem_toDigits (by decide) (by decide) member] at noDigit
    cases noDigit
  intro occurs
  have text : (excessiveWork seconds).message.toList =
      workText.toList ++ (Nat.toDigits 10 seconds ++ " seconds.".toList) := by
    show (workText ++ Nat.repr seconds ++ " seconds.").toList = _
    rw [String.toList_append, String.toList_append, Nat.repr_eq_ofList_toDigits,
      String.toList_ofList, List.append_assoc]
  rw [text] at occurs
  have rest := Text.infix_of_clearOf (Text.clearOf_of_notMem digits)
    (Text.infix_of_clearOf before occurs)
  rw [← Text.hasInfix_iff, behind] at rest
  cases rest

/-- Of all faults of files only a wrong hash of the header and a damaged payload say so; a wrong
passphrase does not. -/
theorem saysDecryption_iff (fault : Age.Fault) :
    fault.SaysDecryption ↔ fault = .invalidMac ∨ fault = .damagedPayload := by
  unfold SaysDecryption
  cases fault with
  | excessiveWork seconds =>
    refine iff_of_false ?_ (by simp)
    rintro (word | word)
    · exact excessiveWork_silent seconds (by decide) (by decide) (by decide) word
    · exact excessiveWork_silent seconds (by decide) (by decide) (by decide) word
  | _ =>
    rw [← Text.hasInfix_iff, ← Text.hasInfix_iff]
    decide +kernel

end Age.Fault

namespace SealLibrary

variable {library : SealLibrary} {passphrase : String} {file : ByteArray} {fault : Age.Fault}

/-- The passphrase does not unlock the file. -/
def Refuses (library : SealLibrary) (passphrase : String) (file : ByteArray) (fault : Age.Fault) :
    Prop :=
  ∃ locked, library.start file.toList = .ok locked ∧
    library.unlock passphrase locked = .error fault

/-- The passphrase unlocks the file, but the content cannot be read. -/
def Spoiled (library : SealLibrary) (passphrase : String) (file : ByteArray) (fault : Age.Fault) :
    Prop :=
  ∃ locked unlocked, library.start file.toList = .ok locked ∧
    library.unlock passphrase locked = .ok unlocked ∧ library.read unlocked = .error fault

end SealLibrary

namespace Cipher

variable {library : SealLibrary} {passphrase : String} {file : ByteArray} {fault : Age.Fault}

theorem refusalOf_eq_iff : refusalOf fault = .decryptionFailed ↔ fault.SaysDecryption := by
  unfold refusalOf Age.Fault.SaysDecryption
  rw [← Text.hasInfix_iff, ← Text.hasInfix_iff, ← Bool.or_eq_true]
  dsimp only
  split
  · rename_i worded
    exact iff_of_true rfl worded
  · rename_i silent
    exact iff_of_false nofun silent

theorem decrypt_refused (refuses : library.Refuses passphrase file fault) :
    (through library).decrypt passphrase file = .error (refusalOf fault) := by
  obtain ⟨locked, started, refused⟩ := refuses
  unfold through
  dsimp only
  rw [started]
  show ((library.unlock passphrase locked).mapError refusalOf >>= _) = _
  rw [refused]
  rfl

theorem decrypt_spoiled (spoiled : library.Spoiled passphrase file fault) :
    (through library).decrypt passphrase file = .error (.encryption (.format fault)) := by
  obtain ⟨locked, unlocked, started, opened, unread⟩ := spoiled
  unfold through
  dsimp only
  rw [started]
  show ((library.unlock passphrase locked).mapError refusalOf >>= _) = _
  rw [opened]
  show ((library.read unlocked).mapError failureOf >>= _) = _
  rw [unread]
  rfl

end Cipher

namespace Strongroom

variable {ι : Type} [DecidableEq ι] {cipher : Cipher} {directory key : String}
  {service : ι → String} {who : ι} {room after : Strongroom ι} {password : String}

/-- The stores with other files. -/
def withFiles (room : Strongroom ι) (files : FileTree) : Strongroom ι :=
  { room with session := room.session.withFiles files }

section Calls

variable (valid : SecretKey.Valid key) (unlocked : room.passwords who = some password)

include valid unlocked

theorem run_get_unopened {place : Place} {content : ByteArray} {mode : Nat}
    {failure : CredentialFailure}
    (names : room.session.files.Names
      ((Session.vault cipher directory (service who)).pathOf key) place)
    (there : room.session.files.at? place = some (.file content mode))
    (refused : cipher.decrypt password content = .error failure) :
    ((keeper cipher directory service who).get key).run room =
      (.error (.credential failure), room) := by
  have run : ((Session.vault cipher directory (service who)).get key).run ((door who).get room) =
      _ := Session.run_get_file valid names there
  rw [show ((door who).get room).password = some password from unlocked] at run
  dsimp only at run
  rw [refused] at run
  rw [run_keeper_get, run, (lawful_door who).set_get]

/-- What is stored is sealed in the file of the key, unless there is a link. -/
theorem sealed_of_set {text : String}
    (wrote : ((keeper cipher directory service who).set key (some text)).run room = (.ok (), after))
    (noLink : ¬after.session.files.NamesLink
      ((Session.vault cipher directory (service who)).pathOf key)) :
    ∃ place bits, after.session.files.Names
        ((Session.vault cipher directory (service who)).pathOf key) place ∧
      after.session.files.at? place =
        some (.file (cipher.encrypt password bits text) EncryptedStore.fileMode) ∧
      after.passwords = room.passwords := by
  rw [run_keeper_set] at wrote
  rcases @Session.run_put_unlocked cipher directory (service who) ((door who).get room) key valid
    password unlocked text with ⟨failure, run, _⟩ | ⟨place, entry, _, writable, run⟩
  · rw [run] at wrote
    cases wrote
  · rw [run] at wrote
    obtain rfl := (Prod.mk.inj wrote).2
    have leaf := writable.leaf
    have there := (leaf.sealed_at? (cipher.encrypt password (room.session.randomness
      room.session.draws) text) place).trans (if_pos rfl)
    have followed := FileTree.follow_mono (leaf.keeps_sealed (cipher.encrypt password
      (room.session.randomness room.session.draws) text)) writable.followed fun target link => by
        rw [there] at link
        cases link
    exact ⟨place, _, FileTree.names_of_follow followed noLink, there, passwords_set rfl⟩

end Calls

/-- After a secret was stored, a store with another master password and, once the file was altered,
the store itself fail with the fault that the library finds, and leave everything as it is.  This is
reported as a failed decryption exactly if the fault is found with the passphrase and says so. -/
theorem refusal_reported_iff (library : SealLibrary) (directory service key text p q : String)
    (room after : Strongroom ι) (writer reader : ι) (valid : SecretKey.Valid key)
    (unlocked : room.passwords writer = some p) (unlocked' : room.passwords reader = some q)
    (wrote : ((keeper (.through library) directory (fun _ => service) writer).set key
      (some text)).run room = (.ok (), after))
    (noLink : ¬after.session.files.NamesLink
      ((Session.vault (.through library) directory service).pathOf key)) :
    let keeper := keeper (.through library) directory fun _ : ι => service
    ∃ place bits, after.session.files.Names
        ((Session.vault (.through library) directory service).pathOf key) place ∧
      after.session.files.at? place = some (.file
        ((Cipher.through library).encrypt p bits text) EncryptedStore.fileMode) ∧
      (∀ fault, library.Refuses q ((Cipher.through library).encrypt p bits text) fault →
        ∃ failure, ((keeper reader).get key).run after = (.error (.credential failure), after) ∧
          (failure = .decryptionFailed ↔ fault.SaysDecryption) ∧
          (failure ≠ .decryptionFailed → failure = .encryption (.format fault))) ∧
      ∀ altered mode fault, library.Spoiled p altered fault →
        let damaged := after.withFiles (after.session.files.put place (.file altered mode))
        ((keeper writer).get key).run damaged =
          (.error (.credential (.encryption (.format fault))), damaged) := by
  intro keeper
  obtain ⟨place, bits, names, there, passwords⟩ := sealed_of_set valid unlocked wrote noLink
  refine ⟨place, bits, names, there, fun fault refuses => ?_, fun altered mode fault spoiled => ?_⟩
  · have locked : after.passwords reader = some q := by rw [passwords, unlocked']
    refine ⟨_, run_get_unopened valid locked names there (Cipher.decrypt_refused refuses),
      Cipher.refusalOf_eq_iff, fun other => ?_⟩
    exact if_neg fun worded => other (if_pos worded)
  · intro damaged
    have leaf : after.session.files.Leaf place := ⟨by simp [there], by simp [there]⟩
    have altering : damaged.session.files.at? place = some (.file altered mode) :=
      (FileTree.at?_put _ _ _ _ leaf.not_root).trans (if_pos rfl)
    have locked : damaged.passwords writer = some p := by
      show after.passwords writer = some p
      rw [passwords, unlocked]
    exact run_get_unopened valid locked (names.mono (.put leaf _)) altering
      (Cipher.decrypt_spoiled spoiled)

end Strongroom

/-! ## A library without ciphers -/

/-- Files with the passphrase, a zero, the content and a mark in place of a seal. -/
def SealLibrary.marked : SealLibrary where
  Locked := List UInt8 × List UInt8
  Unlocked := List UInt8
  encrypt passphrase _ content := passphrase.toUTF8.toList ++ 0 :: content ++ [33]
  start file := .ok (file.takeWhile (· ≠ 0), (file.dropWhile (· ≠ 0)).tail)
  unlock passphrase locked :=
    if locked.1 = passphrase.toUTF8.toList then .ok locked.2 else .error .wrongPassphrase
  read payload := if payload.getLast? = some 33 then .ok payload.dropLast else .error .damagedPayload

namespace Strongroom

/-- Two stores over an empty directory, with different master passwords. -/
def keyed : Strongroom Bool where
  session := { files := .credentialsOnly, randomness := id }
  passwords who := some (if who then "another_password_456" else "test_password_123")

def markedKeeper (who : Bool) : SecretStore (Strongroom Bool) :=
  keeper (.through .marked) "/credentials" (fun _ => serviceName) who

/-- The first store has stored a secret. -/
def written : Strongroom Bool :=
  (((markedKeeper false).set "token" (some "ghp_secret")).run keyed).2

def markedFile : ByteArray :=
  (Cipher.through .marked).encrypt "test_password_123" 0 "ghp_secret"

/-- The same file with another last byte. -/
def alteredFile : ByteArray :=
  ⟨("test_password_123".toUTF8.toList ++ 0 :: "ghp_secret".toUTF8.toList ++ [34]).toArray⟩

theorem refuses_markedFile :
    SealLibrary.marked.Refuses "another_password_456" markedFile .wrongPassphrase :=
  ⟨_, rfl, if_neg (by decide +kernel)⟩

theorem spoiled_alteredFile :
    SealLibrary.marked.Spoiled "test_password_123" alteredFile .damagedPayload :=
  ⟨_, _, rfl, if_pos (by decide +kernel), if_neg (by decide +kernel)⟩

theorem wrote_written :
    ((markedKeeper false).set "token" (some "ghp_secret")).run keyed = (.ok (), written) :=
  Prod.ext (by rfl) rfl

theorem names_written : written.session.files.Names
    ((Session.vault (.through .marked) "/credentials" serviceName).pathOf "token")
    ["credentials", "gh-accounts.token.age"] :=
  ⟨⟨["credentials", "gh-accounts.token.age"], true, false⟩, by rfl, rfl⟩

theorem file_written : written.session.files.at? ["credentials", "gh-accounts.token.age"] =
    some (.file markedFile EncryptedStore.fileMode) := by
  rfl

theorem noLink_written : ¬written.session.files.NamesLink
    ((Session.vault (.through .marked) "/credentials" serviceName).pathOf "token") := by
  rintro ⟨place, target, names, there⟩
  obtain rfl := names_written.unique names
  rw [file_written] at there
  cases there

/-- The faults of a file that is opened with another master password, and of an altered file, are
both reported as they are. -/
theorem refusal_reported_iff_for_marked_files :
    ∃ place, written.session.files.at? place =
        some (.file markedFile EncryptedStore.fileMode) ∧
      ((markedKeeper true).get "token").run written =
        (.error (.credential (.encryption (.format .wrongPassphrase))), written) ∧
      let damaged := written.withFiles (written.session.files.put place (.file alteredFile 0o600))
      ((markedKeeper false).get "token").run damaged =
        (.error (.credential (.encryption (.format .damagedPayload))), damaged) := by
  obtain ⟨place, bits, names, there, refused, altered⟩ := refusal_reported_iff .marked "/credentials"
    serviceName "token" "ghp_secret" "test_password_123" "another_password_456" keyed written false
    true (by decide) rfl rfl wrote_written noLink_written
  obtain ⟨failure, run, worded, other⟩ := refused .wrongPassphrase refuses_markedFile
  have silent : failure ≠ .decryptionFailed := fun failed => by
    rcases (Age.Fault.saysDecryption_iff _).mp (worded.mp failed) with same | same
    · cases same
    · cases same
  refine ⟨place, there, ?_, altered alteredFile 0o600 .damagedPayload spoiled_alteredFile⟩
  rw [other silent] at run
  exact run

/-- A wrong master password is reported as another failure, which only quotes the library. -/
theorem wrong_password_misreported :
    ((markedKeeper false).set "token" (some "ghp_secret")).run keyed = (.ok (), written) ∧
      (∀ who, ∃ password, written.passwords who = some password ∧
        EncryptedStore.passwordMinimum ≤ password.utf8ByteSize) ∧
      written.passwords true ≠ written.passwords false ∧
      SealLibrary.marked.Refuses "another_password_456" markedFile .wrongPassphrase ∧
      (((markedKeeper true).get "token").run written).1 =
        .error (.credential (.encryption (.format .wrongPassphrase))) ∧
      CredentialFailure.message (.encryption (.format .wrongPassphrase)) =
        "Encryption error: Decryption failed" ∧
      (((markedKeeper true).get "token").run written).1 ≠
        .error (.credential .decryptionFailed) := by
  have run : ((markedKeeper true).get "token").run written =
      (.error (.credential (Cipher.refusalOf .wrongPassphrase)), written) :=
    run_get_unopened (by decide) rfl names_written file_written
      (Cipher.decrypt_refused refuses_markedFile)
  have fault : Cipher.refusalOf .wrongPassphrase = .encryption (.format .wrongPassphrase) := by
    decide
  rw [fault] at run
  refine ⟨wrote_written, fun who => ?_, by decide, refuses_markedFile, by rw [run], by decide, ?_⟩
  · cases who
    · exact ⟨_, rfl, by decide⟩
    · exact ⟨_, rfl, by decide⟩
  · rw [run]
    nofun

end Strongroom

end AccountKeeper
