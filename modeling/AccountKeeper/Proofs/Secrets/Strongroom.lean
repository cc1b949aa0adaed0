import AccountKeeper.Proofs.Secrets.Entries

/-!
# Several vaults over one directory

Stores of encrypted files that share a tree of files, each with a service and a
master password of its own.  Whoever calls one of them, the entries of its key
and its master password are all that changes.
-/

set_option autoImplicit false

namespace AccountKeeper

structure Strongroom (ι : Type) where
  session : Session
  passwords : ι → Option String

inductive VaultCall where
  | unlock (password : String)
  | secret (call : SecretCall)
  deriving DecidableEq, Repr

namespace Strongroom

variable {ι : Type} [DecidableEq ι]

/-- The session as one of the stores sees it. -/
def door (who : ι) : Part (Strongroom ι) Session where
  get room := { room.session with password := room.passwords who }
  set new room := {
    session := { new with password := room.session.password }
    passwords := fun other => if other = who then new.password else room.passwords other }

theorem lawful_door (who : ι) : (door who).Lawful where
  get_set new room := by simp [door]
  set_get room := by
    have same : (fun other => if other = who then room.passwords who else room.passwords other) =
        room.passwords := by
      funext other
      split
      · rename_i here
        rw [here]
      · rfl
    simp [door, same]
  set_set new old room := by
    have same : (fun other => if other = who then new.password else
        if other = who then old.password else room.passwords other) =
          fun other => if other = who then new.password else room.passwords other := by
      funext other
      split <;> rfl
    simp [door, same]

theorem passwords_set {who : ι} {new : Session} {room : Strongroom ι}
    (same : new.password = room.passwords who) :
    ((door who).set new room).passwords = room.passwords := by
  funext other
  show (if other = who then new.password else room.passwords other) = room.passwords other
  split
  · rename_i here
    rw [here, same]
  · rfl

section Stores

variable (cipher : Cipher) (directory : String) (service : ι → String)

def keeper (who : ι) : SecretStore (Strongroom ι) :=
  (Session.vault cipher directory (service who)).store.on (door who)

/-- A call on one of the stores; setting a master password answers with nothing. -/
def perform (who : ι) : VaultCall → Action (Strongroom ι) (Option String)
  | .unlock password => do
    (door who).lift ((Session.vault cipher directory (service who)).setPassword password)
    return none
  | .secret call => (keeper cipher directory service who).perform call

def performAll : List (ι × VaultCall) → Strongroom ι →
    List (Except Failure (Option String)) × Strongroom ι
  | [], room => ([], room)
  | (who, call) :: calls, room =>
    let (answer, next) := (perform cipher directory service who call).run room
    let (answers, after) := performAll calls next
    (answer :: answers, after)

/-- The names of the files that the stores make. -/
def SealedNames (name : String) : Prop :=
  ∃ who key, SecretKey.Valid key ∧ name = sealedName (service who) key

variable {cipher directory service} {base : Place} {who : ι} {room : Strongroom ι}

theorem run_keeper_get (key : String) :
    ((keeper cipher directory service who).get key).run room =
      (((((Session.vault cipher directory (service who)).get key).run ((door who).get room))).1,
        (door who).set (((Session.vault cipher directory (service who)).get key).run
          ((door who).get room)).2 room) := rfl

theorem run_keeper_set (key : String) (value : Option String) :
    ((keeper cipher directory service who).set key value).run room =
      ((((Session.vault cipher directory (service who)).set key value).run
          ((door who).get room)).1,
        (door who).set (((Session.vault cipher directory (service who)).set key value).run
          ((door who).get room)).2 room) := rfl

theorem run_keeper_perform (call : SecretCall) :
    ((keeper cipher directory service who).perform call).run room =
      ((((Session.vault cipher directory (service who)).store.perform call).run
          ((door who).get room)).1,
        (door who).set (((Session.vault cipher directory (service who)).store.perform call).run
          ((door who).get room)).2 room) := by
  cases call with
  | get key => exact run_keeper_get key
  | set key value =>
    rw [SecretStore.run_perform_set, SecretStore.run_perform_set]
    rfl

/-- The directory serves the names of the stores, and what could be reached can be. -/
structure Serving (directory : String) (service : ι → String) (base : Place)
    (start room : Strongroom ι) : Prop where
  serves : room.session.files.Serves directory base (SealedNames service)
  reaches : ∀ name, start.session.files.Reaches directory name →
    room.session.files.Reaches directory name

namespace Serving

variable {start : Strongroom ι}

omit [DecidableEq ι] in
theorem refl (serves : start.session.files.Serves directory base (SealedNames service)) :
    Serving directory service base start start :=
  ⟨serves, fun _ reaches => reaches⟩

theorem perform (serving : Serving directory service base start room)
    (services : ∀ who, SecretKey.Valid (service who)) (who : ι) (call : VaultCall) :
    Serving directory service base start
      ((perform cipher directory service who call).run room).2 := by
  cases call with
  | unlock password =>
    unfold Strongroom.perform
    rw [ActionE.run_bind, Part.run_lift, Session.run_setPassword]
    by_cases weak : password.utf8ByteSize < EncryptedStore.passwordMinimum
    · rw [if_pos weak]
      exact ⟨serving.serves, serving.reaches⟩
    · rw [if_neg weak]
      exact ⟨serving.serves, serving.reaches⟩
  | secret call =>
    have replaces := Session.replaces_perform cipher (s := (door who).get room)
      serving.serves (services who).noSlash call fun valid => ⟨who, call.key, valid, rfl⟩
    show Serving directory service base start
      (((keeper cipher directory service who).perform call).run room).2
    rw [run_keeper_perform]
    exact ⟨replaces.serves, fun name reaches =>
      replaces.reaches name (serving.reaches name reaches)⟩

theorem performAll (serving : Serving directory service base start room)
    (services : ∀ who, SecretKey.Valid (service who)) (calls : List (ι × VaultCall)) :
    Serving directory service base start (performAll cipher directory service calls room).2 := by
  induction calls generalizing room with
  | nil => exact serving
  | cons call calls ih => exact ih (serving.perform services call.1 call.2)

end Serving

/-! ## What one store finds after a call on another one -/

section Entries

variable (cipher) (who) (serves : room.session.files.Serves directory base (SealedNames service))
  (services : ∀ who, SecretKey.Valid (service who)) {key : String} (valid : SecretKey.Valid key)

include serves services valid

theorem answer_keeper_get :
    (((keeper cipher directory service who).get key).run room).1 =
      cipher.answer (room.passwords who)
        (room.session.files.entry? (Path.join directory (sealedName (service who) key))) :=
  Session.answer_get cipher (s := (door who).get room) serves (services who).noSlash valid
    ⟨who, key, valid, rfl⟩

theorem replaces_keeper_set (value : Option String) :
    let after := (((keeper cipher directory service who).set key value).run room).2
    after.passwords = room.passwords ∧
      Session.Replaces directory base (SealedNames service) (sealedName (service who) key)
        room.session after.session := by
  intro after
  have replaces := Session.replaces_perform cipher (s := (door who).get room) serves
    (services who).noSlash (.set key value) fun _ => ⟨who, key, valid, rfl⟩
  rw [SecretStore.run_perform_set] at replaces
  exact ⟨passwords_set replaces.password, rfl, replaces.serves, replaces.reaches, replaces.others⟩

theorem entry_erased :
    (((keeper cipher directory service who).set key none).run room).2.session.files.entry?
      (Path.join directory (sealedName (service who) key)) = none := by
  obtain ⟨after, run, _, erased⟩ := Session.run_erase_entry cipher
    (s := (door who).get room) serves (services who).noSlash valid ⟨who, key, valid, rfl⟩
  rw [run_keeper_set, run]
  exact erased

theorem entry_stored (unlocked : room.passwords who ≠ none)
    (reaches : room.session.files.Reaches directory (sealedName (service who) key))
    (text : String) :
    ∃ content, (((keeper cipher directory service who).set key (some text)).run
      room).2.session.files.entry? (Path.join directory (sealedName (service who) key)) =
        some (.file content EncryptedStore.fileMode) := by
  obtain ⟨after, _, ⟨password, bits, _, run, stored⟩ | ⟨_, _, locked | unreached, _⟩⟩ :=
    Session.run_put_entry cipher (s := (door who).get room) serves
      (services who).noSlash valid ⟨who, key, valid, rfl⟩ text
  · refine ⟨cipher.encrypt password bits text, ?_⟩
    rw [run_keeper_set, run]
    exact stored
  · exact absurd locked unlocked
  · exact absurd reaches unreached

end Entries

end Stores

end Strongroom

end AccountKeeper
