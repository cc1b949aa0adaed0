import AccountKeeper.Proofs.Secrets.Mirror
import AccountKeeper.Proofs.Secrets.Strongroom

/-!
# Vaults with different services

The name of a file is made of a service and a key with a dot between them, and
both may contain dots.  Two stores over one directory leave the secrets of one
another alone as long as no two of their names are made of the same pieces.
-/

set_option autoImplicit false

namespace AccountKeeper

/-! ## Names -/

/-- One service goes on with a dot where the other one ends, and the key of the other one makes up
for it. -/
def Continues (service key further other : String) : Prop :=
  ∃ middle, further = service ++ "." ++ middle ∧ key = middle ++ "." ++ other

theorem continues_of_longer {service key further other : String} {middle : List Char}
    (different : (service, key) ≠ (further, other))
    (longer : further.toList = service.toList ++ middle)
    (rest : '.' :: key.toList = middle ++ '.' :: other.toList) :
    Continues service key further other := by
  cases middle with
  | nil =>
    have services : service = further := String.toList_inj.mp (by simpa using longer.symm)
    have keys : key = other := String.toList_inj.mp (by simpa using rest)
    exact absurd (by rw [services, keys]) different
  | cons c middle =>
    obtain ⟨rfl, rest⟩ := List.cons.inj rest
    refine ⟨String.ofList middle, String.toList_inj.mp ?_, String.toList_inj.mp ?_⟩
    · simpa using longer
    · simpa using rest

/-- Different services and keys make one name exactly if one service continues the other one. -/
theorem sealedName_eq_iff {service key further other : String}
    (different : (service, key) ≠ (further, other)) :
    sealedName service key = sealedName further other ↔
      Continues service key further other ∨ Continues further other service key := by
  constructor
  · intro same
    have whole : (service.toList ++ '.' :: key.toList) ++ ".age".toList =
        (further.toList ++ '.' :: other.toList) ++ ".age".toList := by
      simpa [sealedName] using congrArg String.toList same
    rcases List.append_eq_append_iff.mp (List.append_cancel_right whole) with
      ⟨middle, longer, rest⟩ | ⟨middle, longer, rest⟩
    · exact .inl (continues_of_longer different longer rest)
    · exact .inr (continues_of_longer different.symm longer rest)
  · rintro (⟨middle, rfl, rfl⟩ | ⟨middle, rfl, rfl⟩)
    · simp [sealedName, String.append_assoc]
    · simp [sealedName, String.append_assoc]

theorem not_continues {service key further other : String} (plain : '.' ∉ further.toList) :
    ¬Continues service key further other := by
  rintro ⟨middle, rfl, _⟩
  simp at plain

namespace Strongroom

variable {ι : Type} [DecidableEq ι] {cipher : Cipher} {directory : String} {service : ι → String}
  {base : Place} {room : Strongroom ι} {intruder owner : ι} {key other : String}

/-- What one of the stores finds under a key is not changed by what another one stores or erases under
a key. -/
def Undisturbed (cipher : Cipher) (directory : String) (service : ι → String) (intruder owner : ι)
    (key other : String) (room : Strongroom ι) : Prop :=
  ∀ value, (((keeper cipher directory service owner).get other).run
      (((keeper cipher directory service intruder).set key value).run room).2).1 =
    (((keeper cipher directory service owner).get other).run room).1

section Pair

variable (serves : room.session.files.Serves directory base (SealedNames service))
  (services : ∀ who, SecretKey.Valid (service who)) (valid : SecretKey.Valid key)
  (valid' : SecretKey.Valid other)

include serves services valid valid'

theorem undisturbed_of_ne
    (apart : sealedName (service intruder) key ≠ sealedName (service owner) other) :
    Undisturbed cipher directory service intruder owner key other room := by
  intro value
  obtain ⟨passwords, replaces⟩ := replaces_keeper_set cipher intruder serves
    services valid value
  have isName := SecretKey.isName_sealedName (services owner).noSlash valid'
  rw [answer_keeper_get cipher owner replaces.serves services valid',
    answer_keeper_get cipher owner serves services valid',
    passwords, replaces.others _ ⟨owner, other, valid', rfl⟩ isName apart.symm]

/-- Erasing the shared file takes a secret away, and writing it puts one there. -/
theorem not_undisturbed_of_eq (unlocked : room.passwords intruder ≠ none)
    (reaches : room.session.files.Reaches directory (sealedName (service intruder) key))
    (same : sealedName (service intruder) key = sealedName (service owner) other) :
    ¬Undisturbed cipher directory service intruder owner key other room := by
  intro undisturbed
  have isName := SecretKey.isName_sealedName (services owner).noSlash valid'
  have after (value : Option String) := (replaces_keeper_set cipher intruder
    serves services valid value).2
  have found (value : Option String) := (answer_keeper_get cipher owner
    (after value).serves services valid').symm.trans
      ((undisturbed value).trans (answer_keeper_get cipher owner serves services valid'))
  cases there : room.session.files.entry?
      (Path.join directory (sealedName (service owner) other)) with
  | none =>
    obtain ⟨content, stored⟩ := entry_stored cipher intruder serves services valid unlocked
      reaches ""
    have changed := found (some "")
    rw [same] at stored
    rw [stored, there] at changed
    exact cipher.answer_file_ne _ _ _ changed
  | some node =>
    obtain ⟨content, mode, rfl⟩ := serves.entry_file ⟨owner, other, valid', rfl⟩ isName there
    have erased := entry_erased cipher intruder serves services valid
    have changed := found none
    rw [same] at erased
    rw [erased, there] at changed
    exact cipher.answer_file_ne _ _ _ changed.symm

end Pair

/-- After any calls on the stores, what one of them finds under a key is not changed by what another
one stores or erases under another service or key, unless one of the services continues the other
one; then it is, as far as the other one can write its file.  No service continues one without
dots. -/
theorem neighbours_apart_iff (cipher : Cipher) (directory : String) (service : ι → String)
    (base : Place) (start : Strongroom ι) (calls : List (ι × VaultCall)) (intruder owner : ι)
    (key other : String) (services : ∀ who, SecretKey.Valid (service who))
    (serves : start.session.files.Serves directory base (SealedNames service))
    (valid : SecretKey.Valid key) (valid' : SecretKey.Valid other)
    (different : (service intruder, key) ≠ (service owner, other)) :
    let room := (performAll cipher directory service calls start).2
    let collide := Continues (service intruder) key (service owner) other ∨
      Continues (service owner) other (service intruder) key
    (¬collide → Undisturbed cipher directory service intruder owner key other room) ∧
      (room.passwords intruder ≠ none →
        start.session.files.Reaches directory (sealedName (service intruder) key) →
          (Undisturbed cipher directory service intruder owner key other room ↔ ¬collide)) ∧
      ('.' ∉ (service intruder).toList → '.' ∉ (service owner).toList → ¬collide) := by
  intro room collide
  have serving : Serving directory service base start room :=
    (Serving.refl serves).performAll services calls
  have apart : ¬collide → Undisturbed cipher directory service intruder owner key other room :=
    fun distinct => undisturbed_of_ne serving.serves services valid valid' fun same =>
      distinct ((sealedName_eq_iff different).mp same)
  refine ⟨apart, fun unlocked reaches => ⟨fun undisturbed same => ?_, apart⟩, ?_⟩
  · exact not_undisturbed_of_eq serving.serves services valid valid' unlocked
      (serving.reaches _ reaches) ((sealedName_eq_iff different).mpr same) undisturbed
  · rintro plain plain' (continues | continues)
    · exact not_continues plain' continues
    · exact not_continues plain continues

/-! ## Two stores -/

/-- Two stores over an empty directory, before they get their master passwords. -/
def vacant : Strongroom Bool where
  session := { files := .credentialsOnly, randomness := id }
  passwords _ := none

/-- Both stores get a master password, and the first one a secret. -/
def firstCalls (key : String) : List (Bool × VaultCall) :=
  [(false, .unlock "test_password_123"), (true, .unlock "test_password_123"),
    (false, .secret (.set key (some "mine")))]

def plainServices (who : Bool) : String :=
  if who then "work" else "gh-accounts"

/-- The first store keeps its secret if another service has the same key. -/
theorem neighbours_apart_iff_for_plain_services :
    let room := (performAll .prefixed "/credentials" plainServices (firstCalls "token") vacant).2
    (((keeper .prefixed "/credentials" plainServices false).get "token").run room).1 =
        .ok (some "mine") ∧
      Undisturbed .prefixed "/credentials" plainServices true false "token" "token" room := by
  intro room
  obtain ⟨apart, _, plain⟩ := neighbours_apart_iff .prefixed "/credentials" plainServices
    ["credentials"] vacant (firstCalls "token") true false "token" "token" (by decide)
    (FileTree.serves_credentialsOnly _) (by decide) (by decide) (by decide)
  exact ⟨rfl, apart (plain (by decide) (by decide))⟩

def dottedServices (who : Bool) : String :=
  if who then "a" else "a.b"

/-- The first store holds a secret, in the file that is shared. -/
def shared : Strongroom Bool :=
  (performAll .prefixed "/credentials" dottedServices (firstCalls "c") vacant).2

def sharing (who : Bool) : SecretStore (Strongroom Bool) :=
  keeper .prefixed "/credentials" dottedServices who

/-- The first store finds the secret of another service and key. -/
theorem disturbed_by_dotted_service :
    SecretKey.Valid (dottedServices true) ∧ SecretKey.Valid (dottedServices false) ∧
      SecretKey.Valid "b.c" ∧ SecretKey.Valid "c" ∧
      (dottedServices true, "b.c") ≠ (dottedServices false, "c") ∧
      (((sharing false).get "c").run shared).1 = .ok (some "mine") ∧
      (((sharing false).get "c").run (((sharing true).set "b.c" (some "theirs")).run shared).2).1 =
        .ok (some "theirs") ∧
      (((sharing false).get "c").run (((sharing true).set "b.c" none).run shared).2).1 =
        .ok none ∧
      ¬Undisturbed .prefixed "/credentials" dottedServices true false "b.c" "c" shared := by
  have mine : (((sharing false).get "c").run shared).1 = .ok (some "mine") := by rfl
  have theirs : (((sharing false).get "c").run
      (((sharing true).set "b.c" (some "theirs")).run shared).2).1 = .ok (some "theirs") := by rfl
  have erased : (((sharing false).get "c").run
      (((sharing true).set "b.c" none).run shared).2).1 = .ok none := by rfl
  refine ⟨by decide, by decide, by decide, by decide, by decide, mine, theirs, erased, ?_⟩
  intro undisturbed
  cases erased.symm.trans ((undisturbed none).trans mine)

end Strongroom

end AccountKeeper
