import AccountKeeper.Proofs.Secrets.Fallback
import AccountKeeper.Proofs.Secrets.Strongroom

/-!
# The password a file was sealed under

A master password is checked once, when it is set, and used later, whenever a
secret is stored.  Every file that the calls on some stores leave behind was
there before or was sealed under the password that its store accepted last
(`Strongroom.Sealing`).  The check counts bytes, so a short password in another
script than Latin may pass it: `Overrated`.
-/

set_option autoImplicit false

namespace AccountKeeper

/-! ## Lengths of passwords -/

namespace EncryptedStore

/-- The password has too few characters, but enough bytes. -/
def Overrated (password : String) : Prop :=
  password.length < passwordMinimum ∧ passwordMinimum ≤ password.utf8ByteSize

instance (password : String) : Decidable (Overrated password) :=
  inferInstanceAs (Decidable (_ ∧ _))

theorem utf8ByteSize_cons (c : Char) (text : List Char) :
    (String.ofList (c :: text)).utf8ByteSize = c.utf8Size + (String.ofList text).utf8ByteSize := by
  rw [String.ofList_cons, String.utf8ByteSize_append, String.utf8ByteSize_singleton]

theorem length_le_utf8ByteSize (password : String) : password.length ≤ password.utf8ByteSize := by
  rw [← String.ofList_toList (s := password), String.length_ofList]
  induction password.toList with
  | nil => exact Nat.zero_le _
  | cons c text ih =>
    have positive := c.utf8Size_pos
    rw [utf8ByteSize_cons, List.length_cons]
    omega

theorem utf8ByteSize_ascii {text : List Char} (ascii : ∀ c ∈ text, c.toNat < 0x80) :
    (String.ofList text).utf8ByteSize = text.length := by
  induction text with
  | nil => rfl
  | cons c text ih =>
    have low : c.val ≤ 127 := Nat.le_of_lt_succ (ascii c List.mem_cons_self)
    have one : c.utf8Size = 1 := if_pos low
    rw [utf8ByteSize_cons, one, ih fun d member => ascii d (List.mem_cons_of_mem c member),
      List.length_cons, Nat.add_comm]

theorem not_overrated_of_ascii {password : String} (ascii : ∀ c ∈ password.toList, c.toNat < 0x80) :
    ¬Overrated password := by
  have same := utf8ByteSize_ascii ascii
  rw [String.ofList_toList, String.length_toList] at same
  rintro ⟨short, long⟩
  omega

/-- A password with enough bytes has enough characters, unless it is overrated. -/
theorem long_iff {password : String} (enough : passwordMinimum ≤ password.utf8ByteSize) :
    passwordMinimum ≤ password.length ↔ ¬Overrated password := by
  unfold Overrated
  omega

theorem enough_iff (password : String) :
    passwordMinimum ≤ password.utf8ByteSize ↔
      passwordMinimum ≤ password.length ∨ Overrated password := by
  have less := length_le_utf8ByteSize password
  unfold Overrated
  omega

end EncryptedStore

/-! ## What calls leave behind -/

/-- Every file of the later tree is one of the earlier tree or has content of some kind. -/
def FileTree.Gains (before after : FileTree) (fresh : ByteArray → Prop) : Prop :=
  ∀ place content mode, after.at? place = some (.file content mode) →
    before.at? place = some (.file content mode) ∨ fresh content

namespace FileTree.Gains

variable {before between after : FileTree} {fresh : ByteArray → Prop}

theorem refl (tree : FileTree) (fresh : ByteArray → Prop) : tree.Gains tree fresh :=
  fun _ _ _ there => .inl there

theorem trans (first : before.Gains between fresh) (second : between.Gains after fresh) :
    before.Gains after fresh := by
  intro place content mode there
  rcases second place content mode there with old | new
  · exact first place content mode old
  · exact .inr new

theorem mono {wider : ByteArray → Prop} (gains : before.Gains after fresh)
    (weaker : ∀ content, fresh content → wider content) : before.Gains after wider :=
  fun place content mode there => (gains place content mode there).imp id (weaker content)

theorem of_made {paths : List String} (made : before.Made after paths) :
    before.Gains after fresh := by
  intro place content mode there
  rcases made.only place with same | ⟨-, path, -, leads⟩
  · exact .inl (same ▸ there)
  · obtain ⟨_, _, _, directory, _⟩ := find_eq_ok.mp leads
    rw [there] at directory
    cases directory

theorem erase {place : Place} (notRoot : place ≠ []) :
    before.Gains (before.erase place) fresh := by
  intro other content mode there
  rw [at?_erase _ _ _ notRoot] at there
  split at there
  · cases there
  · exact .inl there

theorem sealed {place : Place} (leaf : before.Leaf place) (content : ByteArray)
    (new : fresh content) : before.Gains (before.sealed place content) fresh := by
  intro other content' mode there
  rw [leaf.sealed_at?] at there
  split at there
  · cases there
    exact .inr new
  · exact .inl there

end FileTree.Gains

namespace Session

variable (cipher : Cipher) (directory service : String) (s : Session)

/-- A call on a vault stores a text under a password. -/
structure Seals (call : SecretCall) (key text password : String) : Prop where
  puts : call = .set key (some text)
  unlocked : s.password = some password
  works : (((vault cipher directory service).store.perform call).run s).1 = .ok none

/-- The content is what a call seals. -/
def SealedBy (call : SecretCall) (content : ByteArray) : Prop :=
  ∃ key text password bits, Seals cipher directory service s call key text password ∧
    content = cipher.encrypt password bits text

variable {key : String} (valid : SecretKey.Valid key)

include valid

theorem erase_gains (fresh : ByteArray → Prop) :
    let run := ((vault cipher directory service).set key none).run s
    run.2.password = s.password ∧ s.files.Gains run.2.files fresh := by
  intro run
  cases leads : s.files.leads ((vault cipher directory service).pathOf key) with
  | false =>
    obtain ⟨entry, same⟩ := run_erase_absent valid leads
    rw [show run = _ from same]
    exact ⟨rfl, .refl _ _⟩
  | true =>
    obtain ⟨entry, same⟩ := run_erase_present valid leads
    rw [show run = _ from same]
    cases removed : s.files.remove ((vault cipher directory service).pathOf key) with
    | error fault => exact ⟨rfl, .refl _ _⟩
    | ok files =>
      obtain ⟨place, -, -, noDirectory, rfl⟩ := FileTree.remove_eq_ok.mp removed
      refine ⟨rfl, .erase ?_⟩
      rintro rfl
      exact noDirectory rfl

theorem put_gains (text : String) :
    let run := ((vault cipher directory service).store.perform (.set key (some text))).run s
    run.2.password = s.password ∧
      s.files.Gains run.2.files (SealedBy cipher directory service s (.set key (some text))) := by
  intro run
  have same : run = _ := SecretStore.run_perform_set _ key (some text) s
  cases unlocked : s.password with
  | none =>
    have locked := @run_put_locked cipher directory service s key valid unlocked text
    rw [same, show ((vault cipher directory service).store.set key (some text)).run s = _
      from locked]
    exact ⟨unlocked, .refl _ _⟩
  | some password =>
    have made : s.files.Gains (s.files.makeDirectories directory).2
        (SealedBy cipher directory service s (.set key (some text))) :=
      .of_made (FileTree.made_makeDirectories directory s.files)
    rcases @run_put_unlocked cipher directory service s key valid password unlocked text with
      ⟨failure, failed, -⟩ | ⟨place, entry, -, writable, worked⟩
    · rw [same, show ((vault cipher directory service).store.set key (some text)).run s = _
        from failed]
      exact ⟨unlocked, made⟩
    · rw [show ((vault cipher directory service).store.set key (some text)).run s = _
        from worked] at same
      have works : run.1 = .ok none := by rw [same]; rfl
      rw [same]
      refine ⟨unlocked, made.trans (.sealed writable.leaf _ ?_)⟩
      exact ⟨key, text, password, _, ⟨rfl, unlocked, works⟩, rfl⟩

omit valid in
/-- A call leaves the files that were there, and the one that it seals. -/
theorem perform_gains (call : SecretCall) :
    let run := ((vault cipher directory service).store.perform call).run s
    run.2.password = s.password ∧
      s.files.Gains run.2.files (SealedBy cipher directory service s call) := by
  intro run
  by_cases valid : SecretKey.Valid call.key
  · cases call with
    | get key =>
      rcases @run_get_state cipher directory service s key with same | ⟨entry, same⟩
      · rw [show run.2 = s from same]
        exact ⟨rfl, .refl _ _⟩
      · rw [show run.2 = Journal.record entry s from same]
        exact ⟨rfl, .refl _ _⟩
    | set key value =>
      cases value with
      | none =>
        rw [show run = _ from SecretStore.run_perform_set _ key none s]
        exact erase_gains cipher directory service s valid _
      | some text => exact put_gains cipher directory service s valid text
  · obtain ⟨failure, refused⟩ := SecretKey.require_of_invalid valid
    rw [show run = (.error failure, s) from run_perform_invalid call refused]
    exact ⟨rfl, .refl _ _⟩

omit valid in
theorem put_locked (locked : s.password = none) (key text : String) :
    ∃ failure, ((vault cipher directory service).store.perform (.set key (some text))).run s =
      (.error failure, s) := by
  by_cases valid : SecretKey.Valid key
  · rw [SecretStore.run_perform_set, show ((vault cipher directory service).store.set key
      (some text)).run s = _ from run_put_locked valid locked text]
    exact ⟨_, rfl⟩
  · obtain ⟨failure, refused⟩ := SecretKey.require_of_invalid valid
    exact ⟨failure, run_perform_invalid (.set key (some text)) refused⟩

end Session

/-! ## Runs of calls on several stores -/

namespace Strongroom

variable {ι : Type} [DecidableEq ι]

/-- The password a store has after a call, if it had another one before. -/
def taken (who : ι) (held : Option String) : ι × VaultCall → Option String
  | (other, .unlock password) =>
    if other = who ∧ EncryptedStore.passwordMinimum ≤ password.utf8ByteSize then some password
    else held
  | (_, .secret _) => held

/-- The password that a store accepted last. -/
def lastTaken (who : ι) (held : Option String) (calls : List (ι × VaultCall)) : Option String :=
  calls.foldl (taken who) held

/-- A password that a store has now and had not before was set by a call, and has enough bytes. -/
theorem mem_of_lastTaken {who : ι} {held : Option String} {calls : List (ι × VaultCall)}
    {password : String} (last : lastTaken who held calls = some password) :
    held = some password ∨ (who, .unlock password) ∈ calls ∧
      EncryptedStore.passwordMinimum ≤ password.utf8ByteSize := by
  induction calls generalizing held with
  | nil => exact .inl last
  | cons call calls ih =>
    rcases ih last with here | ⟨member, enough⟩
    · obtain ⟨other, password' | call⟩ := call
      · rw [taken] at here
        split at here
        · next accepted =>
          obtain ⟨rfl, enough⟩ := accepted
          cases here
          exact .inr ⟨List.mem_cons_self, enough⟩
        · exact .inl here
      · exact .inl here
    · exact .inr ⟨List.mem_cons_of_mem _ member, enough⟩

variable (cipher : Cipher) (directory : String) (service : ι → String)

theorem run_unlock (who : ι) (password : String) (room : Strongroom ι) :
    (perform cipher directory service who (.unlock password)).run room =
      if password.utf8ByteSize < EncryptedStore.passwordMinimum then
        (.error (.credential .weakPassword), room)
      else (.ok none, (door who).set (Journal.record ⟨.credentials, .debug,
        "Master password set for encrypted file store"⟩
          { (door who).get room with password := some password }) room) := by
  unfold perform
  rw [ActionE.run_bind, Part.run_lift, Session.run_setPassword]
  by_cases weak : password.utf8ByteSize < EncryptedStore.passwordMinimum
  · rw [if_pos weak, if_pos weak]
    dsimp only
    rw [(lawful_door who).set_get]
  · rw [if_neg weak, if_neg weak]
    rfl

theorem run_secret (who : ι) (call : SecretCall) (room : Strongroom ι) :
    (perform cipher directory service who (.secret call)).run room =
      ((((Session.vault cipher directory (service who)).store.perform call).run
          ((door who).get room)).1,
        (door who).set (((Session.vault cipher directory (service who)).store.perform call).run
          ((door who).get room)).2 room) :=
  run_keeper_perform call

theorem passwords_perform (call : ι × VaultCall) (who : ι) (room : Strongroom ι) :
    ((perform cipher directory service call.1 call.2).run room).2.passwords who =
      taken who (room.passwords who) call := by
  obtain ⟨other, password | call⟩ := call
  · dsimp only
    rw [run_unlock, taken]
    by_cases weak : password.utf8ByteSize < EncryptedStore.passwordMinimum
    · rw [if_pos weak, if_neg fun accepted => absurd accepted.2 (Nat.not_le.mpr weak)]
    · rw [if_neg weak]
      show (if who = other then some password else room.passwords who) = _
      by_cases same : who = other
      · rw [if_pos same, if_pos ⟨same.symm, Nat.not_lt.mp weak⟩]
      · rw [if_neg same, if_neg fun accepted => same accepted.1.symm]
  · dsimp only
    rw [run_secret, taken]
    have kept := (Session.perform_gains cipher directory (service other) ((door other).get room)
      call).1
    rw [passwords_set kept]

theorem passwords_performAll (calls : List (ι × VaultCall)) (who : ι) (room : Strongroom ι) :
    (performAll cipher directory service calls room).2.passwords who =
      lastTaken who (room.passwords who) calls := by
  induction calls generalizing room with
  | nil => rfl
  | cons call calls ih =>
    have rest := ih ((perform cipher directory service call.1 call.2).run room).2
    rw [passwords_perform] at rest
    exact rest

/-- In the course of some calls, a store seals a text under the password that it accepted last. -/
def Sealing (start : Strongroom ι) (calls : List (ι × VaultCall)) (who : ι)
    (key text password : String) : Prop :=
  ∃ earlier later, calls = earlier ++ (who, .secret (.set key (some text))) :: later ∧
    lastTaken who (start.passwords who) earlier = some password ∧
    ((perform cipher directory service who (.secret (.set key (some text)))).run
      (performAll cipher directory service earlier start).2).1 = .ok none

/-- The content is what a store seals in the course of some calls. -/
def Sealed (start : Strongroom ι) (calls : List (ι × VaultCall)) (content : ByteArray) : Prop :=
  ∃ who key text password bits, Sealing cipher directory service start calls who key text password ∧
    content = cipher.encrypt password bits text

/-- The password of a sealing was set in the course of the calls, if the store had none before. -/
theorem Sealing.unlocks {start : Strongroom ι} {calls : List (ι × VaultCall)} {who : ι}
    {key text password : String}
    (sealing : Sealing cipher directory service start calls who key text password)
    (locked : start.passwords who = none) :
    (who, .unlock password) ∈ calls ∧ EncryptedStore.passwordMinimum ≤ password.utf8ByteSize := by
  obtain ⟨earlier, later, rfl, last, -⟩ := sealing
  rw [locked] at last
  rcases mem_of_lastTaken last with held | ⟨member, enough⟩
  · cases held
  · exact ⟨List.mem_append_left _ member, enough⟩

theorem Sealing.later {start : Strongroom ι} {call : ι × VaultCall}
    {calls : List (ι × VaultCall)} {who : ι} {key text password : String}
    (sealing : Sealing cipher directory service
      ((perform cipher directory service call.1 call.2).run start).2 calls who key text password) :
    Sealing cipher directory service start (call :: calls) who key text password := by
  obtain ⟨earlier, later, rfl, last, works⟩ := sealing
  refine ⟨call :: earlier, later, rfl, ?_, works⟩
  rw [passwords_perform] at last
  exact last

theorem Sealed.later {start : Strongroom ι} {call : ι × VaultCall} {calls : List (ι × VaultCall)}
    {content : ByteArray}
    (sealed : Sealed cipher directory service
      ((perform cipher directory service call.1 call.2).run start).2 calls content) :
    Sealed cipher directory service start (call :: calls) content := by
  obtain ⟨who, key, text, password, bits, sealing, rfl⟩ := sealed
  exact ⟨who, key, text, password, bits, sealing.later, rfl⟩

theorem perform_gains (call : ι × VaultCall) (room : Strongroom ι) (later : List (ι × VaultCall)) :
    room.session.files.Gains
      ((perform cipher directory service call.1 call.2).run room).2.session.files
      (Sealed cipher directory service room (call :: later)) := by
  obtain ⟨who, password | call⟩ := call
  · dsimp only
    rw [run_unlock]
    split
    · exact .refl _ _
    · exact .refl _ _
  · dsimp only
    rw [run_secret]
    refine (Session.perform_gains cipher directory (service who) ((door who).get room)
      call).2.mono ?_
    rintro content ⟨key, text, password, bits, ⟨rfl, unlocked, works⟩, rfl⟩
    refine ⟨who, key, text, password, bits, ⟨[], later, rfl, unlocked, ?_⟩, rfl⟩
    exact (congrArg Prod.fst (run_secret cipher directory service who _ room)).trans works

/-- The induction is on the calls: the first one seals a file, or a later one does. -/
theorem performAll_gains (calls : List (ι × VaultCall)) (room : Strongroom ι) :
    room.session.files.Gains (performAll cipher directory service calls room).2.session.files
      (Sealed cipher directory service room calls) := by
  induction calls generalizing room with
  | nil => exact .refl _ _
  | cons call calls ih =>
    exact (perform_gains cipher directory service call room calls).trans
      ((ih _).mono fun _ => Sealed.later cipher directory service)

/-! ## What is refused -/

theorem unlock_checked (who : ι) (password : String) (room : Strongroom ι) :
    let run := (perform cipher directory service who (.unlock password)).run room
    (password.length < EncryptedStore.passwordMinimum → ¬EncryptedStore.Overrated password →
      run = (.error (.credential .weakPassword), room)) ∧
    (EncryptedStore.passwordMinimum ≤ password.length ∨ EncryptedStore.Overrated password →
      run.1 = .ok none ∧ run.2.passwords who = some password) := by
  intro run
  rw [← EncryptedStore.enough_iff, show run = _ from run_unlock cipher directory service who _ room]
  constructor
  · intro short counted
    rw [if_pos (Nat.lt_of_not_le fun enough => counted ⟨short, enough⟩)]
  · intro enough
    rw [if_neg (Nat.not_lt.mpr enough)]
    exact ⟨rfl, if_pos rfl⟩

theorem put_locked {who : ι} {room : Strongroom ι} (locked : room.passwords who = none)
    (key text : String) :
    ∃ failure, (perform cipher directory service who (.secret (.set key (some text)))).run room =
      (.error failure, room) := by
  obtain ⟨failure, failed⟩ := Session.put_locked cipher directory (service who)
    ((door who).get room) locked key text
  rw [run_secret, failed]
  exact ⟨failure, Prod.ext rfl ((lawful_door who).set_get room)⟩

end Strongroom

end AccountKeeper
