import AccountKeeper.Proofs.Migration.Decision

/-!
# What an attempt can make of the holdings

A migration works on legacy data and on accounts with their tokens, which
`Holdings` gathers.  `Holdings.Moves` lists all that one attempt can make of
them, wherever it breaks off.  `Holdings.completion` is what an attempt makes
of them that does not break off; no other attempt before it changes that
(`Moves.completion_eq`).
-/

set_option autoImplicit false

namespace AccountKeeper

/-- Legacy data, and accounts with their tokens. -/
structure Holdings where
  settings : LegacySettings
  secrets : String → Option String
  entries : List (Account × String)

/-- Holdings up to the identifiers of accounts. -/
structure Inventory where
  settings : LegacySettings
  secrets : String → Option String
  logins : List ConfirmedLogin

def Inventory.credential (inventory : Inventory) : LegacyCredential :=
  .ofParts inventory.settings (inventory.secrets legacySecretKey)

/-- An account with its token, without its identifier. -/
def Account.registration (entry : Account × String) : ConfirmedLogin :=
  ⟨entry.1.login, entry.1.server, entry.2⟩

namespace Holdings

def inventory (held : Holdings) : Inventory :=
  ⟨held.settings, held.secrets, held.entries.map Account.registration⟩

def credential (held : Holdings) : LegacyCredential :=
  .ofParts held.settings (held.secrets legacySecretKey)

def settingsCleared (held : Holdings) : Holdings :=
  { held with settings := {} }

def cleared (held : Holdings) : Holdings :=
  { held with
    settings := {}
    secrets := fun key => if key = legacySecretKey then none else held.secrets key }

def enlisting (held : Holdings) (entry : Account × String) : Holdings :=
  { held with entries := held.entries ++ [entry] }

/-- A clearing may break off before its first or its second erasure. -/
inductive Clears (held : Holdings) : Holdings → Prop where
  | nothing : Clears held held
  | settings : Clears held held.settingsCleared
  | all : Clears held held.cleared

variable (decide : LegacyCredential → Decision)

/-- What is to be done, given what is decided about a credential. -/
def plan (held : Holdings) : Decision :=
  if held.entries = [] then decide held.credential else .nothingToMigrate

/-- What one attempt can make of holdings, and the accounts that it registers. -/
inductive Moves (before : Holdings) : List (Account × String) → Holdings → Prop where
  | stays : Moves before [] before
  | discards {after : Holdings} (informed : before.credential.hasAnyInfo = true)
      (planned : before.plan decide = .nothingToMigrate) (clears : before.Clears after) :
      Moves before [] after
  | registers {after : Holdings} (account : Account) (token : String)
      (informed : before.credential.hasAnyInfo = true)
      (planned : before.plan decide = .register account.login account.server token)
      (proper : Login.require account.login = .ok ())
      (clears : (before.enlisting (account, token)).Clears after) :
      Moves before [(account, token)] after

/-- What a migration without failures leads to; `none` if the user cancels it or the login is
refused. -/
def completion (held : Holdings) : Option Inventory :=
  if held.credential.hasAnyInfo then
    match held.plan decide with
    | .nothingToMigrate => some held.cleared.inventory
    | .cancelled => none
    | .register login server token =>
      match Login.require login with
      | .ok () =>
        some { held.cleared.inventory with
          logins := held.inventory.logins ++ [⟨login, server, token⟩] }
      | .error _ => none
  else
    some held.inventory

variable {decide}

theorem cleared_of_no_secret (held : Holdings) (absent : held.secrets legacySecretKey = none) :
    held.cleared = held.settingsCleared := by
  have secrets : held.cleared.secrets = held.secrets := by
    funext key
    change (if key = legacySecretKey then none else held.secrets key) = _
    split
    · rename_i same
      rw [same, absent]
    · rfl
  unfold settingsCleared
  rw [← secrets]
  rfl

theorem uninformed_of_cleared (held : Holdings) : held.cleared.credential.hasAnyInfo = false := by
  simp [credential, cleared, LegacyCredential.ofParts, LegacyCredential.hasAnyInfo]

/-- Where nothing is to be migrated, a clearing that broke off is made up for. -/
theorem completion_of_clears {before after : Holdings}
    (idle : ∀ legacy : LegacyCredential, legacy.authMode = .none →
      decide legacy = .nothingToMigrate)
    (informed : before.credential.hasAnyInfo = true)
    (planned : before.plan decide = .nothingToMigrate) (clears : before.Clears after) :
    after.completion decide = some before.cleared.inventory := by
  cases clears with
  | nothing =>
    unfold completion
    rw [if_pos informed, planned]
  | settings =>
    have planned' : before.settingsCleared.plan decide = .nothingToMigrate := by
      unfold plan
      split
      · exact idle _ rfl
      · rfl
    unfold completion
    cases secret : before.secrets legacySecretKey with
    | some text =>
      have informed' : before.settingsCleared.credential.hasAnyInfo = true := by
        simp [credential, settingsCleared, LegacyCredential.ofParts, LegacyCredential.hasAnyInfo,
          secret]
      rw [if_pos informed', planned']
      rfl
    | none =>
      have informed' : before.settingsCleared.credential.hasAnyInfo = false := by
        simp [credential, settingsCleared, LegacyCredential.ofParts, LegacyCredential.hasAnyInfo,
          secret]
      rw [informed', if_neg Bool.false_ne_true, cleared_of_no_secret before secret]
  | all =>
    unfold completion
    rw [uninformed_of_cleared, if_neg Bool.false_ne_true]

theorem entries_of_clears {before after : Holdings} (clears : before.Clears after) :
    after.entries = before.entries := by
  cases clears <;> rfl

theorem alone_of_plan {held : Holdings} {login token : String} {server : ServerAddress}
    (planned : held.plan decide = .register login server token) : held.entries = [] := by
  unfold plan at planned
  split at planned
  · assumption
  · cases planned

namespace Moves

variable {before after : Holdings} {added : List (Account × String)}

theorem entries (moves : Moves decide before added after) :
    after.entries = before.entries ++ added := by
  cases moves with
  | stays => exact (List.append_nil _).symm
  | discards _ _ clears =>
    rw [entries_of_clears clears, List.append_nil]
  | registers account token _ _ _ clears =>
    rw [entries_of_clears clears]
    rfl

/-- At most one account is registered, and none where there is one already. -/
theorem once (moves : Moves decide before added after) :
    added = [] ∨ before.entries = [] ∧ added.length = 1 := by
  cases moves with
  | stays => exact .inl rfl
  | discards _ _ _ => exact .inl rfl
  | registers account token _ planned _ _ => exact .inr ⟨alone_of_plan planned, rfl⟩

/-- No attempt changes what a migration leads to. -/
theorem completion_eq (moves : Moves decide before added after)
    (idle : ∀ legacy : LegacyCredential, legacy.authMode = .none →
      decide legacy = .nothingToMigrate) :
    after.completion decide = before.completion decide := by
  cases moves with
  | stays => rfl
  | discards informed planned clears =>
    rw [completion_of_clears idle informed planned clears]
    unfold completion
    rw [if_pos informed, planned]
  | registers account token informed planned proper clears =>
    have settled : (before.enlisting (account, token)).plan decide = .nothingToMigrate := by
      unfold plan
      rw [if_neg]
      simp [enlisting]
    rw [completion_of_clears idle (by exact informed) settled clears]
    unfold completion
    rw [if_pos informed, planned]
    simp only [proper]
    simp [inventory, cleared, enlisting, Account.registration]

theorem eq_of_incomplete (moves : Moves decide before added after)
    (incomplete : before.completion decide = none) : after = before := by
  cases moves with
  | stays => rfl
  | discards informed planned _ =>
    unfold completion at incomplete
    rw [if_pos informed, planned] at incomplete
    cases incomplete
  | registers account token informed planned proper _ =>
    unfold completion at incomplete
    rw [if_pos informed, planned] at incomplete
    simp only [proper] at incomplete
    cases incomplete

end Moves

theorem uninformed_of_completion {held : Holdings} {inventory : Inventory}
    (complete : held.completion decide = some inventory) :
    inventory.credential.hasAnyInfo = false := by
  unfold completion at complete
  split at complete
  · split at complete
    · cases complete
      exact uninformed_of_cleared held
    · cases complete
    · split at complete
      · cases complete
        exact uninformed_of_cleared held
      · cases complete
  · rename_i uninformed
    cases complete
    exact Bool.eq_false_iff.mpr uninformed

end Holdings

end AccountKeeper
