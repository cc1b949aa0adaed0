import AccountKeeper.Proofs.Accounts.Desk

/-!
# Additions that fail

A failed addition takes the account off the list again and erases its token.
It does not put back a secret that stood under the key of the account before,
nor the content of the state file where the save had replaced it already.
-/

set_option autoImplicit false

namespace AccountKeeper

/-- List, state file and secrets are the same on two desks. -/
structure Desk.Unchanged (before after : Desk) : Prop where
  listed : after.listed = before.listed
  file : after.file = before.file
  secrets : ∀ key, after.secrets.get? key = before.secrets.get? key

namespace Outages

variable (outages : Outages) (path : String) (desk : Desk) (account : Account) (token : String)

/-- An addition gets as far as storing the token. -/
def Binds : Prop :=
  admission desk.listed account = .ok () ∧ outages.secrets desk.secretCalls = none

def leftByAddition : Option ByteArray :=
  outages.leftBySave (desk.saves + 1) desk.file
    (AccountDocument.print (desk.listed ++ [account])).toUTF8

theorem failed_before_binding (unbound : ¬outages.Binds desk account) :
    desk.Unchanged (((outages.register path).add account token).run desk).2 := by
  rw [run_add]
  cases admitted : admission desk.listed account with
  | error failure => exact ⟨rfl, rfl, fun _ => rfl⟩
  | ok _ =>
    cases forced : outages.secrets desk.secretCalls with
    | some failure => exact ⟨rfl, rfl, fun _ => rfl⟩
    | none => exact absurd ⟨admitted, forced⟩ unbound

theorem failed_after_binding (bound : outages.Binds desk account)
    (erasable : outages.secrets (desk.secretCalls + 1) = none) (failure : Failure)
    (failed : (((outages.register path).add account token).run desk).1 = .error failure) :
    let after := (((outages.register path).add account token).run desk).2
    after.listed = desk.listed ∧ after.file = outages.leftByAddition desk account ∧
      ∀ key, after.secrets.get? key =
        if key = account.id.secretKey then none else desk.secrets.get? key := by
  obtain ⟨admitted, stored⟩ := bound
  rw [run_add, admitted, stored] at failed ⊢
  cases fault : outages.saveFault (desk.saves + 1) with
  | none =>
    rw [fault] at failed
    cases failed
  | some cause =>
    have erased : outages.secrets (outages.enlisted desk account token).secretCalls = none :=
      erasable
    dsimp only
    unfold undone
    rw [erased]
    refine ⟨rfl, rfl, ?_⟩
    intro key
    change ((desk.secrets.put account.id.secretKey (some token)).put account.id.secretKey
      none).get? key = _
    rw [SecretTable.get?_put, SecretTable.get?_put]
    split <;> rfl

/-- A failed addition changes nothing at all exactly if it fails before its token is stored, or
there was no secret under the key of the account and the save leaves the file as it was. -/
theorem failed_add_unchanged_iff (failure : Failure)
    (failed : (((outages.register path).add account token).run desk).1 = .error failure)
    (erasable : outages.secrets (desk.secretCalls + 1) = none) :
    desk.Unchanged (((outages.register path).add account token).run desk).2 ↔
      (outages.Binds desk account → desk.secrets.get? account.id.secretKey = none ∧
        outages.leftByAddition desk account = desk.file) := by
  constructor
  · intro unchanged bound
    obtain ⟨_, file, secrets⟩ :=
      outages.failed_after_binding path desk account token bound erasable failure failed
    have erased := secrets account.id.secretKey
    rw [if_pos rfl, unchanged.secrets] at erased
    exact ⟨erased, file.symm.trans unchanged.file⟩
  · intro restored
    by_cases bound : outages.Binds desk account
    · obtain ⟨absent, kept⟩ := restored bound
      obtain ⟨listed, file, secrets⟩ :=
        outages.failed_after_binding path desk account token bound erasable failure failed
      refine ⟨listed, file.trans kept, ?_⟩
      intro key
      rw [secrets]
      split
      · rename_i same
        rw [same, absent]
      · rfl
    · exact outages.failed_before_binding path desk account token bound

end Outages

/-! ## A secret that is lost -/

/-- Writes find a directory in the place of the state file. -/
def Outages.directoryInPlace : Outages where
  secrets _ := none
  directory _ := none
  write _ := some (.isADirectory, id)
  mode _ := none

/-- An account for which there is a secret already, though no account is listed. -/
def Account.unlisted : Account :=
  ⟨⟨.random 0⟩, "alice", .default⟩

def Desk.holdingSecret : Desk :=
  { secrets := { entries := [(Account.unlisted.id.secretKey, "old")] } }

theorem add_in_place_of_directory :
    (((Outages.directoryInPlace.register "accounts.toml").add .unlisted "new").run
      .holdingSecret).1 = .error (.account (.stateFile (.write .isADirectory))) := by
  rw [Outages.run_add]
  rfl

theorem failed_add_unchanged_iff_in_place_of_directory :
    let register := Outages.directoryInPlace.register "accounts.toml"
    let ended := (register.add .unlisted "new").run .holdingSecret
    ended.1 = .error (.account (.stateFile (.write .isADirectory))) ∧
      (Desk.holdingSecret.Unchanged ended.2 ↔
        (Outages.directoryInPlace.Binds .holdingSecret .unlisted →
          Desk.holdingSecret.secrets.get? Account.unlisted.id.secretKey = none ∧
            Outages.directoryInPlace.leftByAddition .holdingSecret .unlisted =
              Desk.holdingSecret.file)) :=
  ⟨add_in_place_of_directory,
    Outages.failed_add_unchanged_iff _ _ _ _ _ _ add_in_place_of_directory rfl⟩

/-- The addition fails, and the secret that was there before is gone. -/
theorem failed_add_loses_secret :
    let register := Outages.directoryInPlace.register "accounts.toml"
    let ended := (register.add .unlisted "new").run .holdingSecret
    ended.1 = .error (.account (.stateFile (.write .isADirectory))) ∧
      Desk.holdingSecret.secrets.get? Account.unlisted.id.secretKey = some "old" ∧
      ended.2.secrets.get? Account.unlisted.id.secretKey = none ∧
      ¬Desk.holdingSecret.Unchanged ended.2 := by
  intro register ended
  have present : Desk.holdingSecret.secrets.get? Account.unlisted.id.secretKey = some "old" := by
    simp [Desk.holdingSecret, SecretTable.get?]
  obtain ⟨_, _, secrets⟩ := Outages.failed_after_binding .directoryInPlace "accounts.toml"
    .holdingSecret .unlisted "new" ⟨rfl, rfl⟩ rfl _ add_in_place_of_directory
  have lost : ended.2.secrets.get? Account.unlisted.id.secretKey = none := by
    rw [secrets, if_pos rfl]
  refine ⟨add_in_place_of_directory, present, lost, ?_⟩
  intro unchanged
  rw [unchanged.secrets, present] at lost
  cases lost

end AccountKeeper
