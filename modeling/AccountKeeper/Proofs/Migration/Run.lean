import AccountKeeper.Migration
import AccountKeeper.Proofs.Action

/-!
# The parts of a run

A run of a migration reads the credential, settles it where it holds
information, and concludes: unless the user cancelled, the legacy data is
cleared.  Clearing erases the settings first and the secret after them.
-/

set_option autoImplicit false

namespace AccountKeeper

variable {σ : Type} [Journal σ]

namespace Migration

def conclude (migration : Migration σ) : MigrationStep → Action σ MigrationOutcome
  | .cancelled => return { cancelled := true }
  | .registered account => do
    migration.legacy.clear
    return { account := some account, legacyCleared := true }
  | .nothingToMigrate => do
    migration.legacy.clear
    return { legacyCleared := true }

variable (migration : Migration σ) (interaction : Interaction σ) (s : σ)

theorem run_runtime : (migration.run .runtime interaction).run s = (.error .wrongThread, s) := rfl

theorem run_interactive :
    (migration.run .interactive interaction).run s =
      match migration.legacy.readSnapshot.run
          (Journal.record ⟨.migration, .debug, "Migrating legacy auth"⟩ s) with
      | (.error failure, read) => (.error failure, read)
      | (.ok legacy, read) =>
        let known := Journal.record
          ⟨.migration, .debug, "Legacy auth data: " ++ legacy.display⟩ read
        if legacy.hasAnyInfo then
          (migration.settle interaction legacy >>= migration.conclude).run known
        else (.ok {}, known) := by
  unfold run
  simp only [reduceCtorEq, if_false, ActionE.run_bind, Journal.run_debug]
  split
  · rename_i legacy read snapshot
    simp only [snapshot]
    cases informed : legacy.hasAnyInfo with
    | false => simp
    | true =>
      simp only [Bool.not_true, Bool.false_eq_true, if_false, if_true]
      rw [ActionE.run_bind]
      split
      · rename_i step settled ended
        cases step <;> rfl
      · rfl
  · rename_i snapshot
    rw [snapshot]

end Migration

namespace LegacyStore

variable (store : LegacyStore σ) (s : σ)

omit [Journal σ] in
theorem run_readSnapshot :
    store.readSnapshot.run s =
      match store.settings.read.run s with
      | (.error failure, read) => (.error failure, read)
      | (.ok settings, read) =>
        (((store.secrets.get legacySecretKey).run read).1.map (.ofParts settings),
          ((store.secrets.get legacySecretKey).run read).2) := by
  unfold readSnapshot
  rw [ActionE.run_bind]
  rcases store.settings.read.run s with ⟨answer, read⟩
  cases answer with
  | error failure => rfl
  | ok settings => simp

theorem run_clear :
    store.clear.run s =
      match store.settings.clear.run s with
      | (.error failure, cleared) => (.error failure, cleared)
      | (.ok (), cleared) =>
        match (store.secrets.set legacySecretKey none).run cleared with
        | (.error failure, erased) => (.error failure, erased)
        | (.ok (), erased) =>
          (.ok (), Journal.record
            ⟨.legacy, .debug, "Cleared legacy auth settings and secret"⟩ erased) := by
  unfold clear
  simp only [ActionE.run_bind, Journal.run_debug]
  rcases store.settings.clear.run s with ⟨answer, cleared⟩
  cases answer with
  | error failure => rfl
  | ok _ =>
    dsimp only
    rcases (store.secrets.set legacySecretKey none).run cleared with ⟨answer, erased⟩
    cases answer <;> rfl

end LegacyStore

end AccountKeeper
