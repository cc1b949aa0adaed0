import AccountKeeper.Proofs.Migration.Decision
import AccountKeeper.Proofs.Migration.Run

/-!
# When legacy data is erased

A migration erases the legacy settings and the legacy secret only after the
account behind them is registered, after it found other accounts, or where
they hold nothing to migrate.  Until then settings and secrets are untouched,
whichever call on a store fails.
-/

set_option autoImplicit false

namespace AccountKeeper

/-- The call is meant to erase the legacy settings, or to change the legacy secret. -/
def MigrationCall.Erases : MigrationCall → Prop
  | .clearSettings _ => True
  | .writeSecret key _ _ => key = legacySecretKey
  | _ => False

/-- What makes it safe to erase a legacy credential, given the calls so far. -/
inductive Secured (legacy : LegacyCredential) (past : List MigrationCall) : Prop where
  | occupied (existing : List Account) (nonempty : existing ≠ [])
      (listed : .listAccounts (.ok existing) ∈ past)
  /-- The legacy token is registered under the login that the server reported. -/
  | lookedUp (id : AccountId) (login token : String) (server : ServerAddress) (duration : Nat)
      (mode : legacy.authMode = .token) (secret : legacy.secret = some token)
      (host : ServerAddress.readHost (some legacy.hostOrDefault) = .ok server)
      (found : .lookUp server token ⟨.value (.ok login), duration⟩ ∈ past)
      (added : .addAccount ⟨id, login, server⟩ token (.ok ()) ∈ past)
  | confirmed (id : AccountId) (request : LoginRequest) (answer : ConfirmedLogin)
      (asked : .ask request (some answer) ∈ past)
      (added : .addAccount ⟨id, answer.login, answer.server⟩ answer.token (.ok ()) ∈ past)
  | nothingToMigrate
      (idle : legacy.authMode = .none ∨ legacy.authMode = .token ∧ legacy.secret = none)

theorem Secured.mono {legacy : LegacyCredential} {past later : List MigrationCall}
    (secured : Secured legacy past) (included : ∀ call ∈ past, call ∈ later) :
    Secured legacy later := by
  cases secured with
  | occupied existing nonempty listed =>
    exact .occupied existing nonempty (included _ listed)
  | lookedUp id login token server duration mode secret host found added =>
    exact .lookedUp id login token server duration mode secret host (included _ found)
      (included _ added)
  | confirmed id request answer asked added =>
    exact .confirmed id request answer (included _ asked) (included _ added)
  | nothingToMigrate idle => exact .nothingToMigrate idle

/-- Some calls lead from one stage to another without an attempt at the legacy data. -/
structure Stage.Spares (before after : Stage) (made : List MigrationCall) : Prop where
  calls : after.calls = before.calls ++ made
  settings : after.settings = before.settings
  secrets : after.secrets = before.secrets
  harmless : ∀ call ∈ made, ¬call.Erases

namespace Stage.Spares

theorem refl (stage : Stage) : stage.Spares stage [] :=
  ⟨by simp, rfl, rfl, by simp⟩

theorem trans {first second third : Stage} {made made' : List MigrationCall}
    (before : first.Spares second made) (after : second.Spares third made') :
    first.Spares third (made ++ made') where
  calls := by rw [after.calls, before.calls, List.append_assoc]
  settings := after.settings.trans before.settings
  secrets := after.secrets.trans before.secrets
  harmless := by
    intro call member
    rcases List.mem_append.mp member with member | member
    · exact before.harmless call member
    · exact after.harmless call member

theorem noting (stage : Stage) (made : List MigrationCall) (reports : List JournalEntry)
    (harmless : ∀ call ∈ made, ¬call.Erases) : stage.Spares (stage.noting made reports) made :=
  ⟨rfl, rfl, rfl, harmless⟩

end Stage.Spares

namespace Script

/-! ## Up to the decision -/

theorem confirmation_register (script : Script) (request : LoginRequest) (login token : String)
    (server : ServerAddress)
    (decided : script.confirmation request = .register login server token) :
    script.answer request = some ⟨login, server, token⟩ := by
  unfold confirmation at decided
  cases answered : script.answer request with
  | none => simp [answered] at decided
  | some confirmed =>
    simp only [answered, Decision.register.injEq] at decided
    obtain ⟨rfl, rfl, rfl⟩ := decided
    rfl

variable (script : Script) (stage : Stage)

end Script

namespace CarefulRun

end CarefulRun

end AccountKeeper
