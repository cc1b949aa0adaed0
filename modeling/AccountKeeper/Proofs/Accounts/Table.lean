import AccountKeeper.Accounts.Table
import AccountKeeper.Proofs.Action

/-!
# Additions to accounts in memory

`AccountTable.grown` is the table after an addition, or the reason for which
the addition is refused.  A refused addition leaves the table as it is.
-/

set_option autoImplicit false

namespace AccountKeeper.AccountTable

def grown (table : AccountTable) (account : Account) (token : String) :
    Except Failure AccountTable :=
  match table.requireWritable, Login.require account.login with
  | .error failure, _ => .error failure
  | .ok (), .error failure => .error failure
  | .ok (), .ok () =>
    if table.hasIdentity account.login account.server then
      .error (.account (.duplicate account.login account.server.display))
    else .ok { table with entries := table.entries ++ [(account, token)] }

theorem run_add (table : AccountTable) (account : Account) (token : String) :
    (add account token).run table =
      match table.grown account token with
      | .ok grown => (.ok (), grown)
      | .error failure => (.error failure, table) := by
  unfold add grown
  simp only [ActionE.run_bind, ActionE.run_get, ActionE.run_ofExcept]
  cases table.requireWritable with
  | error failure => rfl
  | ok _ =>
    cases Login.require account.login with
    | error failure => rfl
    | ok _ =>
      by_cases known : table.hasIdentity account.login account.server = true
      · simp [known]
      · simp [known]

theorem grown_eq_ok (table after : AccountTable) (account : Account) (token : String)
    (accepted : table.grown account token = .ok after) :
    Login.require account.login = .ok () ∧
      after = { table with entries := table.entries ++ [(account, token)] } := by
  unfold grown at accepted
  split at accepted
  · cases accepted
  · cases accepted
  · rename_i proper
    split at accepted
    · cases accepted
    · cases accepted
      exact ⟨proper, rfl⟩

/-- A table that may be written and is empty refuses nothing but texts that are no logins. -/
theorem grown_of_empty (account : Account) (token : String) :
    grown {} account token =
      (Login.require account.login).map fun _ => { entries := [(account, token)] } := by
  unfold grown
  cases Login.require account.login <;> rfl

end AccountKeeper.AccountTable
