import AccountKeeper.Proofs.Server.Lookup
import AccountKeeper.Proofs.Terminal.Talk

/-!
# Logins that never come about

A login form reads the address it is shown for, and it only gives a login that
the server at this address reports.  Where the address cannot be read, or where
the server cannot be asked, every form is left without a login, whatever is
typed and whatever the network does, and a migration that needs the form is
cancelled.
-/

set_option autoImplicit false

namespace AccountKeeper

variable {σ : Type} [Journal σ]

/-- Every check with a server fails. -/
def Resolver.Refuses (resolver : Resolver σ) (indicator : Indicator σ) (server : ServerAddress) :
    Prop :=
  ∀ token s, ∃ failure, (StateT.run (resolver.validate .interactive indicator server token) s).1 =
    .error failure

namespace TerminalLogin

variable (login : TerminalLogin σ) (server : ServerAddress) (request : LoginRequest)

/-- Each check that fails leads to the next question, and none of them ends with a login. -/
theorem checkTokens_refused
    (refuses : login.resolver.Refuses (Terminal.indicator.on login.terminal) server)
    (limit : Nat) (stored : Option String) (s : σ) :
    (StateT.run (login.checkTokens server limit stored) s).1 = none := by
  induction limit generalizing stored s with
  | zero => rfl
  | succ limit ih =>
    rcases next : StateT.run (login.nextToken stored) s with ⟨came, asked⟩
    cases came with
    | none => rw [login.run_checkTokens_none server limit next]
    | some token =>
      obtain ⟨failure, failed⟩ := refuses token asked
      rw [login.run_checkTokens_error server limit next (Prod.ext failed rfl)]
      exact ih none _

theorem ask_refused
    (refuses : ∀ server, ServerAddress.read request.server = .ok server →
      login.resolver.Refuses (Terminal.indicator.on login.terminal) server)
    (s : σ) :
    (StateT.run (login.ask request) s).1 = none := by
  rw [run_ask]
  split
  · cases address : ServerAddress.read request.server with
    | error failure => rfl
    | ok server => exact login.checkTokens_refused server (refuses server address) _ _ _
  · rfl

theorem decide_refused
    (refuses : ∀ server, ServerAddress.read request.server = .ok server →
      login.resolver.Refuses (Terminal.indicator.on login.terminal) server)
    (s : σ) :
    (StateT.run (login.prompt.decide request) s).1 = .cancelled := by
  have refused := login.ask_refused request refuses
    (Journal.record ⟨.reauth, .debug, "Requesting credentials for " ++ request.server⟩ s)
  rw [LoginPrompt.run_decide]
  dsimp only
  rw [show (StateT.run (login.prompt.ask request) _).1 = none from refused]
  rfl

end TerminalLogin

namespace LegacyCredential

/-- Whether a token is needed that the server has a login for. -/
def NeedsServer (old : LegacyCredential) : Prop :=
  match old.authMode with
  | .none => False
  | .basic => True
  | .token => old.secret.isSome

end LegacyCredential

namespace Migration

variable (migration : Migration σ) (terminal : Part σ Terminal) (old : LegacyCredential)

/-- A token whose lookup fails is asked for in a form, which fails for the same reason. -/
theorem decideToken_refused (host token : String)
    (refuses : ∀ server, ServerAddress.read host = .ok server →
      migration.resolver.Refuses (Terminal.indicator.on terminal) server)
    (s : σ) :
    (StateT.run (migration.decideToken (migration.atTerminal terminal) host token) s).1 =
      .cancelled := by
  let begun := Journal.record ⟨.migration, .debug, "Migrating token auth"⟩ s
  have unresolved : ∃ failure, (StateT.run (migration.resolve
      (migration.atTerminal terminal).indicator host token) begun).1 = .error failure := by
    rw [run_resolve]
    cases address : ServerAddress.readHost (some host) with
    | error failure => exact ⟨_, rfl⟩
    | ok server =>
      obtain ⟨failure, failed⟩ := refuses server address token begun
      refine ⟨failure, ?_⟩
      dsimp only
      rw [show (StateT.run (migration.resolver.validate .interactive
        (migration.atTerminal terminal).indicator server token) begun).1 = _ from failed]
      rfl
  obtain ⟨failure, failed⟩ := unresolved
  rw [run_decideToken_error (Prod.ext failed rfl)]
  exact TerminalLogin.decide_refused ⟨terminal, migration.resolver⟩
    (.afterFailedLookup host token failure) refuses _

theorem decide_refused (needs : old.NeedsServer)
    (refuses : ∀ server, ServerAddress.readHost old.host = .ok server →
      migration.resolver.Refuses (Terminal.indicator.on terminal) server)
    (s : σ) :
    (StateT.run (migration.decide (migration.atTerminal terminal) old) s).1 = .cancelled := by
  unfold LegacyCredential.NeedsServer at needs
  cases mode : old.authMode with
  | none =>
    rw [mode] at needs
    exact needs.elim
  | basic =>
    rw [run_decide_basic mode]
    exact TerminalLogin.decide_refused ⟨terminal, migration.resolver⟩
      (.forPasswordAccount old.hostOrDefault old.login old.secret) refuses _
  | token =>
    rw [mode] at needs
    cases secret : old.secret with
    | none =>
      rw [secret] at needs
      cases needs
    | some token =>
      rw [run_decide_token mode secret]
      exact migration.decideToken_refused terminal old.hostOrDefault token refuses s

end Migration

end AccountKeeper
