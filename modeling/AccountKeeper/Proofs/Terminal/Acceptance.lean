import AccountKeeper.Proofs.Terminal.Refusal
import AccountKeeper.Proofs.Terminal.Report

/-!
# Logins that come about

Where a server can be asked, there is something to type and something to answer
that a login form accepts: a network that gives every request the same login,
and a person who types a new token.
-/

set_option autoImplicit false

namespace AccountKeeper

/-- A reply that reports a login. -/
def helpfulReply : HttpReply where
  status := 200
  location := none
  body := some "\x7b\"login\":\"a\"\x7d".toUTF8.toList

theorem verdict_helpful (server : ServerAddress) :
    Identity.verdict server (.ok helpfulReply) = .ok "a" := by
  have read : (helpfulReply.body.bind JsonValue.read).bind Identity.login? = some "a" := by
    decide +kernel
  unfold Identity.verdict
  dsimp only
  rw [if_pos (by rfl), read]
  rfl

namespace Workstation

/-- A network that reports the same login whoever asks. -/
def helpful : Replies := fun _ _ => (.answered helpfulReply, 0)

section At

variable {shelf : Shelf} {typed : List Typed} {station : Workstation}

/-! ## Checks -/

section Checks

variable (here : station.At shelf typed) (client : LookupClient) (server : ServerAddress)
  (token : String)

include here

theorem At.exchange :
    let ended := StateT.run (Identity.exchange (network helpful) client server token) station
    ended.2.At shelf typed ∧
      ((∃ fault, ended.1 = (.error fault, 0)) ∨ ended.1 = (.ok helpfulReply, 0)) ∧
      ∀ request, Identity.request? client server token = .ok request →
        HttpRequest.isUsable request.url = true → ended.1 = (.ok helpfulReply, 0) := by
  intro ended
  simp only [ended]
  unfold Identity.exchange
  cases Identity.request? client server token with
  | error fault =>
    refine ⟨here, .inl ⟨fault, rfl⟩, ?_⟩
    intro request made
    cases made
  | ok request =>
    dsimp only
    cases usable : HttpRequest.isUsable request.url with
    | false =>
      rw [(network helpful).fetch_unusable _ request station usable]
      refine ⟨here, .inl ⟨_, rfl⟩, ?_⟩
      rintro _ ⟨⟩ usable'
      rw [usable] at usable'
      cases usable'
    | true =>
      rw [(network helpful).fetch_answered _ request station usable helpfulReply 0
        { station with requests := station.requests + 1 } rfl rfl]
      exact ⟨⟨here.shelf, here.typed, here.attended⟩, .inr rfl, fun _ _ _ => rfl⟩

theorem At.lookup :
    let ended := StateT.run (Identity.lookup (network helpful) client server token) station
    ended.2.At shelf typed ∧
      ((∃ failure, ended.1 = (.error failure, 0)) ∨ ended.1 = (.ok "a", 0)) ∧
      ∀ request, Identity.request? client server token = .ok request →
        HttpRequest.isUsable request.url = true → ended.1 = (.ok "a", 0) := by
  intro ended
  obtain ⟨there, outcome, answered⟩ := (here.record
    ⟨.identity, .debug, "Resolving identity at " ++ Identity.address server⟩).exchange client server
      token
  simp only [ended]
  rw [Identity.run_lookup]
  dsimp only
  rcases outcome with ⟨fault, failed⟩ | replied
  · rw [failed]
    refine ⟨there, .inl ⟨_, rfl⟩, ?_⟩
    intro request made usable
    have replied := answered request made usable
    rw [failed] at replied
    cases replied
  · rw [replied]
    dsimp only
    rw [verdict_helpful]
    exact ⟨there.record _, .inr rfl, fun _ _ _ => rfl⟩

omit here in
theorem run_validate_immediate {answer : Except LookupFailure String} {running : Workstation}
    (looked : StateT.run (Identity.lookup (network helpful) client server token)
      (station.emitting (.aside (validationTitle ++ "... (Ctrl-C to cancel) "))) =
        ((answer, 0), running)) :
    StateT.run ((Identity.resolver (network helpful) client).validate .interactive
      (Terminal.indicator.on terminalPart) server token) station =
      (answer, running.emitting (.aside "done\n")) := by
  have started : StateT.run ((Identity.resolver (network helpful) client).lookup server token)
      (station.emitting (.aside (validationTitle ++ "... (Ctrl-C to cancel) "))) =
      (⟨.value answer, 0⟩, running) := by
    unfold Identity.resolver
    rw [ActionE.run_state_bind, looked]
    rfl
  have quiet := Terminal.run_moves running.terminal 0
  rw [if_neg (by simp)] at quiet
  have moves : StateT.run ((Terminal.indicator.on terminalPart).moves 0) running =
      ([.taskEnds, .poll], running) := by
    change ((StateT.run (Terminal.indicator.moves 0) running.terminal).1,
      { running with terminal := (StateT.run (Terminal.indicator.moves 0) running.terminal).2 }) = _
    rw [quiet]
  rw [(Identity.resolver (network helpful) client).run_validate
    (Terminal.indicator.on terminalPart) server token station _ running running
    ⟨.value answer, 0⟩ _ rfl started moves, if_neg (by simp [Wait.cancelledDuring])]
  rfl

/-- A check gives the one login, or it fails; it does not fail if it can be made. -/
theorem At.validate :
    let ended := StateT.run ((Identity.resolver (network helpful) client).validate .interactive
      (Terminal.indicator.on terminalPart) server token) station
    ended.2.At shelf typed ∧
      ((∃ failure, ended.1 = .error failure) ∨ ended.1 = .ok "a") ∧
      ∀ request, Identity.request? client server token = .ok request →
        HttpRequest.isUsable request.url = true → ended.1 = .ok "a" := by
  intro ended
  have lookup := (here.emit
    (.aside (validationTitle ++ "... (Ctrl-C to cancel) "))).lookup client server token
  rcases looked : StateT.run (Identity.lookup (network helpful) client server token)
    (station.emitting (.aside (validationTitle ++ "... (Ctrl-C to cancel) "))) with
    ⟨⟨answer, duration⟩, running⟩
  simp only [looked] at lookup
  obtain ⟨there, outcome, answered⟩ := lookup
  rcases outcome with ⟨failure, failed⟩ | found
  · cases failed
    rw [show ended = _ from run_validate_immediate client server token looked]
    refine ⟨there.emit _, .inl ⟨failure, rfl⟩, ?_⟩
    intro request made usable
    cases answered request made usable
  · cases found
    rw [show ended = _ from run_validate_immediate client server token looked]
    exact ⟨there.emit _, .inr rfl, fun _ _ _ => rfl⟩

end Checks

/-! ## Forms -/

/-- What a person types who wants to use a new token and not the stored one. -/
def newToken : Option String → List Typed
  | none => [.line "x"]
  | some _ => [.line "", .line "x"]

def login (client : LookupClient) : TerminalLogin Workstation :=
  ⟨terminalPart, Identity.resolver (network helpful) client⟩

section Forms

variable (client : LookupClient) {server : ServerAddress} (request : LoginRequest)

theorem At.nextToken {stored : Option String} (here : station.At shelf (newToken stored)) :
    let ended := StateT.run ((login client).nextToken stored) station
    ended.1 = some "x" ∧ ended.2.At shelf [] := by
  intro ended
  obtain ⟨⟨attended, pending, output, filter⟩, kept, password, requests, draws⟩ := station
  obtain ⟨rfl, typed, rfl⟩ := here
  dsimp only at typed
  subst typed
  cases stored with
  | none => exact ⟨rfl, rfl, rfl, rfl⟩
  | some token => exact ⟨rfl, rfl, rfl, rfl⟩

theorem At.say (here : station.At shelf typed) (text : String) :
    (StateT.run ((login client).say text) station).2.At shelf typed :=
  here.emit (.aside (text ++ "\n"))

theorem At.introduce (here : station.At shelf typed) :
    (StateT.run ((login client).introduce server request) station).2.At shelf typed := by
  unfold TerminalLogin.introduce
  cases request.message <;> cases request.login <;> cases request.error
  all_goals
    simp only [ActionE.run_state_bind, ActionE.run_state_pure]
    repeat apply At.say
    exact here

/-- The new token is typed at the first question and accepted at the first check. -/
theorem At.checkTokens (askable : Identity.Askable client server) (limit : Nat)
    {stored : Option String} (here : station.At shelf (newToken stored)) :
    let ended := StateT.run ((login client).checkTokens server (limit + 1) stored) station
    ended.1 = some ⟨"a", server, "x"⟩ ∧ ended.2.At shelf [] := by
  intro ended
  have next := here.nextToken client
  rcases asked : StateT.run ((login client).nextToken stored) station with ⟨token, asking⟩
  simp only [asked] at next
  obtain ⟨rfl, there⟩ := next
  have check := there.validate client server "x"
  rcases checked : StateT.run ((Identity.resolver (network helpful) client).validate .interactive
    (Terminal.indicator.on terminalPart) server "x") asking with ⟨verdict, after⟩
  simp only [checked] at check
  obtain ⟨later, -, answered⟩ := check
  obtain ⟨request, made, usable⟩ := askable.request "x" (by simp [isHeaderText])
  cases answered request made usable
  rw [show ended = _ from (login client).run_checkTokens_ok server limit asked checked]
  exact ⟨rfl, later⟩

theorem At.ask (place : ServerAddress.read request.server = .ok server)
    (askable : Identity.Askable client server)
    (here : station.At shelf (newToken (TerminalLogin.retryable request))) :
    let ended := StateT.run ((login client).ask request) station
    ended.1 = some ⟨"a", server, "x"⟩ ∧ ended.2.At shelf [] := by
  intro ended
  have ran : ended = _ := (login client).run_ask request station
  rw [ran, if_pos (show ((login client).terminal.get station).attended = true from here.attended),
    place]
  exact (here.introduce client request).checkTokens client askable _

theorem At.decideForm (place : ServerAddress.read request.server = .ok server)
    (askable : Identity.Askable client server)
    (here : station.At shelf (newToken (TerminalLogin.retryable request))) :
    let ended := StateT.run ((login client).prompt.decide request) station
    ended.1 = .register "a" server "x" ∧ ended.2.At shelf [] := by
  intro ended
  obtain ⟨confirmed, there⟩ := (here.record
    ⟨.reauth, .debug, "Requesting credentials for " ++ request.server⟩).ask client request place
      askable
  have ran : ended = _ := (login client).prompt.run_decide request station
  rw [ran]
  dsimp only
  rw [show (StateT.run ((login client).prompt.ask request) _).1 = _ from confirmed]
  exact ⟨rfl, there.record _⟩

end Forms

/-! ## Decisions -/

/-- What a person types who uses a new token where one is asked for. -/
def answers (old : LegacyCredential) : List Typed :=
  match old.authMode with
  | .token => newToken old.secret
  | _ => newToken none

section Decisions

variable {migration : Migration Workstation} {client : LookupClient}
  (asks : migration.resolver = Identity.resolver (network helpful) client)
  {server : ServerAddress} (askable : Identity.Askable client server)

include asks askable

theorem At.decidePrompt (request : LoginRequest)
    (place : ServerAddress.read request.server = .ok server)
    (here : station.At shelf (newToken (TerminalLogin.retryable request))) :
    let ended := StateT.run ((migration.atTerminal terminalPart).prompt.decide request) station
    ended.1 = .register "a" server "x" ∧ ended.2.At shelf [] := by
  have form := here.decideForm client request place askable
  unfold Migration.atTerminal
  rw [asks]
  exact form

/-- A stored token that can be checked is accepted; otherwise a new one is typed. -/
theorem At.decideToken (host token : String) (place : ServerAddress.read host = .ok server)
    (here : station.At shelf (newToken (some token))) :
    let ended := StateT.run (migration.decideToken (migration.atTerminal terminalPart) host token)
      station
    ∃ chosen left, ended.1 = .register "a" server chosen ∧ ended.2.At shelf left := by
  intro ended
  let begun : Workstation := Journal.record ⟨.migration, .debug, "Migrating token auth"⟩ station
  have check := (here.record ⟨.migration, .debug, "Migrating token auth"⟩).validate client server
    token
  rw [← asks] at check
  rcases checked : StateT.run (migration.resolver.validate .interactive
    (Terminal.indicator.on terminalPart) server token) begun with ⟨verdict, after⟩
  simp only [begun] at checked
  simp only [checked] at check
  obtain ⟨there, outcome, -⟩ := check
  have resolved := migration.run_resolve_valid begun place checked
  rcases outcome with ⟨failure, rfl⟩ | rfl
  · have form := (there.record ⟨.migration, .debug,
      "Failed to migrate legacy token, asking the user: " ++ failure.message⟩).decidePrompt asks
        askable (.afterFailedLookup host token failure) place
    rw [show ended = _ from Migration.run_decideToken_error resolved]
    exact ⟨"x", [], form⟩
  · rw [show ended = _ from Migration.run_decideToken_ok resolved]
    exact ⟨token, _, rfl, there⟩

theorem At.decide {old : LegacyCredential} (place : ServerAddress.readHost old.host = .ok server)
    (needs : old.NeedsServer) (here : station.At shelf (answers old)) :
    let ended := StateT.run (migration.decide (migration.atTerminal terminalPart) old) station
    ∃ chosen left, ended.1 = .register "a" server chosen ∧ ended.2.At shelf left := by
  intro ended
  unfold LegacyCredential.NeedsServer at needs
  unfold answers at here
  cases mode : old.authMode with
  | none =>
    rw [mode] at needs
    exact needs.elim
  | basic =>
    rw [mode] at here
    rw [show ended = _ from Migration.run_decide_basic mode]
    exact ⟨"x", [], (here.record _).decidePrompt asks askable
      (.forPasswordAccount old.hostOrDefault old.login old.secret) place⟩
  | token =>
    rw [mode] at needs here
    cases secret : old.secret with
    | none =>
      rw [secret] at needs
      cases needs
    | some token =>
      rw [secret] at here
      rw [show ended = _ from Migration.run_decide_token mode secret]
      exact here.decideToken asks askable old.hostOrDefault token place

end Decisions

end At

end Workstation

end AccountKeeper
