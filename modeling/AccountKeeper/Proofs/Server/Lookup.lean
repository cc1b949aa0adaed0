import AccountKeeper.Identity
import AccountKeeper.Proofs.Migration.Phases

/-!
# Servers that can be asked

A token can be checked with a server only if a request to it can be made and
sent.  Where none can, every lookup fails, whatever the network does; where one
can, a server that answers as servers do is believed.
-/

set_option autoImplicit false

namespace AccountKeeper

namespace Network

variable {σ : Type} (network : Network σ) (limit : Nat) (request : HttpRequest) (s : σ)

/-- A request is sent only if it can be used, and a reply that points nowhere else ends the
exchange. -/
theorem fetch_eq : ∃ next : HttpOutcome × Nat → StateM σ (Except HttpFault HttpReply × Nat),
    network.fetch limit request =
      (if (!HttpRequest.isUsable request.url) = true then
        pure (.error (.unusable request.url.display), 0)
      else network.send request >>= next) ∧
    ∀ reply duration, reply.redirection? request.url = none →
      next (.answered reply, duration) = pure (.ok reply, duration) := by
  cases limit with
  | zero =>
    refine ⟨?_, ?body, ?_⟩
    case body =>
      delta fetch
      rfl
    intro reply duration stays
    dsimp only
    rw [stays]
  | succ limit =>
    refine ⟨?_, ?body, ?_⟩
    case body =>
      delta fetch
      rfl
    intro reply duration stays
    dsimp only
    rw [stays]

theorem fetch_unusable (unusable : HttpRequest.isUsable request.url = false) :
    StateT.run (network.fetch limit request) s =
      ((.error (.unusable request.url.display), 0), s) := by
  obtain ⟨next, body, -⟩ := network.fetch_eq limit request
  rw [body, if_pos (by rw [unusable]; rfl)]
  rfl

theorem fetch_answered (usable : HttpRequest.isUsable request.url = true) (reply : HttpReply)
    (duration : Nat) (after : σ)
    (sent : StateT.run (network.send request) s = ((.answered reply, duration), after))
    (here : reply.location = none) :
    StateT.run (network.fetch limit request) s = ((.ok reply, duration), after) := by
  obtain ⟨next, body, ends⟩ := network.fetch_eq limit request
  have stays : reply.redirection? request.url = none := by
    unfold HttpReply.redirection?
    rw [here]
  rw [body, if_neg (by simp [usable]), ActionE.run_state_bind, sent, ends reply duration stays]
  rfl

end Network

namespace Identity

/-- Some token can be sent to a server. -/
def Askable (client : LookupClient) (server : ServerAddress) : Prop :=
  ∃ secret request, request? client server secret = .ok request ∧
    HttpRequest.isUsable request.url = true

variable {client : LookupClient} {server : ServerAddress}

/-- A server that can be asked about one token can be asked about all that fit into a header. -/
theorem Askable.request (askable : Askable client server) (secret : String)
    (plain : isHeaderText secret = true) :
    ∃ request, request? client server secret = .ok request ∧
      HttpRequest.isUsable request.url = true := by
  obtain ⟨other, request, made, usable⟩ := askable
  unfold request? at made ⊢
  cases parsed : Url.parse (address server) with
  | none =>
    rw [parsed] at made
    cases made
  | some url =>
    rw [parsed] at made
    dsimp only at made ⊢
    by_cases agent : isHeaderText client.userAgent = true
    · rw [if_pos ⟨plain, agent⟩]
      split at made
      · cases login : url.login? with
        | none =>
          rw [login] at made
          cases made
          exact ⟨_, rfl, usable⟩
        | some credentials =>
          rw [login] at made
          cases made
          exact ⟨_, rfl, usable⟩
      · cases made
    · rw [if_neg fun both => agent both.2] at made
      cases made

variable {σ : Type} [Journal σ] (network : Network σ)

/-- What comes back for a lookup, and after how long; a request that cannot be made fails at
once. -/
def exchange (client : LookupClient) (server : ServerAddress) (secret : String) :
    StateM σ (Except HttpFault HttpReply × Nat) :=
  match request? client server secret with
  | .error fault => return (.error fault, 0)
  | .ok request => network.fetch redirectionLimit request

theorem run_lookup (secret : String) (s : σ) :
    let exchanged := StateT.run (exchange network client server secret)
      (Journal.record ⟨.identity, .debug, "Resolving identity at " ++ address server⟩ s)
    StateT.run (lookup network client server secret) s =
      ((verdict server exchanged.1.1, exchanged.1.2),
        match verdict server exchanged.1.1 with
        | .ok login => Journal.record
          ⟨.identity, .debug, "Token on " ++ server.display ++ " belongs to " ++ login⟩ exchanged.2
        | .error _ => exchanged.2) := by
  intro exchanged
  have ran : StateT.run (lookup network client server secret) s =
      StateT.run (match verdict server exchanged.1.1 with
        | .ok login => do
          Journal.debug .identity ("Token on " ++ server.display ++ " belongs to " ++ login)
          return (verdict server exchanged.1.1, exchanged.1.2)
        | .error _ => return (verdict server exchanged.1.1, exchanged.1.2)) exchanged.2 := by
    simp only [exchanged, exchange]
    unfold lookup
    cases request? client server secret with
    | error fault => rfl
    | ok request => rfl
  rw [ran]
  cases verdict server exchanged.1.1 with
  | error failure => rfl
  | ok login => rfl

theorem lookup_unaskable (unaskable : ¬Askable client server) (secret : String) (s : σ) :
    ∃ failure, (StateT.run (lookup network client server secret) s).1.1 = .error failure := by
  rw [run_lookup]
  dsimp only
  unfold exchange
  cases made : request? client server secret with
  | error fault => exact ⟨exchangeFailure server fault, rfl⟩
  | ok request =>
    have unusable : HttpRequest.isUsable request.url = false := by
      rw [← Bool.not_eq_true]
      intro usable
      exact unaskable ⟨secret, request, made, usable⟩
    dsimp only
    rw [network.fetch_unusable _ _ _ unusable]
    exact ⟨_, rfl⟩

end Identity

theorem Resolver.validate_error {σ : Type} [Journal σ] (resolver : Resolver σ)
    (indicator : Indicator σ) (server : ServerAddress) (token : String)
    (fails : ∀ s, ∃ failure duration,
      (StateT.run (resolver.lookup server token) s).1 = ⟨.value (.error failure), duration⟩)
    (s : σ) :
    ∃ failure, (StateT.run (resolver.validate .interactive indicator server token) s).1 =
      .error failure := by
  obtain ⟨failure, duration, answer⟩ :=
    fails (StateT.run (indicator.start validationTitle) s).2
  rw [resolver.run_validate indicator server token s _ _ _ _ _ rfl (Prod.ext answer rfl) rfl]
  split
  · exact ⟨_, rfl⟩
  · exact ⟨failure, rfl⟩

namespace Identity

variable {σ : Type} [Journal σ] (network : Network σ) {client : LookupClient}
  {server : ServerAddress}

theorem validate_unaskable (unaskable : ¬Askable client server) (indicator : Indicator σ)
    (token : String) (s : σ) :
    ∃ failure, (StateT.run ((resolver network client).validate .interactive indicator server token)
      s).1 = .error failure := by
  have fails : ∀ s, ∃ failure duration,
      (StateT.run ((resolver network client).lookup server token) s).1 =
        ⟨.value (.error failure), duration⟩ := by
    intro s
    obtain ⟨failure, answer⟩ := lookup_unaskable network unaskable token s
    rcases looked : StateT.run (lookup network client server token) s with
      ⟨⟨result, duration⟩, after⟩
    rw [looked] at answer
    cases answer
    refine ⟨failure, duration, ?_⟩
    unfold resolver
    rw [ActionE.run_state_bind, looked]
    rfl
  exact (resolver network client).validate_error indicator server token fails s

end Identity

end AccountKeeper
