import AccountKeeper.Proofs.Server.Classification

/-!
# Lookups that blame the server

A lookup may say that the address of the server is invalid.  Where the address
is well-formed it still says so of a token that fits into no header, and of
places on the way that cannot be asked (`server_blamed_iff`).
-/

set_option autoImplicit false

namespace AccountKeeper

/-- Making a request may be refused before anything is sent, sending it is not. -/
theorem Network.Ends.ne_unwritable {σ : Type} {network : Network σ} {limit : Nat}
    {request : HttpRequest} {s : σ} {outcome : Except HttpFault HttpReply}
    (ends : network.Ends limit request s outcome) : outcome ≠ .error .unwritable := by
  induction ends with
  | redirected _ _ _ _ ih => exact ih
  | _ => nofun

namespace Identity

def Blames (result : Except LookupFailure String) : Prop :=
  ∃ reason, result = .error (.invalidServer reason)

variable (server : ServerAddress)

theorem not_blames_of_status (status : Nat) : ¬Blames (.error (statusFailure server status)) := by
  rintro ⟨reason, blamed⟩
  unfold statusFailure at blamed
  split at blamed
  · cases blamed
  split at blamed
  · cases blamed
  split at blamed
  · cases blamed
  split at blamed <;> cases blamed

/-- The server is blamed for requests that cannot be made or sent, and never for a reply. -/
theorem verdict_blames_iff (outcome : Except HttpFault HttpReply) :
    Blames (verdict server outcome) ↔
      outcome = .error .unwritable ∨ ∃ place, outcome = .error (.unusable place) := by
  cases outcome with
  | error fault =>
    cases fault with
    | unwritable => exact iff_of_true ⟨_, rfl⟩ (.inl rfl)
    | unusable place => exact iff_of_true ⟨_, rfl⟩ (.inr ⟨place, rfl⟩)
    | _ => simp [Blames, verdict, exchangeFailure]
  | ok reply =>
    refine iff_of_false ?_ (by simp)
    cases success : reply.isSuccess with
    | false =>
      unfold verdict
      dsimp only
      rw [if_neg (by simp [success])]
      exact not_blames_of_status server reply.status
    | true =>
      cases arrived : reply.body with
      | none =>
        rw [verdict_of_broken server success arrived]
        rintro ⟨reason, blamed⟩
        cases blamed
      | some body =>
        rcases verdict_of_body server success arrived with
          ⟨login, -, answer⟩ | ⟨-, reason, answer⟩
        all_goals
          rw [answer]
          rintro ⟨reason, blamed⟩
          cases blamed

variable {server} {client : LookupClient} {secret : String} {url : Url}

/-- At a well-formed address a request cannot be made only because of what its headers say. -/
theorem request?_eq_error_iff (wellFormed : Url.parse (address server) = some url)
    (agent : isHeaderText client.userAgent = true) (fault : HttpFault) :
    request? client server secret = .error fault ↔
      isHeaderText secret = false ∧ fault = .unwritable := by
  cases plain : isHeaderText secret with
  | true =>
    rw [request?_of_parse wellFormed agent plain]
    simp
  | false =>
    unfold request?
    rw [wellFormed]
    dsimp only
    rw [if_neg (by simp [plain])]
    simp [eq_comm]

variable {σ : Type} [Journal σ] (network : Network σ) (secret)

/-- At a well-formed address the server is blamed exactly if the token fits into no header, or if
the exchange gets to a place that cannot be asked: the address itself or one that a redirection
leads to. -/
theorem server_blamed_iff (wellFormed : Url.parse (address server) = some url) (s : σ) :
    Blames (StateT.run (lookup network {} server secret) s).1.1 ↔
      isHeaderText secret = false ∨
        ∃ request place, request? {} server secret = .ok request ∧
          network.Ends redirectionLimit request (Journal.record
            ⟨.identity, .debug, "Resolving identity at " ++ address server⟩ s)
            (.error (.unusable place)) := by
  rw [run_lookup]
  dsimp only
  rw [verdict_blames_iff]
  have refused (fault : HttpFault) : request? {} server secret = .error fault ↔
      isHeaderText secret = false ∧ fault = .unwritable :=
    request?_eq_error_iff wellFormed isHeaderText_defaultUserAgent fault
  unfold exchange
  cases made : request? {} server secret with
  | error fault =>
    obtain ⟨unfit, rfl⟩ := (refused fault).mp made
    exact iff_of_true (.inl rfl) (.inl unfit)
  | ok request =>
    have fits : isHeaderText secret ≠ false := by
      intro unfit
      have never := (refused .unwritable).mpr ⟨unfit, rfl⟩
      rw [made] at never
      cases never
    have ends := network.fetch_ends redirectionLimit request (Journal.record
      ⟨.identity, .debug, "Resolving identity at " ++ address server⟩ s)
    constructor
    · rintro (unwritable | ⟨place, lost⟩)
      · exact absurd unwritable ends.ne_unwritable
      · exact .inr ⟨request, place, rfl, lost ▸ ends⟩
    · rintro (unfit | ⟨_, place, same, lost⟩)
      · exact absurd unfit fits
      · cases same
        exact .inr ⟨place, lost.outcome_eq.symm⟩

theorem parse_address_default : Url.parse (address .default) =
    some ⟨.https, "", none, .domain "api.github.com", none, ["user"], none, none⟩ :=
  ServerAddress.parse_public

/-- A token that fits, at a server that answers, is not blamed on it. -/
theorem server_blamed_iff_of_fitting_token :
    ¬Blames (StateT.run (lookup (.replying ⟨401, none, none⟩) {} .default "tok")
      ({} : Terminal)).1.1 := by
  intro blamed
  rcases (server_blamed_iff "tok" _ parse_address_default ({} : Terminal)).mp blamed with
    unfit | ⟨request, place, made, lost⟩
  · simp [isHeaderText] at unfit
  · have answered := exchange_replying ⟨401, none, none⟩ rfl (Journal.record
      ⟨.identity, .debug, "Resolving identity at " ++ address .default⟩ ({} : Terminal))
    unfold exchange at answered
    rw [made] at answered
    cases lost.outcome_eq.trans answered

/-- The line end behind a token is blamed on the public server, whose address is well-formed. -/
theorem line_end_blamed_on_server :
    (Url.parse (address .default)).isSome ∧
      (StateT.run (lookup .unreachable {} .default "ghp_secret\n") ({} : Terminal)).1.1 =
        .error (.invalidServer "github.com: builder error") := by
  refine ⟨by rw [parse_address_default]; rfl, ?_⟩
  have unfit : isHeaderText "ghp_secret\n" = false := by simp [isHeaderText]
  have refused : request? {} .default "ghp_secret\n" = .error .unwritable :=
    (request?_eq_error_iff parse_address_default isHeaderText_defaultUserAgent _).mpr
      ⟨unfit, rfl⟩
  rw [run_lookup]
  dsimp only
  unfold exchange
  rw [refused]
  rfl

end Identity

end AccountKeeper
