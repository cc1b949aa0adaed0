import AccountKeeper.Proofs.Server.Destination
import AccountKeeper.Terminal

/-!
# What the outcome of a lookup means

An exchange ends with a reply, possibly behind redirections, or with a fault
(`Network.Ends`).  `Classified` says what either should mean for the person who
asks: a login, a refused token, no service at this place, or trouble on the way.
-/

set_option autoImplicit false

namespace AccountKeeper

/-! ## How an exchange ends -/

theorem HttpReply.redirection?_ne_invalid (reply : HttpReply) (source : Url) :
    reply.redirection? source ≠ some .invalid := by
  unfold HttpReply.redirection?
  split
  · nofun
  · split
    · split
      · nofun
      · next other => exact fun same => other (Option.some.inj same)
    · nofun

namespace Network

variable {σ : Type} (network : Network σ)

/-- How an exchange of at most `limit` redirections can end. -/
inductive Ends : Nat → HttpRequest → σ → Except HttpFault HttpReply → Prop where
  | unusable {limit request s} (unusable : HttpRequest.isUsable request.url = false) :
    Ends limit request s (.error (.unusable request.url.display))
  | broken {limit request s duration after} (usable : HttpRequest.isUsable request.url = true)
    (sent : StateT.run (network.send request) s = ((.broken, duration), after)) :
    Ends limit request s (.error (.notSent request.url.display))
  | timedOut {limit request s duration after} (usable : HttpRequest.isUsable request.url = true)
    (sent : StateT.run (network.send request) s = ((.timedOut, duration), after)) :
    Ends limit request s (.error .timedOut)
  | answered {limit request s reply duration after}
    (usable : HttpRequest.isUsable request.url = true)
    (sent : StateT.run (network.send request) s = ((.answered reply, duration), after))
    (stays : reply.redirection? request.url = none) :
    Ends limit request s (.ok reply)
  | foreign {limit request s reply duration after target}
    (usable : HttpRequest.isUsable request.url = true)
    (sent : StateT.run (network.send request) s = ((.answered reply, duration), after))
    (leads : reply.redirection? request.url = some (.foreign target)) :
    Ends limit request s (.error (.unusable target))
  | tooMany {request s reply duration after target}
    (usable : HttpRequest.isUsable request.url = true)
    (sent : StateT.run (network.send request) s = ((.answered reply, duration), after))
    (leads : reply.redirection? request.url = some (.address target)) :
    Ends 0 request s (.error (.tooManyRedirections request.url.display))
  | redirected {limit request s reply duration after target outcome}
    (usable : HttpRequest.isUsable request.url = true)
    (sent : StateT.run (network.send request) s = ((.answered reply, duration), after))
    (leads : reply.redirection? request.url = some (.address target))
    (ends : Ends limit (request.redirect target) after outcome) :
    Ends (limit + 1) request s outcome

/-- What is made of the outcome of one request, with so many redirections left. -/
def conclude (limit : Nat) (request : HttpRequest) :
    (HttpOutcome × Nat) × σ → (Except HttpFault HttpReply × Nat) × σ
  | ((.broken, duration), after) => ((.error (.notSent request.url.display), duration), after)
  | ((.timedOut, duration), after) => ((.error .timedOut, duration), after)
  | ((.answered reply, duration), after) =>
    match reply.redirection? request.url, limit with
    | some (.address _), 0 =>
      ((.error (.tooManyRedirections request.url.display), duration), after)
    | some (.address target), limit + 1 =>
      let next := StateT.run (network.fetch limit (request.redirect target)) after
      ((next.1.1, duration + next.1.2), next.2)
    | some (.foreign target), _ => ((.error (.unusable target), duration), after)
    | _, _ => ((.ok reply, duration), after)

theorem run_fetch (limit : Nat) (request : HttpRequest) (s : σ)
    (usable : HttpRequest.isUsable request.url = true) :
    StateT.run (network.fetch limit request) s =
      network.conclude limit request (StateT.run (network.send request) s) := by
  rw [fetch.eq_def]
  dsimp only
  rw [if_neg (by simp [usable]), ActionE.run_state_bind]
  rcases StateT.run (network.send request) s with ⟨⟨reply | _ | _, duration⟩, after⟩
  · unfold conclude
    dsimp only
    cases reply.redirection? request.url with
    | none => rfl
    | some reading => cases reading with
      | address target => cases limit <;> rfl
      | foreign target => rfl
      | invalid => rfl
  · rfl
  · rfl

/-- One request ends the exchange, or the rest of the exchange does. -/
theorem Ends.of_step (limit : Nat) (request : HttpRequest) (s : σ)
    (later : ∀ less target after, limit = less + 1 →
      network.Ends less target after (StateT.run (network.fetch less target) after).1.1) :
    network.Ends limit request s (StateT.run (network.fetch limit request) s).1.1 := by
  cases usable : HttpRequest.isUsable request.url with
  | false =>
    rw [network.fetch_unusable _ _ _ usable]
    exact .unusable usable
  | true =>
    rw [network.run_fetch _ _ _ usable]
    rcases sent : StateT.run (network.send request) s with ⟨⟨reply | _ | _, duration⟩, after⟩
    · unfold conclude
      dsimp only
      cases leads : reply.redirection? request.url with
      | none => exact .answered usable sent leads
      | some reading => cases reading with
        | address target => cases limit with
          | zero => exact .tooMany usable sent leads
          | succ less => exact .redirected usable sent leads (later less _ after rfl)
        | foreign target => exact .foreign usable sent leads
        | invalid => exact absurd leads (reply.redirection?_ne_invalid request.url)
    · exact .broken usable sent
    · exact .timedOut usable sent

/-- Every exchange ends in one of these ways: the induction is on the redirections that are left. -/
theorem fetch_ends (limit : Nat) (request : HttpRequest) (s : σ) :
    network.Ends limit request s (StateT.run (network.fetch limit request) s).1.1 := by
  induction limit generalizing request s with
  | zero => exact .of_step network 0 request s nofun
  | succ limit ih =>
    refine .of_step network (limit + 1) request s fun less target after same => ?_
    cases same
    exact ih target after

theorem Ends.outcome_eq {limit : Nat} {request : HttpRequest} {s : σ}
    {outcome : Except HttpFault HttpReply} (ends : network.Ends limit request s outcome) :
    outcome = (StateT.run (network.fetch limit request) s).1.1 := by
  induction ends with
  | unusable unusable => rw [network.fetch_unusable _ _ _ unusable]
  | broken usable sent =>
    rw [network.run_fetch _ _ _ usable, sent]
    rfl
  | timedOut usable sent =>
    rw [network.run_fetch _ _ _ usable, sent]
    rfl
  | answered usable sent stays =>
    rw [network.run_fetch _ _ _ usable, sent]
    simp only [conclude, stays]
  | foreign usable sent leads =>
    rw [network.run_fetch _ _ _ usable, sent]
    simp only [conclude, leads]
  | tooMany usable sent leads =>
    rw [network.run_fetch _ _ _ usable, sent]
    simp only [conclude, leads]
  | redirected usable sent leads ends ih =>
    rw [network.run_fetch _ _ _ usable, sent]
    simp only [conclude, leads, ih]

/-- A network that always gives the same reply. -/
def replying (reply : HttpReply) : Network σ where
  send _ := return (.answered reply, 0)

end Network

namespace Identity

/-! ## Descriptions of users -/

/-- The body is the object of a user: it has one member for the login, which is not empty.  What is
JSON is taken as the reader of the program takes it, which accepts bytes that are no UTF-8 in the
texts of members that nobody looks at. -/
def Describes (body : List UInt8) (login : String) : Prop :=
  login ≠ "" ∧ ∃ members, JsonValue.read body = some (.object members) ∧
    members.filter (·.1 = some "login") = [(some "login", .string (some login))]

/-- The body is the list of a login alone, or the object of a user with a name that is no Unicode
text beside it. -/
inductive Mistaken (body : List UInt8) : Prop where
  | list (login : String) (nonempty : login ≠ "")
    (read : JsonValue.read body = some (.array [.string (some login)]))
  | spoiled (login : String) (members : List (Option String × JsonValue))
    (describes : Describes body login) (read : JsonValue.read body = some (.object members))
    (nameless : ∃ member ∈ members, member.1 = none)

/-- The login that is read in a body of a successful reply. -/
def readLogin? (body : List UInt8) : Option String :=
  ((JsonValue.read body).bind login?).filter (· ≠ "")

theorem login?_object (members : List (Option String × JsonValue)) (login : String) :
    login? (.object members) = some login ↔ (∀ member ∈ members, member.1 ≠ none) ∧
      members.filter (·.1 = some "login") = [(some "login", .string (some login))] := by
  have named : members.all (·.1.isSome) = true ↔ ∀ member ∈ members, member.1 ≠ none := by
    simp [List.all_eq_true, Option.isSome_iff_ne_none]
  unfold login?
  dsimp only
  rw [← named]
  constructor
  · intro read
    split at read
    · next whole =>
      split at read
      · next name value chosen =>
        cases read
        have own : (name, JsonValue.string (some login)) ∈ members.filter (·.1 = some "login") := by
          rw [chosen]
          exact List.mem_singleton.mpr rfl
        have same : name = some "login" := by simpa using (List.mem_filter.mp own).2
        exact ⟨whole, by rw [chosen, same]⟩
      · cases read
    · cases read
  · rintro ⟨whole, chosen⟩
    rw [if_pos whole, chosen]

theorem login?_eq_some (value : JsonValue) (login : String) :
    login? value = some login ↔
      (∃ members, value = .object members ∧ (∀ member ∈ members, member.1 ≠ none) ∧
        members.filter (·.1 = some "login") = [(some "login", .string (some login))]) ∨
      value = .array [.string (some login)] := by
  cases value with
  | object members =>
    rw [login?_object]
    constructor
    · exact fun both => .inl ⟨members, rfl, both⟩
    · rintro (⟨_, same, both⟩ | other)
      · cases same
        exact both
      · cases other
  | array items =>
    constructor
    · intro read
      unfold login? at read
      split at read
      · next same => cases same
      · next same =>
        cases same
        cases read
        exact .inr rfl
      · cases read
    · rintro (⟨_, other, -⟩ | same)
      · cases other
      · cases same
        rfl
  | _ => simp [login?]

theorem readLogin?_eq_some (body : List UInt8) (login : String) :
    readLogin? body = some login ↔ login ≠ "" ∧
      ∃ value, JsonValue.read body = some value ∧ login? value = some login := by
  unfold readLogin?
  simp [Option.filter_eq_some_iff, Option.bind_eq_some_iff, and_comm]

/-- The login of a user, and nothing else, is read off all bodies but the mistaken ones. -/
theorem reads_described_iff (body : List UInt8) :
    (∀ login, readLogin? body = some login ↔ Describes body login) ↔ ¬Mistaken body := by
  constructor
  · intro correct mistaken
    cases mistaken with
    | list login nonempty read =>
      have known : readLogin? body = some login :=
        (readLogin?_eq_some body login).mpr ⟨nonempty, _, read, (login?_eq_some _ _).mpr (.inr rfl)⟩
      obtain ⟨-, members, other, -⟩ := (correct login).mp known
      rw [read] at other
      cases other
    | spoiled login members describes read nameless =>
      obtain ⟨-, value, known, reads⟩ := (readLogin?_eq_some body login).mp
        ((correct login).mpr describes)
      rw [read] at known
      cases known
      obtain ⟨member, inside, unread⟩ := nameless
      exact ((login?_object members login).mp reads).1 member inside unread
  · intro sound login
    rw [readLogin?_eq_some]
    constructor
    · rintro ⟨nonempty, value, read, reads⟩
      rcases (login?_eq_some value login).mp reads with ⟨members, rfl, -, chosen⟩ | rfl
      · exact ⟨nonempty, members, read, chosen⟩
      · exact absurd (.list login nonempty read) sound
    · rintro ⟨nonempty, members, read, chosen⟩
      refine ⟨nonempty, _, read, (login?_object members login).mpr ⟨?_, chosen⟩⟩
      intro member inside unread
      exact sound (.spoiled login members ⟨nonempty, members, read, chosen⟩ read
        ⟨member, inside, unread⟩)

/-! ## What outcomes mean -/

/-- Faults of the way to a server, and not of the request itself. -/
def IsTransport : HttpFault → Prop
  | .timedOut => True
  | .notSent _ => True
  | .tooManyRedirections _ => True
  | .unwritable => False
  | .unusable _ => False

/-- What an outcome should mean: only an outcome that tells a login counts as success, and every
other one says why there is none. -/
structure Classified (outcome : Except HttpFault HttpReply)
    (result : Except LookupFailure String) : Prop where
  known : ∀ login, result = .ok login ↔ ∃ reply body, outcome = .ok reply ∧
    reply.isSuccess = true ∧ reply.body = some body ∧ Describes body login
  refused : ∀ reply, outcome = .ok reply → reply.status = 401 ∨ reply.status = 403 →
    ∃ reason, result = .error (.authentication reason)
  missing : ∀ reply, outcome = .ok reply → reply.status = 404 →
    ∃ reason, result = .error (.unexpectedResponse reason)
  failed : ∀ reply, outcome = .ok reply → reply.isSuccess = false →
    reply.status ∉ [401, 403, 404] → ∃ reason, result = .error (.network reason)
  unreadable : ∀ reply body, outcome = .ok reply → reply.isSuccess = true →
    reply.body = some body → (∀ login, ¬Describes body login) →
    ∃ reason, result = .error (.unexpectedResponse reason)
  brokenOff : ∀ reply, outcome = .ok reply → reply.isSuccess = true → reply.body = none →
    ∃ reason, result = .error (.network reason)
  unreached : ∀ fault, outcome = .error fault → IsTransport fault →
    ∃ reason, result = .error (.network reason)

variable (server : ServerAddress) {reply : HttpReply}

theorem verdict_of_body {body : List UInt8} (success : reply.isSuccess = true)
    (arrived : reply.body = some body) :
    (∃ login, readLogin? body = some login ∧ verdict server (.ok reply) = .ok login) ∨
      readLogin? body = none ∧
        ∃ reason, verdict server (.ok reply) = .error (.unexpectedResponse reason) := by
  unfold verdict readLogin?
  dsimp only
  rw [if_pos success, arrived, Option.bind_some]
  cases (JsonValue.read body).bind login? with
  | none => exact .inr ⟨rfl, _, rfl⟩
  | some login =>
    by_cases empty : login = ""
    · exact .inr ⟨by simp [empty], _, if_pos empty⟩
    · exact .inl ⟨login, by simp [empty], if_neg empty⟩

theorem verdict_of_broken (success : reply.isSuccess = true) (missing : reply.body = none) :
    verdict server (.ok reply) = .error (unreadableUser server) := by
  unfold verdict
  dsimp only
  rw [if_pos success, missing]
  rfl

theorem classified_fault (fault : HttpFault) :
    Classified (.error fault) (verdict server (.error fault)) where
  known login := by simp [verdict]
  refused _ other := nomatch other
  missing _ other := nomatch other
  failed _ other := nomatch other
  unreadable _ _ other := nomatch other
  brokenOff _ other := nomatch other
  unreached _ same transport := by
    cases same
    cases fault with
    | timedOut => exact ⟨_, rfl⟩
    | notSent address => exact ⟨_, rfl⟩
    | tooManyRedirections address => exact ⟨_, rfl⟩
    | unwritable => exact transport.elim
    | unusable address => exact transport.elim

theorem classified_failure (failure : reply.isSuccess = false) :
    Classified (.ok reply) (verdict server (.ok reply)) := by
  have answer : verdict server (.ok reply) = .error (statusFailure server reply.status) := by
    unfold verdict
    dsimp only
    rw [if_neg (by simp [failure])]
  rw [answer]
  constructor
  case known =>
    intro login
    refine iff_of_false nofun ?_
    rintro ⟨_, _, same, success, -⟩
    cases same
    rw [failure] at success
    cases success
  case refused =>
    intro _ same status
    cases same
    rcases status with status | status <;> exact ⟨_, by rw [statusFailure, status]; rfl⟩
  case missing =>
    intro _ same status
    cases same
    exact ⟨_, by rw [statusFailure, status]; rfl⟩
  case failed =>
    intro _ same _ others
    cases same
    simp only [List.mem_cons, List.not_mem_nil, or_false, not_or] at others
    unfold statusFailure
    rw [if_neg others.1, if_neg others.2.1, if_neg others.2.2]
    split <;> exact ⟨_, rfl⟩
  case unreadable =>
    intro _ _ same success
    cases same
    rw [failure] at success
    cases success
  case brokenOff =>
    intro _ same success
    cases same
    rw [failure] at success
    cases success
  case unreached => exact fun _ other => nomatch other

theorem not_classified_of_broken (success : reply.isSuccess = true) (missing : reply.body = none) :
    ¬Classified (.ok reply) (verdict server (.ok reply)) := by
  intro classified
  obtain ⟨reason, answer⟩ := classified.brokenOff reply rfl success missing
  rw [verdict_of_broken server success missing] at answer
  cases answer

theorem tells_iff {body : List UInt8} (success : reply.isSuccess = true)
    (arrived : reply.body = some body) (login : String) :
    (∃ told text, (.ok reply : Except HttpFault HttpReply) = .ok told ∧ told.isSuccess = true ∧
      told.body = some text ∧ Describes text login) ↔ Describes body login := by
  constructor
  · rintro ⟨_, _, same, -, arrived', describes⟩
    cases same
    cases arrived.symm.trans arrived'
    exact describes
  · exact fun describes => ⟨reply, body, rfl, success, arrived, describes⟩

theorem classified_success_iff {body : List UInt8} (success : reply.isSuccess = true)
    (arrived : reply.body = some body) :
    Classified (.ok reply) (verdict server (.ok reply)) ↔ ¬Mistaken body := by
  rw [← reads_described_iff]
  have verdicts := verdict_of_body server success arrived
  have reads (login : String) :
      verdict server (.ok reply) = .ok login ↔ readLogin? body = some login := by
    rcases verdicts with ⟨known, read, answer⟩ | ⟨unread, reason, answer⟩
    · rw [read, answer, Except.ok.injEq, Option.some.injEq]
    · rw [unread, answer]
      exact iff_of_false nofun nofun
  constructor
  · intro classified login
    rw [← reads, classified.known, tells_iff success arrived]
  · intro described
    have range : 200 ≤ reply.status ∧ reply.status < 300 := by
      simpa [HttpReply.isSuccess] using success
    constructor
    case known =>
      intro login
      rw [reads, described, tells_iff success arrived]
    case refused =>
      intro _ same status
      cases same
      omega
    case missing =>
      intro _ same status
      cases same
      omega
    case failed =>
      intro _ same failure
      cases same
      rw [success] at failure
      cases failure
    case unreadable =>
      intro _ _ same _ arrived' nobody
      cases same
      cases arrived.symm.trans arrived'
      rcases verdicts with ⟨login, read, -⟩ | ⟨-, answer⟩
      · exact absurd ((described login).mp read) (nobody login)
      · exact answer
    case brokenOff =>
      intro _ same _ missing
      cases same
      rw [arrived] at missing
      cases missing
    case unreached => exact fun _ other => nomatch other

/-- The reply is successful, but it breaks off, or its body is taken for something else. -/
def Misjudged (outcome : Except HttpFault HttpReply) : Prop :=
  ∃ reply, outcome = .ok reply ∧ reply.isSuccess = true ∧
    ∀ body, reply.body = some body → Mistaken body

theorem classified_iff (outcome : Except HttpFault HttpReply) :
    Classified outcome (verdict server outcome) ↔ ¬Misjudged outcome := by
  cases outcome with
  | error fault =>
    refine iff_of_true (classified_fault server fault) ?_
    rintro ⟨_, other, -⟩
    cases other
  | ok reply =>
    cases success : reply.isSuccess with
    | false =>
      refine iff_of_true (classified_failure server success) ?_
      rintro ⟨_, same, success', -⟩
      cases same
      rw [success] at success'
      cases success'
    | true => cases arrived : reply.body with
      | none =>
        refine iff_of_false (not_classified_of_broken server success arrived) (not_not_intro ?_)
        exact ⟨reply, rfl, success, fun body other => by rw [arrived] at other; cases other⟩
      | some body =>
        rw [classified_success_iff server success arrived]
        refine not_congr ⟨?_, ?_⟩
        · intro mistaken
          refine ⟨reply, rfl, success, fun _ same => ?_⟩
          cases arrived.symm.trans same
          exact mistaken
        · rintro ⟨_, same, -, mistaken⟩
          cases same
          exact mistaken body arrived

/-! ## Lookups -/

variable {σ : Type} [Journal σ] (network : Network σ) (client : LookupClient) (secret : String)

/-- How the exchange of a lookup ends that starts in a state. -/
def Concludes (s : σ) (outcome : Except HttpFault HttpReply) : Prop :=
  match request? client server secret with
  | .error fault => outcome = .error fault
  | .ok request => network.Ends redirectionLimit request
    (Journal.record ⟨.identity, .debug, "Resolving identity at " ++ address server⟩ s) outcome

theorem concludes_iff (s : σ) (outcome : Except HttpFault HttpReply) :
    Concludes server network client secret s outcome ↔
      outcome = (StateT.run (exchange network client server secret) (Journal.record
        ⟨.identity, .debug, "Resolving identity at " ++ address server⟩ s)).1.1 := by
  unfold Concludes exchange
  cases request? client server secret with
  | error fault => exact .rfl
  | ok request =>
    constructor
    · exact fun ends => ends.outcome_eq
    · rintro rfl
      exact network.fetch_ends redirectionLimit request _

/-- Every lookup has one outcome, and says what this outcome means exactly if it is not
misjudged. -/
theorem lookup_classified_iff (s : σ) :
    ∃ outcome, Concludes server network client secret s outcome ∧
      (∀ other, Concludes server network client secret s other → other = outcome) ∧
      (Classified outcome (StateT.run (lookup network client server secret) s).1.1 ↔
        ¬Misjudged outcome) := by
  refine ⟨_, (concludes_iff server network client secret s _).mpr rfl, ?_, ?_⟩
  · exact fun other => (concludes_iff server network client secret s other).mp
  · rw [run_lookup]
    exact classified_iff server _

/-! ## Replies of the public server -/

theorem isUsable_public : HttpRequest.isUsable
    ⟨.https, "", none, .domain "api.github.com", none, ["user"], none, none⟩ = true := by
  simp [HttpRequest.isUsable, HttpRequest.addressLimit, Url.Host.display, Url.display]
  decide

omit [Journal σ] in
theorem exchange_replying (reply : HttpReply) (stays : reply.location = none) (s : σ) :
    (StateT.run (exchange (.replying reply) {} .default "tok") s).1.1 = .ok reply := by
  have nobody : Url.login?
      ⟨.https, "", none, .domain "api.github.com", none, ["user"], none, none⟩ = none := by
    decide +kernel
  have made : request? {} .default "tok" = _ := request?_of_parse ServerAddress.parse_public
    isHeaderText_defaultUserAgent (show isHeaderText "tok" = true by simp [isHeaderText])
  rw [nobody] at made
  unfold exchange
  rw [made]
  exact congrArg (·.1.1)
    (Network.fetch_answered (.replying reply) redirectionLimit
      (requestTo {} _ [.token "tok"]) s isUsable_public reply 0 s rfl stays)

def userBody : List UInt8 := "\x7b\"login\":\"alice\"\x7d".toUTF8.data.toList

def listBody : List UInt8 := "[\"alice\"]".toUTF8.data.toList

theorem read_userBody : JsonValue.read userBody =
    some (.object [(some "login", .string (some "alice"))]) := by
  rfl

theorem read_listBody : JsonValue.read listBody =
    some (.array [.string (some "alice")]) := by
  rfl

theorem lookup_classified_iff_for_user :
    (StateT.run (lookup (.replying ⟨200, none, some userBody⟩) {} .default "tok")
      ({} : Terminal)).1.1 = .ok "alice" := by
  obtain ⟨outcome, -, alone, classified⟩ := lookup_classified_iff .default
    (.replying ⟨200, none, some userBody⟩) {} "tok" ({} : Terminal)
  have here := (concludes_iff .default (.replying ⟨200, none, some userBody⟩) {} "tok"
    ({} : Terminal) _).mpr (exchange_replying _ rfl _).symm
  rw [← alone _ here] at classified
  have describes : Describes userBody "alice" := ⟨by decide, _, read_userBody, rfl⟩
  refine ((classified.mpr ?_).known "alice").mpr ⟨_, _, rfl, by decide, rfl, describes⟩
  rintro ⟨_, same, -, mistaken⟩
  cases same
  cases mistaken userBody rfl with
  | list login nonempty read =>
    rw [read_userBody] at read
    cases read
  | spoiled login members describes read nameless =>
    rw [read_userBody] at read
    cases read
    simp at nameless

/-- The list of a login is no user, but its login is believed; and a reply that breaks off is no
trouble with the network, but an unreadable user. -/
theorem list_believed_and_break_misreported :
    (StateT.run (lookup (.replying ⟨200, none, some listBody⟩) {} .default "tok")
        ({} : Terminal)).1.1 = .ok "alice" ∧
      (∀ login, ¬Describes listBody login) ∧
      ∃ reason, (StateT.run (lookup (.replying ⟨200, none, none⟩) {} .default "tok")
        ({} : Terminal)).1.1 = .error (.unexpectedResponse reason) := by
  refine ⟨?_, ?_, ?_⟩
  · rw [run_lookup]
    dsimp only
    rw [exchange_replying _ rfl]
    have known : readLogin? listBody = some "alice" :=
      (readLogin?_eq_some listBody "alice").mpr ⟨by decide, _, read_listBody, rfl⟩
    rcases @verdict_of_body .default ⟨200, none, some listBody⟩ _ rfl rfl with
      ⟨login, read, answer⟩ | ⟨unread, -⟩
    · cases known.symm.trans read
      exact answer
    · rw [known] at unread
      cases unread
  · rintro login ⟨-, members, read, -⟩
    rw [read_listBody] at read
    cases read
  · rw [run_lookup]
    dsimp only
    rw [exchange_replying _ rfl, verdict_of_broken .default rfl rfl]
    exact ⟨_, rfl⟩

end Identity

end AccountKeeper
