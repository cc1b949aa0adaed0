import AccountKeeper.Proofs.Server.Endpoint
import AccountKeeper.Proofs.Server.Lookup
import AccountKeeper.Proofs.Url.Address

/-!
# Where a lookup leads

Two servers share the base of their interface only if they are the same place
(`interface_tells_servers_apart`), so the address a token is sent to tells the
server.  But the address is put together as a text and then read by the rules for
the web, which give a meaning to more characters than the reader of servers knows.
`request_leads_iff` says which servers are reached: those whose host has none of
the characters `@`, `\`, `?` and `#`, and whose path has none of the last two.
-/

set_option autoImplicit false

namespace AccountKeeper

namespace ServerAddress

/-! ## One interface, one server -/

/-- The server is the public one, whatever its scheme is. -/
structure Public (server : ServerAddress) : Prop where
  host : server.host = "github.com"
  port : server.port = none
  suffix : server.suffix = none

theorem isDefault_iff (server : ServerAddress) : server.isDefault = true ↔ server.Public := by
  unfold isDefault
  simp only [Bool.and_eq_true, decide_eq_true_eq, Option.isNone_iff_eq_none]
  constructor
  · rintro ⟨⟨host, port⟩, suffix⟩
    exact ⟨host, port, suffix⟩
  · rintro ⟨host, port, suffix⟩
    exact ⟨⟨host, port⟩, suffix⟩

/-- The addresses differ at most in a scheme that makes no difference. -/
structure SamePlace (server other : ServerAddress) : Prop where
  host : server.host = other.host
  port : server.port = other.port
  suffix : server.suffix = other.suffix
  plain : server.scheme = some .http ↔ other.scheme = some .http

/-- Both are the public server, or both are one and the same other server. -/
def OneServer (server other : ServerAddress) : Prop :=
  server.Public ∧ other.Public ∨ ¬server.Public ∧ ¬other.Public ∧ server.SamePlace other

section

variable {server other : ServerAddress} (parsed : server.Parsed) (parsed' : other.Parsed)

include parsed parsed'

theorem apiUrl_eq_iff_oneServer : server.apiUrl = other.apiUrl ↔ server.OneServer other := by
  unfold OneServer
  rw [apiUrl_eq_iff parsed parsed']
  constructor
  · rintro (rfl | respells)
    · by_cases isPublic : server.Public
      · exact .inl ⟨isPublic, isPublic⟩
      · exact .inr ⟨isPublic, isPublic, rfl, rfl, rfl, .rfl⟩
    · obtain ⟨host, port, suffix, -, immaterial⟩ := respells
      have publics : server.Public ↔ other.Public := by
        rw [← isDefault_iff, ← isDefault_iff, isDefault_congr host port suffix]
      by_cases isPublic : server.Public
      · exact .inl ⟨isPublic, publics.mp isPublic⟩
      · have schemes := immaterial.resolve_left fun default =>
          isPublic ((isDefault_iff server).mp default)
        exact .inr ⟨isPublic, fun isPublic' => isPublic (publics.mpr isPublic'), host, port, suffix,
          iff_of_false schemes.1 schemes.2⟩
  · rintro (⟨isPublic, isPublic'⟩ | ⟨-, -, same⟩)
    · exact eq_or_respells (isPublic.host.trans isPublic'.host.symm)
        (isPublic.port.trans isPublic'.port.symm) (isPublic.suffix.trans isPublic'.suffix.symm)
        fun _ => .inl ((isDefault_iff server).mpr isPublic)
    · refine eq_or_respells same.host same.port same.suffix fun differ => .inr ?_
      by_cases plain : server.scheme = some .http
      · exact absurd (plain.trans (same.plain.mp plain).symm) differ
      · exact ⟨plain, fun plain' => plain (same.plain.mpr plain')⟩

/-- The base of the interface tells servers apart, and so does the address that tokens are sent
to. -/
theorem interface_tells_servers_apart :
    (server.apiUrl = other.apiUrl ↔ server.OneServer other) ∧
      (Identity.address server = Identity.address other ↔ server.OneServer other) := by
  have same := apiUrl_eq_iff_oneServer parsed parsed'
  refine ⟨same, ?_⟩
  rw [← same]
  unfold Identity.address
  constructor
  · intro addresses
    have texts := congrArg String.toList addresses
    rw [String.toList_append, String.toList_append] at texts
    exact String.toList_inj.mp (List.append_cancel_right texts)
  · exact fun bases => by rw [bases]

end

/-- A scheme in capitals and a slash at the end make no other server, but a port does. -/
theorem interface_tells_ports_apart :
    ∃ server other third : ServerAddress,
      parse "ghe.corp:8443/base" = .ok server ∧ parse "HTTPS://GHE.corp:8443/base/" = .ok other ∧
      parse "ghe.corp/base" = .ok third ∧ server.apiUrl = other.apiUrl ∧
      Identity.address server ≠ Identity.address third := by
  have read : parse "ghe.corp:8443/base" = .ok ⟨none, "ghe.corp", some 8443, some "/base"⟩ := by
    rfl
  have read' : parse "HTTPS://GHE.corp:8443/base/" =
      .ok ⟨some .https, "ghe.corp", some 8443, some "/base"⟩ := by
    rfl
  have read'' : parse "ghe.corp/base" = .ok ⟨none, "ghe.corp", none, some "/base"⟩ := by
    rfl
  refine ⟨_, _, _, read, read', read'', ?_, ?_⟩
  · refine (interface_tells_servers_apart ⟨_, read⟩ ⟨_, read'⟩).1.mpr (.inr ⟨?_, ?_, ?_⟩)
    · exact fun isPublic => nomatch isPublic.port
    · exact fun isPublic => nomatch isPublic.port
    · exact ⟨rfl, rfl, rfl, by simp⟩
  · intro same
    rcases (interface_tells_servers_apart ⟨_, read⟩ ⟨_, read''⟩).2.mp same with
      ⟨isPublic, -⟩ | ⟨-, -, place⟩
    · exact nomatch isPublic.port
    · exact nomatch place.port

/-! ## The way to a server -/

/-- What the host of a request must be: the public server answers under a name of its own. -/
def ApiHost (server : ServerAddress) (host : Url.Host) : Prop :=
  if server.isDefault then host = .domain "api.github.com"
  else Url.Host.parse server.host.toList = some host

def apiScheme (server : ServerAddress) : Scheme :=
  if server.isDefault then .https else server.scheme.getD .https

def apiPort (server : ServerAddress) : Nat :=
  if server.isDefault then 443
  else (server.port.map UInt16.toNat).getD server.apiScheme.defaultPort

/-- The address leads to the server that is named, and has nothing but a path behind it. -/
structure Leads (server : ServerAddress) (url : Url) : Prop where
  scheme : url.scheme = server.apiScheme
  username : url.username = ""
  password : url.password = none
  host : server.ApiHost url.host
  port : url.effectivePort = server.apiPort
  query : url.query = none
  fragment : url.fragment = none

/-- No character of the server has a meaning of its own in addresses on the web. -/
structure Plain (server : ServerAddress) : Prop where
  host : ∀ c ∈ server.host.toList, c ∉ ['@', '\\', '?', '#']
  suffix : ∀ c ∈ (server.suffix.getD "").toList, c ∉ ['?', '#']

theorem parse_public : Url.parse "https://api.github.com/user" =
    some ⟨.https, "", none, .domain "api.github.com", none, ["user"], none, none⟩ := by
  decide +kernel

theorem Public.leads {server : ServerAddress} (isPublic : server.Public) {url : Url}
    (read : Url.parse (Identity.address server) = some url) : server.Leads url ∧ server.Plain := by
  have default := (isDefault_iff server).mpr isPublic
  have address : Identity.address server = "https://api.github.com/user" := by
    rw [Identity.address, apiUrl, if_pos default]
    rfl
  rw [address, parse_public] at read
  cases read
  constructor
  · constructor <;>
      simp [ApiHost, apiScheme, apiPort, default, Url.effectivePort, Scheme.defaultPort]
  · constructor
    · simp [isPublic.host]
    · rw [isPublic.suffix]
      exact fun c member => nomatch member

section

variable {server : ServerAddress} (parsed : server.Parsed)

/-- The path of a request, which is the one of the server with that of the interface behind it. -/
def requestPath (server : ServerAddress) : List Char :=
  (server.suffix.getD "").toList ++ "/api/v3/user".toList

theorem toList_address (isPrivate : server.isDefault = false) :
    (Identity.address server).toList = (server.scheme.getD .https).lead.toList ++
      (Url.place server.host.toList server.port ++ server.requestPath) := by
  unfold Identity.address apiUrl requestPath Url.place url authorityAndSuffix
  rw [if_neg (by simp [isPrivate])]
  cases server.port <;> simp [String.toList_append]

theorem Plain.inPath (plain : server.Plain) : ∀ c ∈ Url.place server.host.toList server.port ++
    server.requestPath.filter (!Url.isBreak ·), Url.inPath c = true := by
  intro c member
  rw [Url.inPath_iff]
  rcases List.mem_append.mp member with front | path
  · rcases Url.mem_place front with inside | rfl | digit
    · exact fun marked => plain.host c inside (by simp_all)
    · decide
    · intro marked
      simp only [List.mem_cons, List.not_mem_nil, or_false] at marked
      rcases marked with rfl | rfl <;> cases digit
  · rcases List.mem_append.mp (List.mem_filter.mp path).1 with suffix | interface
    · exact plain.suffix c suffix
    · have clear : ∀ d ∈ "/api/v3/user".toList, d ∉ ['?', '#'] := by simp
      exact clear c interface

include parsed

theorem place_plain : ∀ c ∈ Url.place server.host.toList server.port,
    c ≠ '/' ∧ Text.isBlank c = false := by
  have authority : server.explicit.written.authority =
      Url.place server.host.toList server.port := by
    unfold AddressForm.authority Url.place written explicit
    cases server.port <;> rfl
  rw [← authority]
  exact (explicit_form parsed).1.plain

theorem head?_requestPath : server.requestPath.head? = some '/' := by
  unfold requestPath
  rcases (explicit_form parsed).1.path with empty | ⟨rest, slash⟩
  · have path : (server.suffix.getD "").toList = [] := empty
    rw [path]
    decide
  · have path : (server.suffix.getD "").toList = '/' :: rest := slash
    rw [path]
    rfl

/-- How the address of a request is read: breaks count for nothing, and there are none in front of
the path. -/
theorem parse_address (isPrivate : server.isDefault = false) :
    Url.parse (Identity.address server) =
      Url.readAuthority (server.scheme.getD .https) (Url.dropSlashes
        (Url.place server.host.toList server.port ++
          server.requestPath.filter (!Url.isBreak ·))) := by
  have ends : (Url.place server.host.toList server.port ++ server.requestPath).getLast? =
      some 'r' := by
    unfold requestPath
    rw [← List.append_assoc, List.getLast?_append]
    rfl
  rw [Url.parse_lead _ _ _ (toList_address isPrivate), List.filter_append]
  · congr 3
    refine List.filter_eq_self.mpr fun c member => ?_
    have unblank := (place_plain parsed c member).2
    cases broken : Url.isBreak c with
    | false => rfl
    | true =>
      simp only [Url.isBreak, Bool.or_eq_true, decide_eq_true_eq] at broken
      rcases broken with (rfl | rfl) | rfl <;> cases unblank
  · intro empty
    rw [empty] at ends
    cases ends
  · intro c last
    rw [ends] at last
    cases last
    decide

variable (isPrivate : server.isDefault = false) {url : Url}
  (read : Url.parse (Identity.address server) = some url)

include isPrivate read

theorem Leads.plain (leads : server.Leads url) : server.Plain := by
  rw [parse_address parsed isPrivate] at read
  have known := leads.host
  rw [ApiHost, if_neg (by simp [isPrivate])] at known
  have bare := (Url.bare_iff read).mp ⟨leads.query, leads.fragment⟩
  rw [Url.forall_dropSlashes_iff] at bare
  have undivided (c : Char) (divides : c ∈ Text.dividers) (other : c ≠ ':') :
      c ∉ server.host.toList :=
    Url.Host.undivided_of_parse known divides fun colon => absurd colon other
  constructor
  · intro c member marked
    have inside := bare c (List.mem_append_left _ (List.mem_append_left _ member))
    simp only [List.mem_cons, List.not_mem_nil, or_false] at marked
    rcases marked with rfl | rfl | rfl | rfl
    · exact undivided '@' (by decide) (by decide) member
    · exact undivided '\\' (by decide) (by decide) member
    · cases inside
    · cases inside
  · intro c member marked
    have unbroken : (!Url.isBreak c) = true := by
      simp only [List.mem_cons, List.not_mem_nil, or_false] at marked
      rcases marked with rfl | rfl <;> rfl
    have inside := bare c (List.mem_append_right _ (List.mem_filter.mpr
      ⟨List.mem_append_left _ member, unbroken⟩))
    exact (Url.inPath_iff c).mp inside marked

theorem Plain.leads (plain : server.Plain) : server.Leads url := by
  rw [parse_address parsed isPrivate] at read
  have formed := (explicit_form parsed).1
  have uncut : server.port = none → ':' ∉ server.host.toList := by
    intro absent
    rcases formed.port with ⟨-, outside⟩ | ⟨numeral, value, numbered, -⟩
    · exact outside
    · rw [written, explicit, absent] at numbered
      cases numbered
  have below : (server.requestPath.filter (!Url.isBreak ·)).head? = some '/' := by
    obtain ⟨rest, whole⟩ := List.head?_eq_some_iff.mp (head?_requestPath parsed)
    rw [whole]
    rfl
  have undivided : ∀ c ∈ server.host.toList, Url.endsAuthority c = false ∧ c ≠ '@' := by
    intro c member
    have slash := (formed.host c member).1
    have marks := plain.host c member
    simp only [List.mem_cons, List.not_mem_nil, or_false, not_or] at marks
    simp [Url.endsAuthority, slash, marks]
  have scheme := (Url.readAuthority_eq_some read).1
  obtain ⟨username, password, host, port⟩ :=
    Url.place_of_authority formed.host_some undivided uncut below read
  obtain ⟨query, fragment⟩ := (Url.bare_iff read).mpr (Url.forall_dropSlashes_iff.mpr plain.inPath)
  have other : ¬server.isDefault = true := by simp [isPrivate]
  refine ⟨?_, username, password, ?_, ?_, query, fragment⟩
  · rw [scheme, apiScheme, if_neg other]
  · rw [ApiHost, if_neg other]
    exact host
  · rw [apiPort, if_neg other, apiScheme, if_neg other]
    exact port

end

end ServerAddress

/-! ## The request of a lookup -/

namespace Identity

variable {client : LookupClient} {server : ServerAddress} {secret : String}

/-- The request goes where the address leads; name and password of the address stand beside the
token. -/
theorem address_of_request {request : HttpRequest}
    (made : request? client server secret = .ok request) :
    ∃ url, Url.parse (address server) = some url ∧
      request.url.withoutCredentials = url.withoutCredentials ∧
      .token secret ∈ request.authorizations := by
  unfold request? at made
  cases read : Url.parse (address server) with
  | none =>
    rw [read] at made
    cases made
  | some url =>
    rw [read] at made
    dsimp only at made
    refine ⟨url, rfl, ?_⟩
    split at made
    · cases login : url.login? with
      | none =>
        rw [login] at made
        cases made
        exact ⟨rfl, List.mem_singleton.mpr rfl⟩
      | some credentials =>
        rw [login] at made
        cases made
        exact ⟨rfl, List.mem_cons_of_mem _ (List.mem_singleton.mpr rfl)⟩
    · cases made

/-- The token of a lookup goes to the server that is named, by an address without anything else
behind its path, exactly if no character of the server has a meaning of its own in addresses. -/
theorem request_leads_iff {request : HttpRequest} (parsed : server.Parsed)
    (made : request? client server secret = .ok request) :
    ∃ url, Url.parse (address server) = some url ∧
      request.url.withoutCredentials = url.withoutCredentials ∧
      .token secret ∈ request.authorizations ∧ (server.Leads url ↔ server.Plain) := by
  obtain ⟨url, read, same, carried⟩ := address_of_request made
  refine ⟨url, read, same, carried, ?_⟩
  cases isPublic : server.isDefault with
  | true =>
    obtain ⟨leads, plain⟩ := ((ServerAddress.isDefault_iff server).mp isPublic).leads read
    exact iff_of_true leads plain
  | false =>
    exact ⟨ServerAddress.Leads.plain parsed isPublic read,
      ServerAddress.Plain.leads parsed isPublic read⟩

/-- What is asked of an address that was read. -/
def requestTo (client : LookupClient) (url : Url) (authorizations : List Authorization) :
    HttpRequest :=
  ⟨url, authorizations, "application/vnd.github+json", client.userAgent, client.timeout⟩

theorem request?_of_parse {url : Url} (read : Url.parse (address server) = some url)
    (agent : isHeaderText client.userAgent = true) (plain : isHeaderText secret = true) :
    request? client server secret = .ok (match url.login? with
      | none => requestTo client url [.token secret]
      | some (username, password) =>
        requestTo client url.withoutCredentials [.basic username password, .token secret]) := by
  unfold request?
  rw [read]
  dsimp only
  rw [if_pos ⟨plain, agent⟩]
  cases url.login? <;> rfl

theorem isHeaderText_defaultUserAgent : isHeaderText ({} : LookupClient).userAgent = true := by
  simp [isHeaderText, defaultUserAgent]

theorem request_leads_iff_with_port :
    ∃ server request url, ServerAddress.parse "http://ghe.corp:8443/base" = .ok server ∧
      request? {} server "tok" = .ok request ∧ Url.parse (address server) = some url ∧
      server.Leads url ∧ request.url.host = .domain "ghe.corp" := by
  have named : ServerAddress.parse "http://ghe.corp:8443/base" =
      .ok ⟨some .http, "ghe.corp", some 8443, some "/base"⟩ := by
    rfl
  have read : Url.parse (address ⟨some .http, "ghe.corp", some 8443, some "/base"⟩) =
      some ⟨.http, "", none, .domain "ghe.corp", some 8443, ["base", "api", "v3", "user"], none,
        none⟩ := by
    decide +kernel
  have nobody : Url.login? ⟨.http, "", none, .domain "ghe.corp", some 8443,
      ["base", "api", "v3", "user"], none, none⟩ = none := by
    decide +kernel
  have made := request?_of_parse read isHeaderText_defaultUserAgent
    (show isHeaderText "tok" = true by simp [isHeaderText])
  rw [nobody] at made
  obtain ⟨url, read', -, -, leads⟩ := request_leads_iff ⟨_, named⟩ made
  refine ⟨_, _, url, named, made, read', leads.mpr ⟨by simp, by simp⟩, rfl⟩

/-- The part in front of `@` is taken for a name of a person, and the token goes to the part
behind it. -/
theorem token_goes_behind_at :
    ∃ server request url, ServerAddress.parse "http://github.com@ghe.corp" = .ok server ∧
      server.host = "github.com@ghe.corp" ∧ request? {} server "tok" = .ok request ∧
      HttpRequest.isUsable request.url = true ∧ .token "tok" ∈ request.authorizations ∧
      request.url.host = .domain "ghe.corp" ∧ Url.parse (address server) = some url ∧
      ¬server.Leads url := by
  have named : ServerAddress.parse "http://github.com@ghe.corp" =
      .ok ⟨some .http, "github.com@ghe.corp", none, none⟩ := by
    rfl
  have read : Url.parse (address ⟨some .http, "github.com@ghe.corp", none, none⟩) =
      some ⟨.http, "github.com", none, .domain "ghe.corp", none, ["api", "v3", "user"], none,
        none⟩ := by
    decide +kernel
  have somebody : Url.login? ⟨.http, "github.com", none, .domain "ghe.corp", none,
      ["api", "v3", "user"], none, none⟩ = some ("github.com", none) := by
    decide +kernel
  have made := request?_of_parse read isHeaderText_defaultUserAgent
    (show isHeaderText "tok" = true by simp [isHeaderText])
  rw [somebody] at made
  refine ⟨_, _, _, named, rfl, made, ?_, ?_, rfl, read, ?_⟩
  · simp [HttpRequest.isUsable, HttpRequest.addressLimit, requestTo, Url.withoutCredentials,
      Url.Host.display, Url.display]
    decide
  · simp [requestTo]
  · intro leads
    exact absurd leads.username (by decide)

end Identity

end AccountKeeper
