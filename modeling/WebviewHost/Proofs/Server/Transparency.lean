import WebviewHost.Proofs.Forward.SentPath
import WebviewHost.Proofs.Http.EndToEnd
import WebviewHost.Proofs.Server.Answering

/-!
# Transparent forwarding

What a forwarded request and its reply keep on their way. If the configured origin is a host and
perhaps a port, and nothing in the target is rewritten by a URL reader, the backend receives the
target as it was given, and both ways the end-to-end headers and the body are the same.
-/

set_option autoImplicit false

/-! ## Replies -/

namespace WebviewHost.Forward

open WebviewHost.Http (Body Headers Request Response endToEndValues values_endToEnd)
open WebviewHost.Network
open WebviewHost.Routes (dropTrailingSlash)
open WebviewHost.Text (encodeUtf8)

/-- A content that a reply delivers to its end: of the announced length, ended by a last chunk, or
nothing where there is no body. -/
def Reply.Completes (reply : Reply) (content : ByteArray) : Prop :=
  match reply.framing with
  | .sized length => content.size = length ∧ content.data.toList <+: reply.arrived.data.toList
  | .chunked ended => ended = true ∧ content = reply.arrived
  | .bodyless => content = .empty

private theorem eq_extract_iff {content arrived : ByteArray} {length : Nat}
    (enough : length ≤ arrived.size) :
    content = arrived.extract 0 length ↔
      content.size = length ∧ content.data.toList <+: arrived.data.toList := by
  have taken : (arrived.extract 0 length).data.toList = arrived.data.toList.take length := by
    simp [ByteArray.data_extract]
  constructor
  · rintro rfl
    refine ⟨by simp [ByteArray.size_extract, Nat.min_eq_left enough], ?_⟩
    rw [taken]
    exact List.take_prefix _ _
  · rintro ⟨size, begins⟩
    have same := List.prefix_iff_eq_take.mp begins
    have length_eq : content.data.toList.length = length := by
      rw [Array.length_toList]
      exact size
    rw [length_eq, ← taken] at same
    exact ByteArray.ext (Array.toList_inj.mp same)

theorem Reply.body_eq_passed_iff {reply : Reply} {content : ByteArray} :
    reply.body = .passed content ↔ reply.Completes content := by
  unfold Reply.body Reply.Completes
  cases reply.framing with
  | sized length =>
      dsimp only
      by_cases short : reply.arrived.size < length
      · rw [if_pos short]
        constructor
        · intro passed
          cases passed
        · rintro ⟨size, begins⟩
          have fits := begins.length_le
          simp only [Array.length_toList, ByteArray.size_data] at fits
          omega
      · rw [if_neg short, Body.passed.injEq, eq_comm]
        exact eq_extract_iff (Nat.not_lt.mp short)
  | chunked ended => cases ended <;> simp [eq_comm]
  | bodyless => simp [eq_comm]

theorem Reply.body_of_incomplete {reply : Reply} (cut : ∀ content, ¬reply.Completes content) :
    reply.body = .brokenOff reply.arrived := by
  have other : ∀ content, reply.body ≠ .passed content := fun content passed =>
    cut content (Reply.body_eq_passed_iff.mp passed)
  unfold Reply.body at other ⊢
  split at other
  · split at other
    next short => exact if_pos short
    next => exact absurd rfl (other _)
  · split at other
    next => exact absurd rfl (other _)
    next cutOff => exact if_neg cutOff
  · exact absurd rfl (other .empty)

/-- What the caller gets of a reply. -/
structure CarriesReply (reply : Reply) (response : Response) : Prop where
  status : response.status = reply.status
  headers : ∀ name, response.headers.values name = endToEndValues reply.headers name
  complete_iff : ∀ content, response.body = .passed content ↔ reply.Completes content
  interrupted : (∀ content, ¬reply.Completes content) →
    response.body = .brokenOff reply.arrived

theorem carriesReply_passReply (reply : Reply) : CarriesReply reply (passReply reply) where
  status := rfl
  headers := values_endToEnd reply.headers
  complete_iff _ := Reply.body_eq_passed_iff
  interrupted := Reply.body_of_incomplete

/-! ## Requests -/

variable {host : Host} {port : Option Nat}

def hostText (host : Host) (port : Option Nat) : String :=
  host.text ++
    match port with
    | some port => ":" ++ toString port
    | none => ""

/-- The values of the headers that the client adds of its own. -/
def clientValues (host : Host) (port : Option Nat) (name : String) : List (List UInt8) :=
  if name = "accept" then [encodeUtf8 "*/*"]
  else if name = "host" then [encodeUtf8 (hostText host port)]
  else []

theorem values_completeHeaders {url : Url} (anonymous : authorization? url = none)
    (headers : Headers) (name : String) :
    (completeHeaders url headers).values name =
      if headers.values name = [] then clientValues url.host url.port name
      else headers.values name := by
  have accept : (Http.Header.ofText "accept" "*/*").name = "accept" := rfl
  have host : (Http.Header.ofText "host" url.authority).name = "host" := rfl
  have authority : url.authority = hostText url.host url.port := rfl
  unfold completeHeaders clientValues
  rw [anonymous]
  simp only [Option.elim_none, Headers.values_withDefault, accept, host]
  by_cases given : headers.values name = []
  · by_cases accepts : name = "accept"
    · subst accepts
      simp [given, Http.Header.ofText]
    · by_cases hosts : name = "host"
      · subst hosts
        simp [given, Http.Header.ofText, authority]
      · simp [given, accepts, hosts]
  · simp [given]

theorem values_passedHeaders {name : String} (other : name ≠ "content-length")
    (headers : Headers) : (passedHeaders headers).values name = endToEndValues headers name := by
  unfold passedHeaders
  rw [Headers.values_without, if_neg other, values_endToEnd]

/-- A request as it is to arrive. Headers that nobody gave are the client's own. -/
structure CarriesRequest (request : Request) (host : Host) (port : Option Nat) (sent : Outgoing) :
    Prop where
  method : sent.method = request.method
  target : sent.target = request.target.text
  headers : ∀ name, name ≠ "content-length" → sent.headers.values name =
    if endToEndValues request.headers name = [] then clientValues host port name
    else endToEndValues request.headers name
  length : sent.headers.values "content-length" = []
  body : sent.body = request.body
  scheme : sent.scheme = .http
  host : sent.host = host
  port : sent.port = port

/-- A request of which a URL reader rewrites nothing: no dots between slashes, and nothing that is
escaped. A tunnel is no request in this sense. -/
structure PassesUnchanged (request : Request) : Prop where
  noTunnel : request.method ≠ "CONNECT"
  dotFree : DotFree request.target.path.toList
  path : ∀ c ∈ request.target.path.toList, isSentAsIs c = true
  query : ∀ query ∈ request.target.query, ∀ c ∈ query.toList, isSentInQuery c = true

/-- An origin that is a host and perhaps a port. -/
structure PlainOrigin (origin : String) (server : List Char) (host : Host) (port : Option Nat) :
    Prop where
  text : dropTrailingSlash origin.toList = Scheme.http.lead ++ server
  undivided : ∀ c ∈ server, endsUrlAuthority c = false ∧ isBreak c = false
  read : destinationOf? .http server = some ⟨.http, [], none, host, port⟩

private theorem plain_of_kept {demanded : List Char} {c : Char}
    (kept : escape demanded [c] = [c]) (blank : ' ' ∈ demanded) (mark : '#' ∈ demanded) :
    isMargin c = false ∧ c ≠ '#' := by
  obtain ⟨low, -, free⟩ := escape_singleton_eq_iff.mp kept
  have notBlank : c ≠ ' ' := fun same => free (same ▸ blank)
  refine ⟨?_, fun same => free (same ▸ mark)⟩
  have above : c.toNat ≠ 0x20 := fun same => notBlank (Char.toNat_inj.mp same)
  simp only [isMargin, decide_eq_false_iff_not]
  omega

private theorem PassesUnchanged.plain {request : Request} (unchanged : PassesUnchanged request)
    {rest : List Char} (rooted : request.target.path.toList = '/' :: rest) :
    (∀ c ∈ '/' :: rest ++ queryText (request.target.query.map String.toList),
        isMargin c = false ∧ c ≠ '#') ∧
      '?' ∉ rest ∧
      (request.target.query.map String.toList).map (escape queryEscapes) =
        request.target.query.map String.toList := by
  have path : ∀ c ∈ '/' :: rest, escape pathEscapes [c] = [c] := by
    intro c known
    have kept := unchanged.path c (rooted ▸ known)
    simp only [isSentAsIs, Bool.and_eq_true, decide_eq_true_eq] at kept
    exact kept.2
  have query : ∀ query ∈ request.target.query, ∀ c ∈ query.toList,
      escape queryEscapes [c] = [c] := fun query asked c known =>
    of_decide_eq_true (unchanged.query query asked c known)
  refine ⟨?_, ?_, ?_⟩
  · intro c known
    rcases List.mem_append.mp known with inPath | behind
    · exact plain_of_kept (path c inPath) (by decide) (by decide)
    · cases asked : request.target.query with
      | none =>
          rw [asked] at behind
          cases behind
      | some text =>
          rw [asked] at behind
          rcases List.mem_cons.mp behind with rfl | inQuery
          · decide
          · exact plain_of_kept (query text asked c inQuery) (by decide) (by decide)
  · intro known
    exact absurd (path '?' (List.mem_cons_of_mem _ known)) (by decide)
  · cases asked : request.target.query with
    | none => rfl
    | some text => exact congrArg some (escape_eq_self (query text asked))

theorem parse?_of_plain {origin : String} {server : List Char}
    (plain : PlainOrigin origin server host port) {request : Request}
    (unchanged : PassesUnchanged request) {rest : List Char}
    (rooted : request.target.path.toList = '/' :: rest) :
    ∃ url, Url.parse? (String.ofList (dropTrailingSlash origin.toList) ++ request.target.text) =
        some url ∧
      url.destination = ⟨.http, [], none, host, port⟩ ∧ url.target = request.target.text := by
  obtain ⟨behind, noQuery, asked⟩ := unchanged.plain rooted
  have named : request.target.path ≠ "" := fun empty => by simp [empty] at rooted
  have text := Http.Target.toList_text named
  rw [rooted] at text
  have notEmpty : server ≠ [] := by
    rintro rfl
    exact absurd plain.read nofun
  have whole : (String.ofList (dropTrailingSlash origin.toList) ++ request.target.text).toList =
      Scheme.http.lead ++
        (server ++ ('/' :: rest ++ queryText (request.target.query.map String.toList))) := by
    rw [String.toList_append, String.toList_ofList, plain.text, text, List.append_assoc]
  have parsed := Url.parse?_of_plain whole notEmpty plain.undivided
    (fun c known => (behind c known).1) noQuery (fun known => (behind '#' known).2 rfl)
  rw [plain.read, Option.map_some, asked] at parsed
  -- The rest only needs three parts of the URL, and all of them can be read off it.
  generalize made : Destination.url _ _ = url at parsed
  have path : url.path = '/' :: rest := by
    have segments : url.segments =
        resolveSegments [] (splitAtSlashes (('/' :: rest).drop 1)) := made ▸ rfl
    exact (Url.path_eq segments).trans
      (normalPath_eq_self (rooted ▸ unchanged.dotFree) (rooted ▸ unchanged.path))
  have query : url.query = request.target.query.map String.toList := made ▸ rfl
  refine ⟨url, parsed, made ▸ rfl, String.toList_inj.mp ?_⟩
  rw [Url.toList_target, path, query, text]

theorem carriesRequest_outgoing {url : Url}
    (leads : url.destination = ⟨.http, [], none, host, port⟩) {request : Request}
    (target : url.target = request.target.text) :
    CarriesRequest request host port
      (outgoing url request.method (passedHeaders request.headers) request.body) := by
  obtain ⟨scheme, username, password, given, givenPort, segments, query⟩ := url
  simp only [Url.destination, Destination.mk.injEq] at leads
  obtain ⟨rfl, rfl, rfl, rfl, rfl⟩ := leads
  have anonymous : authorization? ⟨.http, [], none, given, givenPort, segments, query⟩ = none := rfl
  have values := values_completeHeaders anonymous (passedHeaders request.headers)
  constructor
  case method => rfl
  case target => exact target
  case headers =>
    intro name other
    rw [← values_passedHeaders other]
    exact values name
  case length =>
    have untold : (passedHeaders request.headers).values "content-length" = [] := by
      unfold passedHeaders
      rw [Headers.values_without, if_pos rfl]
    exact (values "content-length").trans (by rw [if_pos untold]; rfl)
  case body => rfl
  case scheme => rfl
  case host => rfl
  case port => rfl

end WebviewHost.Forward

/-! ## Servers -/

namespace WebviewHost.Server.DevServer

open WebviewHost.Files (Disk)
open WebviewHost.Forward
open WebviewHost.Http (Request)
open WebviewHost.Network (Host endsUrlAuthority isBreak isSlash)
open WebviewHost.Routes (targetOfOrigin?_eq_some)
open WebviewHost.Text (encodeUtf8)

/-- A request that is forwarded to a plain origin arrives as it was given, wherever that is, and
every reply is passed on as it came. -/
theorem forwards_transparently {config : Config} {server : DevServer}
    (made : ofConfig config = .ok server) {authority : List Char} {host : Host} {port : Option Nat}
    (origin : PlainOrigin config.origin authority host port) {request : Request}
    (routed : IsRouted config request.target.path) (fits : request.body.size ≤ config.bodyLimit)
    (unchanged : PassesUnchanged request) :
    ∃ sent, CarriesRequest request host port sent ∧
      ∀ (network : Network) (disk : Disk) (reply : Reply), network sent = .replied reply →
        ∃ response, server.answer network disk request = ⟨response, [sent]⟩ ∧
          CarriesReply reply response := by
  obtain ⟨rfl, -⟩ := ofConfig_eq_ok_iff.mp made
  obtain ⟨-, rule, ruled⟩ := (isRouted_iff made).mp routed
  obtain ⟨apart, wellFormed⟩ := ofConfig_ok made
  obtain ⟨-, member, under⟩ := (ruleFor?_eq_some_iff apart).mp ruled
  obtain ⟨rest, rooted⟩ := (wellFormed rule member).begins under
  have target := target_of_ruleFor? made ruled
  obtain ⟨url, parsed, leads, same⟩ := parse?_of_plain origin unchanged rooted
  have asked : upstreamRequest? server.config request =
      some (outgoing url request.method (passedHeaders request.headers) request.body) := by
    unfold upstreamRequest?
    rw [target, (targetOfOrigin?_eq_some target).1]
    simp only [Option.bind_eq_bind, Option.bind_some, parsed, Option.pure_def]
  refine ⟨_, carriesRequest_outgoing leads same, ?_⟩
  intro network disk reply replied
  exact ⟨passReply reply,
    (answer_asConfigured made network disk request).forwarded routed fits _ reply asked replied,
    carriesReply_passReply reply⟩

/-- Both values of a repeated header arrive, a header that `connection` lists does not, and a reply
that broke off is no complete answer. -/
theorem forwards_transparently_repeated :
    let config : Config :=
      ⟨"127.0.0.1:5173", "build", .development, "http://localhost:8000/", ["/kitsu"], 2⟩
    let server : DevServer := ⟨config, ⟨[⟨"/kitsu", "http://localhost:8000"⟩]⟩⟩
    let request : Request :=
      ⟨"PATCH", ⟨"/kitsu/data/a%20b", some "page=2&page=3"⟩,
        [.ofText "cookie" "a=1", .ofText "connection" "close, X-Trace", .ofText "x-trace" "7",
          .ofText "cookie" "b=2", .ofText "content-length" "2"], "ok".toUTF8⟩
    let reply : Reply :=
      ⟨302, [.ofText "set-cookie" "a=3", .ofText "te" "trailers", .ofText "set-cookie" "b=4"],
        .sized 3, "ok".toUTF8⟩
    ∃ sent, CarriesRequest request (.name "localhost") (some 8000) sent ∧
      sent.target = "/kitsu/data/a%20b?page=2&page=3" ∧
      sent.headers.values "cookie" = [encodeUtf8 "a=1", encodeUtf8 "b=2"] ∧
      sent.headers.values "x-trace" = [] ∧
      sent.headers.values "host" = [encodeUtf8 "localhost:8000"] ∧
      ∀ disk, ∃ response, server.answer (fun _ => .replied reply) disk request = ⟨response, [sent]⟩ ∧
        response.status = 302 ∧
        response.headers.values "set-cookie" = [encodeUtf8 "a=3", encodeUtf8 "b=4"] ∧
        response.headers.values "te" = [] ∧ response.body = .brokenOff reply.arrived := by
  intro config server request reply
  have made : ofConfig config = .ok server := by
    dsimp only [config, server]
    rfl
  have origin : PlainOrigin config.origin "localhost:8000".toList (.name "localhost") (some 8000) :=
    ⟨by decide, by simp [endsUrlAuthority, isSlash, isBreak], by decide⟩
  have routed : IsRouted config request.target.path :=
    ⟨rfl, by decide, "/kitsu", List.mem_singleton_self _, by decide⟩
  have unchanged : PassesUnchanged request := by
    refine ⟨by decide, by decide, List.all_eq_true.mp (by decide), ?_⟩
    rintro query given
    cases given
    exact List.all_eq_true.mp (by decide)
  obtain ⟨sent, carried, passed⟩ :=
    forwards_transparently made origin routed (by decide) unchanged
  refine ⟨sent, carried, carried.target.trans (by decide), ?_, ?_, ?_, fun disk => ?_⟩
  · exact (carried.headers "cookie" (by decide)).trans (by decide)
  · exact (carried.headers "x-trace" (by decide)).trans (by decide)
  · exact (carried.headers "host" (by decide)).trans (by decide)
  · obtain ⟨response, answered, carries⟩ := passed (fun _ => .replied reply) disk reply rfl
    refine ⟨response, answered, carries.status, ?_, ?_, ?_⟩
    · exact (carries.headers "set-cookie").trans (by decide)
    · exact (carries.headers "te").trans (by decide)
    · -- Three bytes were announced, and two arrived.
      refine carries.interrupted ?_
      rintro content ⟨size, begins⟩
      have fits := begins.length_le
      rw [Array.length_toList] at fits
      exact absurd (Nat.le_trans (Nat.le_of_eq size.symm) fits) (by decide)

end WebviewHost.Server.DevServer
