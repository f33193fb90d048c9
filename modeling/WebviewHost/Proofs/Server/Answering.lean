import WebviewHost.Proofs.Server.Routing

/-!
# Who answers

Which part of a server answers a request, by its configuration alone: the health page before all
else, then in development the backend for what lies under a prefix, and the files for the rest. The
backend hears of nothing that is not meant for it, and in production its part of the configuration
does not matter.
-/

set_option autoImplicit false

/-! ## Lengths -/

namespace WebviewHost.Http.Response

theorem withLength_of_told {response : Response}
    (told : response.headers.has "content-length" = true) : response.withLength = response := by
  have named : ∀ length, (contentLength length).name = "content-length" := fun _ => rfl
  unfold withLength
  split
  · simp only [Headers.withDefault, named, told, if_true]
  · rfl

theorem withLength_empty {status : Nat} {headers : Headers}
    (untold : headers.has "content-length" = false) :
    (Response.empty status headers).withLength =
      { Response.empty status headers with headers := headers ++ [contentLength 0] } := by
  have named : (contentLength 0).name = "content-length" := rfl
  show { Response.empty status headers with headers := headers.withDefault (contentLength 0) } = _
  simp only [Headers.withDefault, named, untold, Bool.false_eq_true, if_false]

@[simp] theorem status_withLength (response : Response) :
    response.withLength.status = response.status := by
  unfold withLength
  split <;> rfl

/-- The same response, except that the length of an empty body may be told. -/
def SameButLength (given answered : Response) : Prop :=
  answered = given ∨
    (given.body = .whole .empty ∧
      answered = { given with headers := given.headers ++ [contentLength 0] })

end WebviewHost.Http.Response

/-! ## Exchanges -/

namespace WebviewHost.Forward

open WebviewHost.Http (Request)
open WebviewHost.Routes (Rule)

variable {network : Network} {rule : Rule} {limit : Nat} {request : Request}

theorem forward_of_long (long : limit < request.body.size) :
    forward network rule limit request = .ofResponse (tooLong limit) :=
  if_pos long

/-- No server can be asked: the request makes no URL, or the server cannot be reached. -/
def Unreached (network : Network) (asked : Option Outgoing) : Prop :=
  ∀ sent, asked = some sent → network sent = .unreached

theorem unreached_or_reached (network : Network) (asked : Option Outgoing) :
    Unreached network asked ∨ ∃ sent, asked = some sent ∧ network sent ≠ .unreached := by
  cases asked with
  | none => exact .inl fun _ absent => nomatch absent
  | some sent =>
      by_cases unreached : network sent = .unreached
      · refine .inl fun other same => ?_
        rwa [← Option.some.inj same]
      · exact .inr ⟨sent, rfl, unreached⟩

theorem forward_of_unreached (fits : request.body.size ≤ limit)
    (unreached : Unreached network (forwardedRequest? rule request)) :
    forward network rule limit request = .ofResponse (unreachable rule) := by
  unfold forward
  rw [if_neg (Nat.not_lt.mpr fits)]
  cases made : forwardedRequest? rule request with
  | none => rfl
  | some sent => simp only [unreached sent made]

theorem forward_of_silent (fits : request.body.size ≤ limit) {sent : Outgoing}
    (made : forwardedRequest? rule request = some sent) (silent : network sent = .silent) :
    forward network rule limit request = ⟨unreachable rule, [sent]⟩ := by
  unfold forward
  rw [if_neg (Nat.not_lt.mpr fits)]
  simp only [made, silent]

theorem forward_of_replied (fits : request.body.size ≤ limit) {sent : Outgoing} {reply : Reply}
    (made : forwardedRequest? rule request = some sent) (replied : network sent = .replied reply) :
    forward network rule limit request = ⟨passReply reply, [sent]⟩ := by
  unfold forward
  rw [if_neg (Nat.not_lt.mpr fits)]
  simp only [made, replied]

theorem withLength_passReply (reply : Reply) : (passReply reply).withLength = passReply reply := by
  have passed : ∀ content, (passReply reply).body ≠ .whole content := by
    intro content
    show reply.body ≠ _
    unfold Reply.body
    split
    · split <;> exact Http.Body.noConfusion
    · split <;> exact Http.Body.noConfusion
    · exact Http.Body.noConfusion
  unfold Http.Response.withLength
  split
  next content whole => exact absurd whole (passed content)
  next => rfl

end WebviewHost.Forward

/-! ## Answers -/

namespace WebviewHost.Server

open WebviewHost.Files (Disk)
open WebviewHost.Forward
open WebviewHost.Http (Request Response)
open WebviewHost.Network (Url)
open WebviewHost.Routes (Rule targetOfOrigin?)

/-- The backend is to answer for a path. The query of a request plays no part. -/
structure IsRouted (config : Config) (path : String) : Prop where
  developing : config.mode = .development
  notHealth : path ≠ healthPath
  covered : ∃ pathPrefix ∈ config.prefixes, pathPrefix.toList <+: path.toList

/-- What is to be sent for a request, if the configured origin and the request make a URL. -/
def upstreamRequest? (config : Config) (request : Request) : Option Outgoing := do
  let origin ← targetOfOrigin? config.origin.toList
  let url ← Url.parse? (String.ofList origin ++ request.target.text)
  return outgoing url request.method (passedHeaders request.headers) request.body

/-- What a configuration promises about the answer to a request. A backend that is reached has been
sent the request, also if it gives no reply. -/
structure AnswersAsConfigured (server : DevServer) (network : Network) (disk : Disk)
    (request : Request) (exchange : Exchange) : Prop where
  atMostOnce : exchange.sent.length ≤ 1
  contacted_iff : exchange.sent ≠ [] ↔
    IsRouted server.config request.target.path ∧ request.body.size ≤ server.config.bodyLimit ∧
      ∃ sent, upstreamRequest? server.config request = some sent ∧ network sent ≠ .unreached
  contacted : IsRouted server.config request.target.path →
    request.body.size ≤ server.config.bodyLimit → ∀ sent,
      upstreamRequest? server.config request = some sent → network sent ≠ .unreached →
        exchange.sent = [sent]
  forwarded : IsRouted server.config request.target.path →
    request.body.size ≤ server.config.bodyLimit → ∀ sent reply,
      upstreamRequest? server.config request = some sent → network sent = .replied reply →
        exchange = ⟨passReply reply, [sent]⟩
  health : request.target.path = healthPath →
    exchange.response = (server.health request.method).withLength ∧
      exchange.response.status =
        if request.method = "GET" ∨ request.method = "HEAD" then 200 else 405
  tooLong : IsRouted server.config request.target.path →
    server.config.bodyLimit < request.body.size →
      exchange.response = (tooLong server.config.bodyLimit).withLength ∧
        exchange.response.status = 413
  unreachable : IsRouted server.config request.target.path →
    request.body.size ≤ server.config.bodyLimit →
      (∀ sent reply, upstreamRequest? server.config request = some sent →
        network sent ≠ .replied reply) →
        exchange.response.status = 502 ∧
          ∃ rule, server.ruleFor? request.target.path = some rule ∧
            exchange.response = (unreachable rule).withLength
  files : request.target.path ≠ healthPath → ¬IsRouted server.config request.target.path →
    Response.SameButLength
      (serveFile disk server.config.staticDirectory request.method request.target.path)
      exchange.response

theorem sameButLength_serveFile (disk : Disk) (root method path : String) :
    Response.SameButLength (serveFile disk root method path)
      (serveFile disk root method path).withLength := by
  have told : ∀ status file content,
      Response.SameButLength (fileResponse status method file content)
        (fileResponse status method file content).withLength := by
    intro status file content
    exact .inl (Response.withLength_of_told rfl)
  have untold : ∀ status headers, Http.Headers.has headers "content-length" = false →
      Response.SameButLength (.empty status headers) (Response.empty status headers).withLength := by
    intro status headers absent
    exact .inr ⟨rfl, Response.withLength_empty absent⟩
  unfold serveFile tryServeFile
  split
  · exact untold 405 _ rfl
  · split
    · exact told 200 _ _
    · unfold notFound
      dsimp only
      split
      · exact told 404 _ _
      · exact untold 404 [] rfl

namespace DevServer

theorem status_health (server : DevServer) (method : String) :
    (server.health method).status = if method = "GET" ∨ method = "HEAD" then 200 else 405 := by
  unfold health
  by_cases fetched : method = "GET"
  · simp [fetched]
  · by_cases asked : method = "HEAD"
    · simp [asked, Response.withoutContent]
    · simp [fetched, asked, Response.empty]

theorem answer_health {server : DevServer} {request : Request}
    (health : request.target.path = healthPath) (network : Network) (disk : Disk) :
    server.answer network disk request =
      .ofResponse (server.health request.method).withLength := by
  unfold answer
  rw [if_pos health]
  rfl

theorem answer_files {server : DevServer} {request : Request}
    (other : request.target.path ≠ healthPath)
    (unrouted : server.ruleFor? request.target.path = none) (network : Network) (disk : Disk) :
    server.answer network disk request =
      .ofResponse (serveFile disk server.config.staticDirectory request.method
        request.target.path).withLength := by
  unfold answer dispatch
  rw [if_neg other]
  simp only [unrouted]
  rfl

theorem answer_forward {server : DevServer} {request : Request} {rule : Rule}
    (other : request.target.path ≠ healthPath)
    (routed : server.ruleFor? request.target.path = some rule) (network : Network) (disk : Disk) :
    server.answer network disk request =
      ⟨(forward network rule server.config.bodyLimit request).response.withLength,
        (forward network rule server.config.bodyLimit request).sent⟩ := by
  unfold answer
  rw [if_neg other, dispatch_of_ruleFor? routed]

theorem isRouted_iff {config : Config} {server : DevServer} (made : ofConfig config = .ok server)
    {path : String} :
    IsRouted config path ↔ path ≠ healthPath ∧ ∃ rule, server.ruleFor? path = some rule := by
  rw [exists_ruleFor?_iff made]
  constructor
  · rintro ⟨developing, other, covered⟩
    exact ⟨other, developing, covered⟩
  · rintro ⟨other, developing, covered⟩
    exact ⟨developing, other, covered⟩

theorem forwardedRequest?_eq {config : Config} {server : DevServer}
    (made : ofConfig config = .ok server) {request : Request} {path : String} {rule : Rule}
    (routed : server.ruleFor? path = some rule) :
    forwardedRequest? rule request = upstreamRequest? config request := by
  unfold upstreamRequest? forwardedRequest? Rule.forwardUrl
  rw [target_of_ruleFor? made routed]
  simp only [String.ofList_toList, Option.bind_eq_bind, Option.bind_some, Option.pure_def]
  cases Url.parse? (rule.target ++ request.target.text) with
  | none => rfl
  | some url => rfl

variable {config : Config} {server : DevServer} {network : Network} {disk : Disk}
  {request : Request} {exchange : Exchange}

private theorem asConfigured_of_unrouted (unrouted : ¬IsRouted server.config request.target.path)
    (nothing : exchange.sent = [])
    (health : request.target.path = healthPath →
      exchange.response = (server.health request.method).withLength)
    (files : request.target.path ≠ healthPath →
      exchange.response = (serveFile disk server.config.staticDirectory request.method
        request.target.path).withLength) :
    AnswersAsConfigured server network disk request exchange := by
  constructor
  case atMostOnce => simp [nothing]
  case contacted_iff =>
    exact ⟨fun contacted => absurd nothing contacted, fun routed => absurd routed.1 unrouted⟩
  case contacted => exact fun routed => absurd routed unrouted
  case forwarded => exact fun routed => absurd routed unrouted
  case health =>
    intro isHealth
    rw [health isHealth]
    exact ⟨rfl, (Response.status_withLength _).trans (status_health server _)⟩
  case tooLong => exact fun routed => absurd routed unrouted
  case unreachable => exact fun routed => absurd routed unrouted
  case files =>
    intro other _
    rw [files other]
    exact sameButLength_serveFile disk _ _ _

/-- What is to be known of the exchange where a rule is followed: it ends in one of four ways. -/
private theorem asConfigured_of_routed (routed : IsRouted server.config request.target.path)
    {rule : Rule} (ruled : server.ruleFor? request.target.path = some rule)
    (long : server.config.bodyLimit < request.body.size →
      exchange = .ofResponse (Forward.tooLong server.config.bodyLimit).withLength)
    (unreached : request.body.size ≤ server.config.bodyLimit →
      Unreached network (upstreamRequest? server.config request) →
        exchange = .ofResponse (Forward.unreachable rule).withLength)
    (silent : request.body.size ≤ server.config.bodyLimit → ∀ sent,
      upstreamRequest? server.config request = some sent → network sent = .silent →
        exchange = ⟨(Forward.unreachable rule).withLength, [sent]⟩)
    (replied : request.body.size ≤ server.config.bodyLimit → ∀ sent reply,
      upstreamRequest? server.config request = some sent → network sent = .replied reply →
        exchange = ⟨passReply reply, [sent]⟩) :
    AnswersAsConfigured server network disk request exchange := by
  have contacted : request.body.size ≤ server.config.bodyLimit → ∀ sent,
      upstreamRequest? server.config request = some sent → network sent ≠ .unreached →
        exchange.sent = [sent] := by
    intro fits sent known reached
    cases contact : network sent with
    | unreached => exact absurd contact reached
    | silent => rw [silent fits sent known contact]
    | replied reply => rw [replied fits sent reply known contact]
  -- Which of the four it is shows whether anything was sent.
  have counted : exchange.sent = [] ∨ request.body.size ≤ server.config.bodyLimit ∧
      ∃ sent, upstreamRequest? server.config request = some sent ∧ network sent ≠ .unreached := by
    by_cases fits : request.body.size ≤ server.config.bodyLimit
    · refine (unreached_or_reached network _).imp (fun nobody => ?_) fun reached => ⟨fits, reached⟩
      rw [unreached fits nobody]
      rfl
    · rw [long (Nat.not_le.mp fits)]
      exact .inl rfl
  constructor
  case atMostOnce =>
    rcases counted with nothing | ⟨fits, sent, known, reached⟩
    · simp [nothing]
    · simp [contacted fits sent known reached]
  case contacted_iff =>
    constructor
    · exact fun known => ⟨routed, counted.resolve_left known⟩
    · rintro ⟨-, fits, sent, known, reached⟩
      rw [contacted fits sent known reached]
      exact List.cons_ne_nil _ _
  case contacted => exact fun _ => contacted
  case forwarded => exact fun _ => replied
  case health => exact fun health => absurd health routed.notHealth
  case tooLong =>
    intro _ exceeded
    rw [long exceeded]
    exact ⟨rfl, Response.status_withLength _⟩
  case unreachable =>
    intro _ fits noReply
    have told : exchange.response = (Forward.unreachable rule).withLength := by
      rcases unreached_or_reached network (upstreamRequest? server.config request) with
        nobody | ⟨sent, known, reached⟩
      · rw [unreached fits nobody]
        rfl
      · cases contact : network sent with
        | unreached => exact absurd contact reached
        | silent => rw [silent fits sent known contact]
        | replied reply => exact absurd contact (noReply sent reply known)
    rw [told]
    exact ⟨Response.status_withLength _, rule, ruled, rfl⟩
  case files => exact fun _ unrouted => absurd routed unrouted

theorem answer_asConfigured (made : ofConfig config = .ok server) (network : Network)
    (disk : Disk) (request : Request) :
    AnswersAsConfigured server network disk request (server.answer network disk request) := by
  obtain ⟨rfl, -⟩ := ofConfig_eq_ok_iff.mp made
  by_cases isHealth : request.target.path = healthPath
  · rw [answer_health isHealth]
    exact asConfigured_of_unrouted (fun routed => routed.notHealth isHealth) rfl (fun _ => rfl)
      fun other => absurd isHealth other
  · cases ruled : server.ruleFor? request.target.path with
    | none =>
        have unrouted : ¬IsRouted server.config request.target.path := by
          rw [isRouted_iff made]
          rintro ⟨-, rule, routed⟩
          rw [ruled] at routed
          cases routed
        rw [answer_files isHealth ruled]
        exact asConfigured_of_unrouted unrouted rfl (fun health => absurd health isHealth)
          fun _ => rfl
    | some rule =>
        have asked : forwardedRequest? rule request = upstreamRequest? server.config request :=
          forwardedRequest?_eq made ruled
        rw [answer_forward isHealth ruled]
        have routed := (isRouted_iff made).mpr ⟨isHealth, rule, ruled⟩
        refine asConfigured_of_routed routed ruled ?_ ?_ ?_ ?_
        · intro long
          rw [forward_of_long long]
          rfl
        · intro fits unreached
          rw [forward_of_unreached fits (asked ▸ unreached)]
          rfl
        · intro fits sent known silent
          rw [forward_of_silent fits (asked.trans known) silent]
        · intro fits sent reply known replied
          rw [forward_of_replied fits (asked.trans known) replied, withLength_passReply]

theorem healthText_of_production {other : DevServer} (mode : server.config.mode = .production)
    (otherMode : other.config.mode = .production) : other.healthText = server.healthText := by
  simp only [healthText, routeTexts, activeRoutes, mode, otherMode]

theorem answer_of_production {other : DevServer} (mode : server.config.mode = .production)
    (otherMode : other.config.mode = .production)
    (directory : other.config.staticDirectory = server.config.staticDirectory)
    (network otherNetwork : Network) (disk : Disk) (request : Request) :
    other.answer otherNetwork disk request = server.answer network disk request := by
  have unruled : ∀ {server : DevServer}, server.config.mode = .production →
      server.ruleFor? request.target.path = none := by
    intro server production
    simp only [ruleFor?, activeRoutes, production, Option.bind_none]
  by_cases isHealth : request.target.path = healthPath
  · rw [answer_health isHealth, answer_health isHealth]
    simp only [DevServer.health, healthText_of_production mode otherMode]
  · rw [answer_files isHealth (unruled mode), answer_files isHealth (unruled otherMode), directory]

/-- Every server answers every request as it is configured, and two servers in production with the
same directory cannot be told apart. -/
theorem answers_as_configured (made : ofConfig config = .ok server) :
    server.config = config ∧
      (∀ network disk request,
        AnswersAsConfigured server network disk request (server.answer network disk request)) ∧
      ∀ (otherConfig : Config) (other : DevServer), ofConfig otherConfig = .ok other →
        config.mode = .production → otherConfig.mode = .production →
        otherConfig.staticDirectory = config.staticDirectory →
        ∀ network otherNetwork disk request,
          other.handle otherNetwork disk request = server.handle network disk request := by
  obtain ⟨rfl, -⟩ := ofConfig_eq_ok_iff.mp made
  refine ⟨rfl, answer_asConfigured made, ?_⟩
  intro otherConfig other otherMade mode otherMode directory network otherNetwork disk request
  obtain ⟨rfl, -⟩ := ofConfig_eq_ok_iff.mp otherMade
  unfold handle
  rw [answer_of_production mode otherMode directory network otherNetwork disk request]

/-- A prefix may cover the health page, which is answered here all the same, while the path beside
it is the backend's; and in production that server is like one with another origin. -/
theorem answers_as_configured_devproxy :
    let config : Config :=
      ⟨"127.0.0.1:5173", "build", .development, "http://localhost:8000", ["/__devproxy"], 0⟩
    let server : DevServer := ⟨config, ⟨[⟨"/__devproxy", "http://localhost:8000"⟩]⟩⟩
    let network : Network := fun _ => .replied ⟨200, [], .bodyless, .empty⟩
    let health : Request := ⟨"PUT", ⟨"/__devproxy/health", some "again"⟩, [], .empty⟩
    let beside : Request := ⟨"GET", ⟨"/__devproxy/healthy", none⟩, [], .empty⟩
    let production : DevServer :=
      ⟨⟨"127.0.0.1:5173", "build", .production, "http://localhost:8000", ["/all"], 0⟩,
        ⟨[⟨"/all", "http://localhost:8000"⟩]⟩⟩
    let other : DevServer :=
      ⟨⟨"127.0.0.1:5174", "build", .production, "https://elsewhere", [], 1⟩, ⟨[]⟩⟩
    ofConfig config = .ok server ∧
      (∀ disk, (server.answer network disk health).sent = [] ∧
        (server.answer network disk health).response.status = 405 ∧
        (server.answer network disk beside).sent.length = 1) ∧
      ofConfig production.config = .ok production ∧ ofConfig other.config = .ok other ∧
      ∀ network otherNetwork disk request,
        other.handle otherNetwork disk request = production.handle network disk request := by
  intro config server network health beside production other
  have made : ofConfig config = .ok server := by
    dsimp only [config, server]
    rfl
  have productionMade : ofConfig production.config = .ok production := by
    dsimp only [production]
    rfl
  have otherMade : ofConfig other.config = .ok other := by
    dsimp only [other]
    rfl
  obtain ⟨-, answered, -⟩ := answers_as_configured made
  obtain ⟨-, -, alike⟩ := answers_as_configured productionMade
  refine ⟨made, fun disk => ⟨?_, ?_, ?_⟩, productionMade, otherMade,
    alike other.config other otherMade rfl rfl rfl⟩
  · have unrouted : ¬IsRouted config health.target.path := fun routed => routed.notHealth rfl
    exact Classical.byContradiction fun contacted =>
      unrouted ((answered network disk health).contacted_iff.mp contacted).1
  · exact ((answered network disk health).health rfl).2
  · have routed : IsRouted config beside.target.path :=
      ⟨rfl, by decide, "/__devproxy", List.mem_singleton_self _, by decide⟩
    obtain ⟨sent, known⟩ := Option.isSome_iff_exists.mp
      (by decide : (upstreamRequest? config beside).isSome = true)
    rw [(answered network disk beside).forwarded routed (Nat.le_refl _) sent _ known rfl]
    rfl

end DevServer

end WebviewHost.Server
