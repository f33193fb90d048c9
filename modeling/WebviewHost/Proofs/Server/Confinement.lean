import WebviewHost.Proofs.Forward.SentPath
import WebviewHost.Proofs.Server.Routing

/-!
# Confinement to prefixes

Whether a request that is forwarded by a rule arrives at a path under the prefix of that rule. It
does exactly if the normal form of its path is under that prefix, which no check of the raw path
ensures: dots may lead out of the prefix, and a prefix with characters that are escaped is not
found again.
-/

set_option autoImplicit false

namespace WebviewHost.Server

open WebviewHost.Files (Disk)
open WebviewHost.Forward
open WebviewHost.Http (Request Target)
open WebviewHost.Network (DotFree isSentAsIs prefix_normalPath_iff)
open WebviewHost.Routes (Rule Table)

namespace DevServer

/-- Whatever is sent for a request asks for a path under the prefix of a rule, and would be
forwarded by the same rule again. -/
def Confines (server : DevServer) (network : Network) (disk : Disk) (request : Request)
    (rule : Rule) : Prop :=
  ∀ sent ∈ (server.dispatch network disk request).sent,
    rule.matchesPath sent.path = true ∧ server.ruleFor? sent.path = some rule

/-- A rule confines a request exactly if nothing is sent or the normal form of its path is under
the prefix. Of a path without dots that is so exactly if the prefix needs no escape, as long as the
host of the target is plain. -/
theorem confines_iff {config : Config} {server : DevServer} {text : String} {request : Request}
    {rule : Rule} (made : ofConfig config = .ok server)
    (read : Target.parse? text = some request.target)
    (routed : server.ruleFor? request.target.path = some rule) (network : Network) (disk : Disk) :
    (∀ sent ∈ (server.dispatch network disk request).sent,
      sent.path.toList = upstreamPath rule request.target.path) ∧
    (server.Confines network disk request rule ↔
      (server.dispatch network disk request).sent = [] ∨
        rule.pathPrefix.toList <+: upstreamPath rule request.target.path) ∧
    (HasPlainHost rule → DotFree request.target.path.toList →
      (rule.pathPrefix.toList <+: upstreamPath rule request.target.path ↔
        ∀ c ∈ rule.pathPrefix.toList, isSentAsIs c = true)) := by
  obtain ⟨apart, wellFormed⟩ := ofConfig_ok made
  obtain ⟨developing, known, under⟩ := (ruleFor?_eq_some_iff apart).mp routed
  have readable := Target.parse?_readable read
  have sentPath : ∀ sent ∈ (server.dispatch network disk request).sent,
      sent.path.toList = upstreamPath rule request.target.path := by
    intro sent member
    rw [dispatch_of_ruleFor? routed] at member
    exact path_of_mem_sent (wellFormed rule known) readable under member
  refine ⟨sentPath, ⟨fun confined => ?_, fun stays sent member => ?_⟩, fun plain dotFree => ?_⟩
  · cases sent : (server.dispatch network disk request).sent with
    | nil => exact .inl rfl
    | cons first _ =>
        have member : first ∈ (server.dispatch network disk request).sent := by simp [sent]
        rw [← sentPath first member]
        exact .inr (Rule.matchesPath_iff.mp (confined first member).1)
  · rcases stays with nothing | stays
    · rw [nothing] at member
      cases member
    · rw [← sentPath sent member, ← Rule.matchesPath_iff] at stays
      exact ⟨stays, (ruleFor?_eq_some_iff apart).mpr ⟨developing, known, stays⟩⟩
  · obtain ⟨rest, path⟩ := (wellFormed rule known).begins under
    rw [upstreamPath_of_plain (wellFormed rule known) plain readable under, path]
    rw [path] at dotFree
    exact prefix_normalPath_iff dotFree (path ▸ Rule.matchesPath_iff.mp under)

/-- A path without dots below a prefix of the standard server is confined. -/
theorem confines_iff_standard :
    let server : DevServer := ⟨.standard, .development⟩
    let request : Request := ⟨"GET", ⟨"/kitsu/edge", some "kind=anime"⟩, [], .empty⟩
    let network : Network := fun _ => .replied ⟨200, [], .bodyless, .empty⟩
    let disk : Disk := ⟨[], 0o022, "/"⟩
    ofConfig .standard = .ok server ∧
      Target.parse? "/kitsu/edge?kind=anime" = some request.target ∧
      server.ruleFor? request.target.path = some ⟨"/kitsu", "http://localhost:8000"⟩ ∧
      (server.dispatch network disk request).sent.map Outgoing.path = ["/kitsu/edge"] ∧
      server.Confines network disk request ⟨"/kitsu", "http://localhost:8000"⟩ := by
  intro server request network disk
  have made : ofConfig .standard = .ok server := rfl
  have read : Target.parse? "/kitsu/edge?kind=anime" = some request.target := by decide
  have routed : server.ruleFor? request.target.path =
      some ⟨"/kitsu", "http://localhost:8000"⟩ := by decide
  obtain ⟨-, confined, dotFree⟩ := confines_iff made read routed network disk
  have clean : ∀ c ∈ "/kitsu".toList, isSentAsIs c = true := List.all_eq_true.mp rfl
  exact ⟨made, read, routed, by decide,
    confined.mpr (.inr ((dotFree (by decide) (by decide)).mpr clean))⟩

/-- One double dot leads out of a prefix: the request is forwarded under `/kitsu`, and the backend
is asked for `/admin`, which no rule of the standard server is for. -/
theorem not_confines_doubleDot :
    let server : DevServer := ⟨.standard, .development⟩
    let request : Request := ⟨"GET", ⟨"/kitsu/../admin", none⟩, [], .empty⟩
    let network : Network := fun _ => .replied ⟨200, [], .bodyless, .empty⟩
    let disk : Disk := ⟨[], 0o022, "/"⟩
    ofConfig .standard = .ok server ∧
      Target.parse? "/kitsu/../admin" = some request.target ∧
      server.ruleFor? request.target.path = some ⟨"/kitsu", "http://localhost:8000"⟩ ∧
      (server.dispatch network disk request).sent.map Outgoing.path = ["/admin"] ∧
      server.ruleFor? "/admin" = none ∧
      ¬server.Confines network disk request ⟨"/kitsu", "http://localhost:8000"⟩ := by
  intro server request network disk
  have sent : (server.dispatch network disk request).sent.map Outgoing.path = ["/admin"] := by
    decide
  refine ⟨rfl, by decide, by decide, sent, by decide, fun confined => ?_⟩
  obtain ⟨first, member, path⟩ := List.mem_map.mp (sent ▸ List.mem_singleton_self "/admin")
  have under := (confined first member).1
  rw [path] at under
  exact absurd under (by decide)

end DevServer

end WebviewHost.Server
