import WebviewHost.Proofs.Routes.Table
import WebviewHost.Server.DevServer

/-!
# Rules of a server

Which rule a server follows for a path, in terms of what it was configured with: the prefixes and
the origin, in development only.
-/

set_option autoImplicit false

namespace WebviewHost.Server

open WebviewHost.Files (Disk)
open WebviewHost.Forward (Network forward)
open WebviewHost.Http (Request)
open WebviewHost.Routes (Rule Table targetOfOrigin?)

namespace DevServer

theorem ofConfig_eq_ok_iff {config : Config} {server : DevServer} :
    ofConfig config = .ok server ↔
      server.config = config ∧
        Table.singleOrigin config.prefixes config.origin = .ok server.routes := by
  unfold ofConfig Config.routeTable
  cases Table.singleOrigin config.prefixes config.origin with
  | error error => simp
  | ok table =>
      obtain ⟨given, routes⟩ := server
      simp [eq_comm]

theorem ofConfig_ok {config : Config} {server : DevServer} (made : ofConfig config = .ok server) :
    server.routes.Unambiguous ∧ ∀ rule ∈ server.routes.rules, rule.WellFormed :=
  Table.singleOrigin_ok (ofConfig_eq_ok_iff.mp made).2

theorem ruleFor?_eq_some_iff {server : DevServer} (apart : server.routes.Unambiguous)
    {path : String} {rule : Rule} :
    server.ruleFor? path = some rule ↔
      server.config.mode = .development ∧ rule ∈ server.routes.rules ∧
        rule.matchesPath path = true := by
  unfold ruleFor? activeRoutes
  cases server.config.mode with
  | development => simp [apart.route?_eq_some_iff]
  | production => simp

theorem dispatch_of_ruleFor? {server : DevServer} {request : Request} {rule : Rule}
    (routed : server.ruleFor? request.target.path = some rule) (network : Network) (disk : Disk) :
    server.dispatch network disk request =
      forward network rule server.config.bodyLimit request := by
  unfold dispatch
  simp only [routed]

theorem exists_ruleFor?_iff {config : Config} {server : DevServer}
    (made : ofConfig config = .ok server) {path : String} :
    (∃ rule, server.ruleFor? path = some rule) ↔
      config.mode = .development ∧
        ∃ pathPrefix ∈ config.prefixes, pathPrefix.toList <+: path.toList := by
  obtain ⟨rfl, routes⟩ := ofConfig_eq_ok_iff.mp made
  obtain ⟨apart, used, known⟩ := Table.singleOrigin_rules routes
  simp only [ruleFor?_eq_some_iff apart, Rule.matchesPath_iff]
  constructor
  · rintro ⟨rule, developing, member, under⟩
    obtain ⟨pathPrefix, among, madeRule⟩ := known rule member
    exact ⟨developing, pathPrefix, among, (Rule.make_eq madeRule).1 ▸ under⟩
  · rintro ⟨developing, pathPrefix, among, under⟩
    obtain ⟨rule, member, madeRule⟩ := used pathPrefix among
    exact ⟨rule, developing, member, (Rule.make_eq madeRule).1 ▸ under⟩

theorem target_of_ruleFor? {config : Config} {server : DevServer}
    (made : ofConfig config = .ok server) {path : String} {rule : Rule}
    (routed : server.ruleFor? path = some rule) :
    targetOfOrigin? config.origin.toList = some rule.target.toList := by
  obtain ⟨rfl, routes⟩ := ofConfig_eq_ok_iff.mp made
  obtain ⟨apart, -, known⟩ := Table.singleOrigin_rules routes
  obtain ⟨-, member, -⟩ := (ruleFor?_eq_some_iff apart).mp routed
  obtain ⟨pathPrefix, -, madeRule⟩ := known rule member
  exact (Rule.make_eq madeRule).2

end DevServer

end WebviewHost.Server
