import ClawGuard.Admin.Router
import ClawGuard.Proxy.Approved

namespace ClawGuard.Admin

open Security Proxy

/-- After `DELETE /api/services/:name` no own entry of that name is left. -/
theorem deleteService_not_mem (t : Table) (name : String) (sc : ServiceConfig) :
    (name, sc) ∉ (deleteService t name).2.services.own := by
  unfold deleteService
  split_ifs with h
  · have hl := (Js.Obj.truthy_eq_false (by simpa using h)).1
    exact fun hm => by simpa using List.lookup_eq_none_iff.mp hl _ hm
  · simp [Js.Obj.delete]

theorem adminRouter_delete {config : AdminConfig} {now todayStart : Nat} {s : AdminState}
    {req : AdminRequest} {name : String}
    (hip : adminIpGate config.allowedIPs req.ip req.remoteAddress = .ok ())
    (hpin : pinAuth config.pin req.pin = true) (hroute : req.route = .api (.deleteService name)) :
    (adminRouter config now todayStart s req).2.table = (deleteService s.table name).2 := by
  simp only [adminRouter, hip, hroute, hpin, if_true, handleApi]

/-- The admin API and the proxy share `config.services`. Once an authorised `DELETE` of a service
has run, a request the proxy sends for a service routed under that name, which only a path can
route, uses the entry `config.services` inherits under it from a prototype that a `PUT` on
`__proto__` installed: `delete` removes own entries only. -/
theorem deleted_service_not_forwarded {ac : AdminConfig} {now todayStart : Nat} {s : AdminState}
    {req : AdminRequest} {name : String}
    (hip : adminIpGate ac.allowedIPs req.ip req.remoteAddress = .ok ())
    (hpin : pinAuth ac.pin req.pin = true) (hroute : req.route = .api (.deleteService name))
    {config : Config} (hlive : config.services = (adminRouter ac now todayStart s req).2.table.services)
    (adminEnabled : Bool) (env : Env) (preq : Request) {fwd : Forward}
    (hsent : (serve config adminEnabled env preq).sent = some fwd) :
    ∃ name' sc path, RoutedTo config adminEnabled preq name' sc path ∧
      ForwardedFrom config.security sc path fwd ∧
      (name' = name → config.services.get name = .inherited (some sc)) := by
  obtain ⟨-, name', sc, path, hr, happ, hf, -⟩ := serve_sent_routed hsent
  refine ⟨name', sc, path, hr, hf, fun h => ?_⟩
  subst h
  have hgone : ∀ c, (name', c) ∉ config.services.own := by
    rw [hlive, adminRouter_delete hip hpin hroute]
    exact deleteService_not_mem _ _
  rcases hr with ⟨-, -, -, hsc, -⟩ | ⟨-, hsc, -⟩
  · refine (service_found hsc (checkApproval_policy happ)).resolve_left fun hown => ?_
    obtain ⟨l₁, l₂, hsplit, -⟩ := List.lookup_eq_some_iff.mp (Js.Obj.get_eq_own hown)
    exact hgone sc (by simp [hsplit])
  · exact absurd (resolveServiceByHost_mem hsc) (hgone sc)

/-- `gh` and `openai` configured, nothing granted. -/
def twoServiceState : AdminState where
  table := ⟨{ own := [("gh", ghService), ("openai", openaiService)] }, .empty⟩
  store := {}
  requests := []
  pairedUsers := .empty

/-- `PUT /api/services/__proto__` whose config carries an `evil` service, from the local host with
the PIN, then `DELETE /api/services/evil`. -/
def putProto : AdminRequest :=
  ⟨some "127.0.0.1", none, some "4821", .api (.updateService "__proto__"
    (.ok ⟨some { upstream := some "https://api.github.com" }, [("evil", .obj ghService)]⟩))⟩

def deleteEvil : AdminRequest := ⟨some "127.0.0.1", none, some "4821", .api (.deleteService "evil")⟩

theorem evil_forwarded_after_delete :
    let config := { ghConfig with services := (adminRouter sampleAdmin 2000 0
      (adminRouter sampleAdmin 2000 0 twoServiceState putProto).2 deleteEvil).2.table.services }
    let fwd : Forward := ⟨"https://api.github.com/user", "GET",
      [("authorization", "Bearer T"), ("host", "api.github.com")], []⟩
    (serve config false okEnv (ghRequest "/evil/user")).sent = some fwd ∧
      ∃ name' sc path, RoutedTo config false (ghRequest "/evil/user") name' sc path ∧
        ForwardedFrom config.security sc path fwd ∧
        (name' = "evil" → config.services.get "evil" = .inherited (some sc)) :=
  ⟨rfl, @deleted_service_not_forwarded sampleAdmin 2000 0 _ deleteEvil "evil" rfl rfl rfl _ rfl
    false okEnv (ghRequest "/evil/user") _ rfl⟩

end ClawGuard.Admin
