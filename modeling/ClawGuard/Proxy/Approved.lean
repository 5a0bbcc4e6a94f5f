import ClawGuard.Proxy.Confinement
import ClawGuard.Proxy.Routing

namespace ClawGuard.Proxy

open Web Security Approval

theorem checkApproval_eq_true {env : Env} {sc : ServiceConfig} {method path : String}
    (h : checkApproval env sc method path = .ok true) :
    getAction sc method path = .ok (some "auto_approve") ∨ env.decision = .ok true := by
  unfold checkApproval at h
  split at h
  · cases h
  · rename_i action ha
    split_ifs at h with hauto
    · exact .inl (hauto ▸ ha)
    · exact .inr h

/-- The header names `buildForward` sends: the client's that survive the filter, `host`, and the
credential header. -/
def HeadersFrom (sc : ServiceConfig) (req : Request) (fwd : Forward) : Prop :=
  ∀ k ∈ fwd.headers.map Prod.fst, k ∈ (forwardHeaders req).map Prod.fst ∨ k = "host" ∨
    k = "authorization" ∨ ∃ a, sc.auth = some a ∧ a.type = some "header" ∧ a.headerName = some k

theorem mem_keys_setHeader {k j v : String} {hs : List (String × String)}
    (h : j ∈ (setHeader k v hs).map Prod.fst) : j = k ∨ j ∈ hs.map Prod.fst := by
  rw [setHeader, Js.Map.keys_upsert] at h
  split_ifs at h
  · exact .inr h
  · simpa [or_comm] using h

/-- The header names `injectAuth` adds: `authorization`, or the configured `headerName`. -/
theorem injectAuth_keys {auth : Option AuthConfig} {base hs : List (String × String)} {u url : Url}
    (h : injectAuth auth base u = .ok (hs, url)) :
    ∀ k ∈ hs.map Prod.fst, k ∈ base.map Prod.fst ∨ k = "authorization" ∨
      ∃ a, auth = some a ∧ a.type = some "header" ∧ a.headerName = some k := by
  intro k hk
  unfold injectAuth at h
  split at h
  · cases h
  · rename_i a
    split_ifs at h
    · cases h
      exact (mem_keys_setHeader hk).elim (.inr ∘ .inl) .inl
    · split at h
      · rename_i _ name hty hname
        split_ifs at h
        · cases h; exact .inl hk
        · split at h
          · cases h
            exact (mem_keys_setHeader hk).elim (fun e => .inr (.inr ⟨a, rfl, hty, e ▸ hname⟩)) .inl
          · cases h
      · split_ifs at h <;> cases h <;> exact .inl hk
      · cases h; exact .inl hk

theorem buildForward_headersFrom {config : Config} {sc : ServiceConfig} {req : Request} {u url : Url}
    {note : Nat → List Char} {fwd : Forward} {log : Option (List Char)}
    (h : buildForward config sc req u note = .ok (fwd, url, log)) : HeadersFrom sc req fwd := by
  unfold buildForward at h
  simp only [bind, Except.bind] at h
  split at h
  · cases h
  · rename_i p hp
    obtain ⟨hs, url'⟩ := p
    have hh : HeadersFrom sc req ⟨url'.href, req.method, setHeader "host" (String.mk url'.hostPort) hs,
        req.body⟩ := fun k hk => by
      rcases mem_keys_setHeader hk with rfl | hk
      · exact .inr (.inl rfl)
      · exact (injectAuth_keys hp k hk).imp_right .inr
    split_ifs at h <;> cases h <;> exact hh

theorem forward_headersFrom {config : Config} {sc : ServiceConfig} {req : Request} {u : Url}
    {note : Nat → List Char} {events : Url → Option (List Char) → Task → Task} {fwd : Forward}
    (he : ∀ url log, KeepsSent (events url log))
    (h : (forward config sc req u note events {}).sent = some fwd) : HeadersFrom sc req fwd := by
  unfold forward at h
  split at h
  · cases h
  · rename_i fwd' url log hb
    rw [he] at h
    cases h
    exact buildForward_headersFrom hb

theorem handleProxy_approved {config : Config} {env : Env} {name : String} {req : Request}
    {fwd : Forward} (h : (handleProxy config env name req {}).sent = some fwd) :
    let path := Js.orElse (jsSubstring req.originalUrl (Js.length ("/" ++ name))) "/"
    ∃ sc, config.service name = some sc ∧ agentKeyOf req = some config.agentKey ∧
      checkApproval env sc req.method path = .ok true ∧ ForwardedFrom config.security sc path fwd ∧
      HeadersFrom sc req fwd := by
  have hl := fun e => (respond_keepsSent (.json 403 e)).logRequest env
  unfold handleProxy at h
  split at h
  · cases h
  split at h
  · cases h
  rename_i sc hsc
  split at h
  · cases h
  rename_i hkey
  dsimp only at h
  split at h
  · cases h
  rename_i u hu
  split at h
  · rw [hl _ _ {}] at h; cases h
  rename_i hv
  split at h
  · cases h
  · rw [hl _ _ {}] at h; cases h
  · exact ⟨sc, hsc, not_not.mp hkey, ‹_›,
      forward_forwardedFrom hu hv (proxyEvents_keepsSent config env sc name req.method _ req.ip) h,
      forward_headersFrom (proxyEvents_keepsSent config env sc name req.method _ req.ip) h⟩

theorem handleHostProxy_approved {config : Config} {env : Env} {req : Request} {fwd : Forward}
    (h : (handleHostProxy config env req {}).sent = some fwd) :
    ∃ name sc, resolveServiceByHost (req.header "host") config.services = some (name, sc) ∧
      agentKeyOf req = some config.agentKey ∧
      checkApproval env sc req.method (Js.orElse req.originalUrl "/") = .ok true ∧
      ForwardedFrom config.security sc (Js.orElse req.originalUrl "/") fwd ∧
      HeadersFrom sc req fwd := by
  unfold handleHostProxy at h
  split at h
  · cases h
  rename_i name sc hsc
  split at h
  · cases h
  rename_i hkey
  dsimp only at h
  split at h
  · cases h
  rename_i u hu
  split at h
  · cases h
  rename_i hv
  split at h
  · cases h
  · rw [(respond_keepsSent _).logRequest env _ {}] at h; cases h
  · exact ⟨name, sc, hsc, not_not.mp hkey, ‹_›,
      forward_forwardedFrom hu hv (hostEvents_keepsSent config env name req.method _ req.ip) h,
      forward_headersFrom (hostEvents_keepsSent config env name req.method _ req.ip) h⟩

/-- A `checkApproval` that answers yes read a `policy`. -/
theorem checkApproval_policy {env : Env} {sc : ServiceConfig} {method path : String}
    (h : checkApproval env sc method path = .ok true) : sc.policy.isSome := by
  cases hp : sc.policy with
  | none => simp [checkApproval, getAction, hp] at h
  | some _ => rfl

/-- A service config with a `policy` that `config.services[name]` finds is an own entry or an
object of the installed prototype. -/
theorem service_found {config : Config} {name : String} {sc : ServiceConfig}
    (hsc : config.service name = some sc) (hp : sc.policy.isSome) :
    config.services.get name = .own sc ∨ config.services.get name = .inherited (some sc) := by
  unfold Config.service at hsc
  split at hsc
  · rename_i c hc; cases hsc; exact .inl hc
  · rename_i c hc
    cases c with
    | none => cases hsc; cases hp
    | some c => cases hsc; exact .inr hc
  · cases hsc

theorem resolveServiceByHost_mem {host : Option String} {services : Js.Obj ServiceConfig}
    {name : String} {sc : ServiceConfig} (h : resolveServiceByHost host services = some (name, sc)) :
    (name, sc) ∈ services.own := by
  unfold resolveServiceByHost at h
  split at h
  · cases h
  · split_ifs at h
    exact (Js.Obj.entries_perm services).mem_iff.mp (List.mem_of_find?_eq_some h)

theorem ForwardedFrom.plain {security : SecurityConfig} {sc : ServiceConfig} {p : String}
    {fwd : Forward} (h : ForwardedFrom security sc p fwd) {upstream : String} {b : Url}
    (hup : sc.upstream = some upstream) (hb : URL.new upstream none = some b)
    (hs : isSpecialScheme b.scheme = true) (hf : b.scheme ≠ "file".toList)
    (hp : plainTarget p.toList = true) :
    ∃ u, u.pathname ++ u.search = p.toList ∧ fwd.url = (withParam u (authParam sc.auth)).href := by
  obtain ⟨u, hu, -, hfwd⟩ := h
  obtain ⟨v, hv, heq⟩ := resolve_plain (URL.new_wellFormed hb) hs hf hp
  have huv : u = v := by
    rw [hup] at hu
    change (basicParse upstream none).bind _ = _ at hu
    rw [show basicParse upstream none = some b from hb, Option.some_bind] at hu
    exact Option.some.inj (hu.symm.trans hv)
  exact ⟨u, huv ▸ heq, hfwd⟩

/-- `serve` routes `req` to the service `sc` under `name`, with upstream path `path`: by the
decoded first segment of the request's path, the target past the segment being the path, or, for
a path with no first segment, by the `Host` header, the whole target being the path. -/
def RoutedTo (config : Config) (adminEnabled : Bool) (req : Request) (name : String)
    (sc : ServiceConfig) (path : String) : Prop :=
  (∃ seg, route adminEnabled req.method (pathnameOf req.originalUrl) = .proxy seg ∧
      decodeURIComponent (String.mk seg) = some name ∧ config.service name = some sc ∧
      path = Js.orElse (jsSubstring req.originalUrl (Js.length ("/" ++ name))) "/") ∨
    (route adminEnabled req.method (pathnameOf req.originalUrl) = .host ∧
      resolveServiceByHost (req.header "host") config.services = some (name, sc) ∧
      path = Js.orElse req.originalUrl "/")

/-- What a request the app sends upstream went through: the route, the agent key, the approval
of its upstream path, the URL built from that path, and the headers. -/
theorem serve_sent_routed {config : Config} {adminEnabled : Bool} {env : Env} {req : Request}
    {fwd : Forward} (h : (serve config adminEnabled env req).sent = some fwd) :
    agentKeyOf req = some config.agentKey ∧ ∃ name sc path, RoutedTo config adminEnabled req name sc path ∧
      checkApproval env sc req.method path = .ok true ∧ ForwardedFrom config.security sc path fwd ∧
      HeadersFrom sc req fwd := by
  unfold serve at h
  split at h
  · cases h
  · split at h <;> cases h
  · split at h <;> cases h
  · rename_i seg hr
    split at h
    · cases h
    · rename_i name hname
      obtain ⟨sc, hsc, hkey, happ, hf, hh⟩ := handleProxy_approved h
      exact ⟨hkey, name, sc, _, .inl ⟨seg, hr, hname, hsc, rfl⟩, happ, hf, hh⟩
  · rename_i hr
    obtain ⟨name, sc, hsc, hkey, happ, hf, hh⟩ := handleHostProxy_approved h
    exact ⟨hkey, name, sc, _, .inr ⟨hr, hsc, rfl⟩, happ, hf, hh⟩

/-- The app sends a request upstream only when it carries the configured agent key, for the
service it routed the request to by its first path segment or by its `Host` header, after
`checkApproval` answered yes for the request's method and upstream path: the service's policy
auto-approves them, or the grant map or the approver said yes. The URL it sends is the one
`new URL` built from that same path against the service's upstream, with the parameter of
query-parameter auth set. -/
theorem serve_sent_approved (config : Config) (adminEnabled : Bool) (env : Env) (req : Request)
    {fwd : Forward} (h : (serve config adminEnabled env req).sent = some fwd) :
    agentKeyOf req = some config.agentKey ∧
      ∃ name sc path, RoutedTo config adminEnabled req name sc path ∧
        (getAction sc req.method path = .ok (some "auto_approve") ∨ env.decision = .ok true) ∧
        ForwardedFrom config.security sc path fwd := by
  obtain ⟨hkey, name, sc, path, hr, happ, hf, -⟩ := serve_sent_routed h
  exact ⟨hkey, name, sc, path, hr, checkApproval_eq_true happ, hf⟩

/-- `GET /gh/user` with the agent key, approved: sent to `https://api.github.com/user`. -/
theorem gh_user_sent_approved :
    let fwd : Forward := ⟨"https://api.github.com/user", "GET",
      [("authorization", "Bearer T"), ("host", "api.github.com")], []⟩
    (serve ghConfig false okEnv (ghRequest "/gh/user")).sent = some fwd ∧
    agentKeyOf (ghRequest "/gh/user") = some ghConfig.agentKey ∧
    ∃ name sc path, RoutedTo ghConfig false (ghRequest "/gh/user") name sc path ∧
      (getAction sc (ghRequest "/gh/user").method path = .ok (some "auto_approve") ∨
        okEnv.decision = .ok true) ∧
      ForwardedFrom ghConfig.security sc path fwd :=
  ⟨rfl, serve_sent_approved ghConfig false okEnv (ghRequest "/gh/user") rfl⟩

theorem forwardHeaders_not_gateway {req : Request} {k : String}
    (h : k ∈ (forwardHeaders req).map Prod.fst) :
    Js.startsWith (String.mk (k.toList.map Char.toLower)) "x-clawguard" = false ∧
      Js.startsWith (String.mk (k.toList.map Char.toLower)) "x-agentgate" = false := by
  obtain ⟨p, hp, rfl⟩ := List.mem_map.mp h
  have hkeep := (List.mem_filter.mp hp).2
  simp only [forwardHeaders, Bool.not_eq_true', Bool.or_eq_false_iff] at hkeep
  exact hkeep.1

/-- The agent's key never leaves for an upstream: a header of a forwarded request whose
lowercased name starts with `x-clawguard` or `x-agentgate` is the credential header that the
`auth` of the service the request was routed to names, never one the client sent. -/
theorem gateway_headers_not_forwarded (config : Config) (adminEnabled : Bool) (env : Env)
    (req : Request) {fwd : Forward} (h : (serve config adminEnabled env req).sent = some fwd)
    {k : String} (hk : k ∈ fwd.headers.map Prod.fst)
    (hgw : Js.startsWith (String.mk (k.toList.map Char.toLower)) "x-clawguard" ∨
      Js.startsWith (String.mk (k.toList.map Char.toLower)) "x-agentgate") :
    ∃ name sc path a, RoutedTo config adminEnabled req name sc path ∧ sc.auth = some a ∧
      a.type = some "header" ∧ a.headerName = some k := by
  obtain ⟨-, name, sc, path, hr, -, -, hh⟩ := serve_sent_routed h
  refine ⟨name, sc, path, ?_⟩
  rcases hh k hk with hf | rfl | rfl | ⟨a, ha⟩
  · obtain ⟨h1, h2⟩ := forwardHeaders_not_gateway hf
    rw [h1, h2] at hgw
    simp at hgw
  · exact absurd hgw (by decide)
  · exact absurd hgw (by decide)
  · exact ⟨a, hr, ha⟩

/-- `gh` with a credential header that is itself named like a gateway header. -/
def gatewayNamedConfig : Config :=
  { ghConfig with services := { own := [("gh", { ghService with
      auth := some { type := some "header", token := some "S", headerName := some "x-agentgate-token" } })] } }

theorem gateway_named_credential_forwarded :
    let fwd : Forward := ⟨"https://api.github.com/user", "GET",
      [("x-agentgate-token", "S"), ("host", "api.github.com")], []⟩
    (serve gatewayNamedConfig false okEnv (ghRequest "/gh/user")).sent = some fwd ∧
      "x-agentgate-token" ∈ fwd.headers.map Prod.fst ∧
      (Js.startsWith (String.mk ("x-agentgate-token".toList.map Char.toLower)) "x-clawguard" ∨
        Js.startsWith (String.mk ("x-agentgate-token".toList.map Char.toLower)) "x-agentgate") ∧
      ∃ name sc path a, RoutedTo gatewayNamedConfig false (ghRequest "/gh/user") name sc path ∧
        sc.auth = some a ∧ a.type = some "header" ∧ a.headerName = some "x-agentgate-token" :=
  ⟨rfl, by decide, by decide,
    gateway_headers_not_forwarded gatewayNamedConfig false okEnv (ghRequest "/gh/user") rfl
      (by decide) (by decide)⟩

end ClawGuard.Proxy
