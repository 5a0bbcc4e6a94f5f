import ClawGuard.Url.Plain
import ClawGuard.Proxy.Routing

namespace ClawGuard.Proxy

open Web Security Approval

/-- A continuation that never sends a request upstream. -/
def KeepsSent (k : Task → Task) : Prop := ∀ t, (k t).sent = t.sent

theorem respond_keepsSent (r : Reply) : KeepsSent (respond r) := fun _ => rfl

theorem id_keepsSent : KeepsSent id := fun _ => rfl

theorem KeepsSent.logRequest {k : Task → Task} (hk : KeepsSent k) (env : Env) (e : AuditEntry) :
    KeepsSent (logRequest env e k) := by
  intro t; unfold Proxy.logRequest; split
  · rfl
  · exact hk _

theorem proxyEvents_keepsSent (config : Config) (env : Env) (sc : ServiceConfig)
    (serviceName method path agentIp : String) (url : Url) (log : Option (List Char)) :
    KeepsSent (proxyEvents config env sc serviceName method path agentIp url log) := by
  intro t
  unfold proxyEvents
  split
  · exact (respond_keepsSent _).logRequest env _ t
  · dsimp only
    repeat' split
    all_goals first
      | exact (respond_keepsSent _).logRequest env _ t
      | exact id_keepsSent.logRequest env _ _
      | rfl

theorem hostEvents_keepsSent (config : Config) (env : Env)
    (serviceName method path agentIp : String) (url : Url) (log : Option (List Char)) :
    KeepsSent (hostEvents config env serviceName method path agentIp url log) := by
  intro t
  unfold hostEvents
  split
  · exact (respond_keepsSent _).logRequest env _ t
  · dsimp only
    split
    · exact id_keepsSent.logRequest env _ _
    · rfl

/-- The search parameter that credential injection sets: query-parameter auth with a nonempty
`paramName` sets it to the token. -/
def authParam (auth : Option AuthConfig) : Option (String × String) :=
  match auth with
  | some a =>
    if a.type = some "query" then
      match a.paramName with
      | some param => if param = "" then none else some (param, jsString a.token)
      | none => none
    else none
  | none => none

/-- `u`, with the search parameter set when there is one. -/
def withParam (u : Url) : Option (String × String) → Url
  | none => u
  | some (n, v) => u.setSearchParam n v

/-- Injection changes the URL only by setting the parameter of query-parameter auth. -/
theorem injectAuth_url {auth : Option AuthConfig} {hs hs' : List (String × String)} {u url : Url}
    (h : injectAuth auth hs u = .ok (hs', url)) : url = withParam u (authParam auth) := by
  unfold injectAuth at h
  split at h
  · cases h
  · rename_i a
    split_ifs at h with hb
    · cases h; simp [authParam, hb, withParam]
    · split at h
      · rename_i _ name hty hname
        split_ifs at h
        · cases h; simp [authParam, hty, withParam]
        · split at h
          · cases h; simp [authParam, hty, withParam]
          · cases h
      · rename_i _ param hty hparam
        split_ifs at h with hp
        · cases h; simp [authParam, hty, hparam, hp, withParam]
        · cases h; simp [authParam, hty, hparam, hp, withParam]
      · rename_i hheader hquery
        cases h
        simp only [authParam]
        split_ifs with hq
        · cases hp : a.paramName with
          | none => rfl
          | some param => exact (hquery _ hq hp).elim
        · rfl

theorem buildForward_ok {config : Config} {sc : ServiceConfig} {req : Request} {u url : Url}
    {note : Nat → List Char} {fwd : Forward} {log : Option (List Char)}
    (h : buildForward config sc req u note = .ok (fwd, url, log)) :
    fwd.url = url.href ∧ url = withParam u (authParam sc.auth) := by
  unfold buildForward at h
  simp only [bind, Except.bind] at h
  split at h
  · cases h
  · rename_i p hp
    obtain ⟨hs', url'⟩ := p
    split_ifs at h <;> cases h <;> exact ⟨rfl, injectAuth_url hp⟩

/-- `fwd` was sent by `forward` for `sc`, to a URL that `new URL` built against the upstream,
that passed the runtime check, and that injection then gave its query parameter. -/
def ForwardedFor (security : SecurityConfig) (sc : ServiceConfig) (fwd : Forward) : Prop :=
  ∃ input u, URL.new input sc.upstream = some u ∧
    validateRuntimeUrl u.href (jsString sc.upstream) security = .ok () ∧
    fwd.url = (withParam u (authParam sc.auth)).href

/-- `ForwardedFor`, with the target that was given to `new URL`. -/
def ForwardedFrom (security : SecurityConfig) (sc : ServiceConfig) (input : String) (fwd : Forward) :
    Prop :=
  ∃ u, URL.new input sc.upstream = some u ∧
    validateRuntimeUrl u.href (jsString sc.upstream) security = .ok () ∧
    fwd.url = (withParam u (authParam sc.auth)).href

theorem ForwardedFrom.forwardedFor {security : SecurityConfig} {sc : ServiceConfig} {input : String}
    {fwd : Forward} (h : ForwardedFrom security sc input fwd) : ForwardedFor security sc fwd :=
  ⟨input, h⟩

theorem forward_forwardedFrom {config : Config} {sc : ServiceConfig} {req : Request} {input : String}
    {u : Url} {note : Nat → List Char} {events : Url → Option (List Char) → Task → Task}
    {fwd : Forward} (hu : URL.new input sc.upstream = some u)
    (hv : validateRuntimeUrl u.href (jsString sc.upstream) config.security = .ok ())
    (he : ∀ url log, KeepsSent (events url log))
    (h : (forward config sc req u note events {}).sent = some fwd) :
    ForwardedFrom config.security sc input fwd := by
  unfold forward at h
  split at h
  · cases h
  · rename_i fwd' url log hb
    rw [he] at h
    cases h
    obtain ⟨hfwd, rfl⟩ := buildForward_ok hb
    exact ⟨u, hu, hv, hfwd⟩

/-- What `handleProxy` sends was built by `new URL` from the target past the service segment. -/
theorem handleProxy_forwardedFrom {config : Config} {env : Env} {name : String} {req : Request}
    {fwd : Forward} (h : (handleProxy config env name req {}).sent = some fwd) :
    ∃ sc, config.service name = some sc ∧ ForwardedFrom config.security sc
      (Js.orElse (jsSubstring req.originalUrl (Js.length ("/" ++ name))) "/") fwd := by
  have hl := fun e => (respond_keepsSent (.json 403 e)).logRequest env
  unfold handleProxy at h
  split at h
  · cases h
  · split at h
    · cases h
    · rename_i sc hsc
      split at h
      · cases h
      · dsimp only at h
        split at h
        · cases h
        · rename_i u hu
          split at h
          · rw [hl _ _ {}] at h; cases h
          · rename_i hv
            split at h
            · cases h
            · rw [hl _ _ {}] at h; cases h
            · exact ⟨sc, hsc, forward_forwardedFrom hu hv (proxyEvents_keepsSent config env sc name req.method _ req.ip) h⟩

theorem handleProxy_sent {config : Config} {env : Env} {name : String} {req : Request}
    {fwd : Forward} (h : (handleProxy config env name req {}).sent = some fwd) :
    ∃ sc, config.service name = some sc ∧ ForwardedFor config.security sc fwd :=
  (handleProxy_forwardedFrom h).imp fun _ ⟨hsc, hf⟩ => ⟨hsc, hf.forwardedFor⟩

/-- What `handleHostProxy` sends was built by `new URL` from the whole target. -/
theorem handleHostProxy_forwardedFrom {config : Config} {env : Env} {req : Request} {fwd : Forward}
    (h : (handleHostProxy config env req {}).sent = some fwd) :
    ∃ name sc, resolveServiceByHost (req.header "host") config.services = some (name, sc) ∧
      ForwardedFrom config.security sc (Js.orElse req.originalUrl "/") fwd := by
  unfold handleHostProxy at h
  split at h
  · cases h
  · rename_i name sc hsc
    split at h
    · cases h
    · dsimp only at h
      split at h
      · cases h
      · rename_i u hu
        split at h
        · cases h
        · rename_i hv
          split at h
          · cases h
          · rw [(respond_keepsSent _).logRequest env _ {}] at h; cases h
          · exact ⟨name, sc, hsc, forward_forwardedFrom hu hv (hostEvents_keepsSent config env name req.method _ req.ip) h⟩

theorem handleHostProxy_sent {config : Config} {env : Env} {req : Request} {fwd : Forward}
    (h : (handleHostProxy config env req {}).sent = some fwd) :
    ∃ name sc, resolveServiceByHost (req.header "host") config.services = some (name, sc) ∧
      ForwardedFor config.security sc fwd :=
  (handleHostProxy_forwardedFrom h).imp fun _ => Exists.imp fun _ ⟨hsc, hf⟩ => ⟨hsc, hf.forwardedFor⟩

/-- `fwd` goes to a URL that parses with the upstream's hostname, over `http:` or `https:`, and
whose hostname the allowlist admits. -/
def PinnedTo (security : SecurityConfig) (sc : ServiceConfig) (fwd : Forward) : Prop :=
  ∃ v o, URL.new fwd.url none = some v ∧ URL.new (jsString sc.upstream) none = some o ∧
    v.hostname = o.hostname ∧ (v.protocol = "http:".toList ∨ v.protocol = "https:".toList) ∧
    isAllowedUpstream (String.mk v.hostname) security.allowedUpstreams = true

theorem scheme_of_protocol {v : Url} (h : v.protocol = "http:".toList ∨ v.protocol = "https:".toList) :
    v.scheme = "http".toList ∨ v.scheme = "https".toList := by
  simp only [Url.protocol] at h
  exact h.imp (fun h => List.append_cancel_right (h.trans rfl))
    (fun h => List.append_cancel_right (h.trans rfl))

/-- The runtime check pins the hostname of the URL it checks, and injection moves only the
query: reparsing the sent URL gives the checked URL's scheme and host back. -/
theorem forwardedFor_pinned {security : SecurityConfig} {sc : ServiceConfig} {fwd : Forward}
    (h : ForwardedFor security sc fwd) : PinnedTo security sc fwd := by
  obtain ⟨input, u, hu, hv, hfwd⟩ := h
  obtain ⟨cu, o, hcu, ho, hhost, hval⟩ := validateRuntimeUrl_hostname hv
  obtain ⟨cu', hcu', hproto, hallow⟩ := validateUpstreamUrl_ok hval
  rw [hcu] at hcu'
  cases hcu'
  unfold PinnedTo
  rw [hfwd]
  rcases hp : authParam sc.auth with _ | ⟨n, val⟩
  · exact ⟨cu, o, hcu, ho, hhost, hproto, hallow⟩
  · have hwf := URL.new_wellFormed hu
    obtain ⟨R, hR⟩ := href_scheme u
    have hsch : cu.scheme = u.scheme := basicParse_scheme hwf.scheme (by rw [← hR]; exact hcu)
    have hsp : isSpecialScheme u.scheme = true ∧ u.scheme ≠ "file".toList := by
      rcases hsch ▸ scheme_of_protocol hproto with h | h <;> rw [h] <;> decide
    have hre := setSearchParam_reparse hwf hsp.1 hsp.2 n val
    rw [show basicParse u.href none = some cu from hcu, Option.map_some'] at hre
    obtain ⟨v, hv, hva⟩ := Option.map_eq_some'.mp hre
    obtain ⟨hvs, -, -, hvh, -⟩ := Url.authority_fields hva
    have hname : v.hostname = cu.hostname := by simp only [Url.hostname, hvh]
    have hpro : v.protocol = cu.protocol := by simp only [Url.protocol, hvs]
    exact ⟨v, o, hv, ho, hname.trans hhost, hpro ▸ hproto, hname ▸ hallow⟩

/-- `GET /gh//api.github.com:444/x` is sent with the credential to port 444, and an
absolute-form `http:` target in host mode is sent over `http:`; the upstream is
`https://api.github.com`. -/
theorem credential_leaves_upstream_origin :
    (serve ghConfig false okEnv (ghRequest "/gh//api.github.com:444/x")).sent =
      some ⟨"https://api.github.com:444/x", "GET",
        [("authorization", "Bearer T"), ("host", "api.github.com:444")], []⟩ ∧
    (serve ghConfig false okEnv (ghRequest "http://api.github.com/")).sent =
      some ⟨"http://api.github.com/", "GET",
        [("authorization", "Bearer T"), ("host", "api.github.com")], []⟩ :=
  ⟨rfl, rfl⟩

/-- Whatever the target and headers, a request either handler sends goes to the hostname of
the service's upstream, over `http:` or `https:`. -/
theorem forward_pinned_to_upstream_host (config : Config) (env : Env) (req : Request)
    (fwd : Forward) :
    (∀ name, (handleProxy config env name req {}).sent = some fwd →
      ∃ sc, config.service name = some sc ∧ PinnedTo config.security sc fwd) ∧
    ((handleHostProxy config env req {}).sent = some fwd →
      ∃ name sc, resolveServiceByHost (req.header "host") config.services = some (name, sc) ∧
        PinnedTo config.security sc fwd) :=
  ⟨fun _ h => (handleProxy_sent h).imp fun _ ⟨hsc, hf⟩ => ⟨hsc, forwardedFor_pinned hf⟩,
    fun h => (handleHostProxy_sent h).imp fun _ => Exists.imp fun _ ⟨hsc, hf⟩ =>
      ⟨hsc, forwardedFor_pinned hf⟩⟩

theorem gh_user_forward_pinned :
    (handleProxy ghConfig okEnv "gh" (ghRequest "/gh/user") {}).sent =
      some ⟨"https://api.github.com/user", "GET",
        [("authorization", "Bearer T"), ("host", "api.github.com")], []⟩ ∧
    ∃ sc, ghConfig.service "gh" = some sc ∧ PinnedTo ghSecurity sc
      ⟨"https://api.github.com/user", "GET",
        [("authorization", "Bearer T"), ("host", "api.github.com")], []⟩ :=
  ⟨rfl, (forward_pinned_to_upstream_host ghConfig okEnv (ghRequest "/gh/user") _).1 "gh" rfl⟩

/-- For a target that `new URL` keeps as it is, a forwarded request goes to the URL the target
resolves to, with the parameter of query-parameter auth set. -/
theorem ForwardedFrom.resolved {security : SecurityConfig} {sc : ServiceConfig} {input : String}
    {fwd : Forward} (h : ForwardedFrom security sc input fwd) {upstream : String} {b : Url}
    (hup : sc.upstream = some upstream) (hb : URL.new upstream none = some b)
    (hs : isSpecialScheme b.scheme = true) (hf : b.scheme ≠ "file".toList)
    (hp : plainRef input.toList = true) :
    ∃ u, u.href = resolvedHref b input.toList ∧ fwd.url = (withParam u (authParam sc.auth)).href := by
  obtain ⟨u, hu, -, hfwd⟩ := h
  obtain ⟨v, hv, hhref⟩ := resolve_href (URL.new_wellFormed hb) hs hf hp
  have huv : u = v := by
    rw [hup] at hu
    change (basicParse upstream none).bind _ = _ at hu
    rw [show basicParse upstream none = some b from hb, Option.some_bind] at hu
    exact Option.some.inj (hu.symm.trans hv)
  exact ⟨u, huv ▸ hhref, hfwd⟩

end ClawGuard.Proxy
