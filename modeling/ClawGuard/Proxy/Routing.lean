import ClawGuard.Proxy.Handler

namespace ClawGuard.Proxy

open Web Security

/-- The handler `createProxy` selects; `proxy` carries the raw `:service` segment. -/
inductive Route
  | admin
  | status
  | audit
  | proxy (segment : List Char)
  | host
  deriving DecidableEq, Repr

/-- `parseurl(req).pathname`: an origin-form target up to its `?` or `#`; an absolute-form
target's path after its authority. -/
def pathnameOf (target : String) : List Char :=
  let l := target.toList
  let path := match l with
    | '/' :: _ => l
    | _ =>
      match splitScheme l with
      | some (_, '/' :: '/' :: rest) =>
        let p := rest.dropWhile (· ≠ '/')
        if p = [] then ['/'] else p
      | _ => l
  path.takeWhile fun c => c ≠ '?' ∧ c ≠ '#'

/-- The first route of `createProxy` whose path pattern matches, case-insensitively:
`/__admin` (when enabled), `GET /__status`, `GET /__audit`, `/:service`, `/:service/*`, `*`. -/
def route (adminEnabled : Bool) (method : String) (path : List Char) : Route :=
  let lower := path.map Char.toLower
  let get := method = "GET" ∨ method = "HEAD"
  if adminEnabled ∧ (lower = "/__admin".toList ∨ "/__admin/".toList <+: lower) then .admin
  else if get ∧ (lower = "/__status".toList ∨ lower = "/__status/".toList) then .status
  else if get ∧ (lower = "/__audit".toList ∨ lower = "/__audit/".toList) then .audit
  else match path with
    | '/' :: rest =>
      if rest.takeWhile (· ≠ '/') = [] then .host else .proxy (rest.takeWhile (· ≠ '/'))
    | _ => .host

/-- The app built by `createProxy` answering one request. The admin router is modelled in
`Admin.Services`; the introspection endpoints answer `401` or a JSON document. A route
parameter that does not decode ends in Express's final handler with `400`. -/
def serve (config : Config) (adminEnabled : Bool) (env : Env) (req : Request) : Task :=
  match route adminEnabled req.method (pathnameOf req.originalUrl) with
  | .admin => {}
  | .status | .audit =>
    if req.header "x-clawguard-key" ≠ some config.agentKey then
      respond (.json 401 "Invalid or missing X-ClawGuard-Key") {}
    else respond (.data 200) {}
  | .proxy seg =>
    match decodeURIComponent (String.mk seg) with
    | none => respond (.finalHandler 400) {}
    | some name => handleProxy config env name req {}
  | .host => handleHostProxy config env req {}

/-- `GET /constructor`: `config.services['constructor']` is `Object`, its `upstream` is
`undefined`, and `new URL('/', undefined)` throws outside any `try`. -/
theorem constructor_segment_escapes :
    (serve ghConfig false okEnv (ghRequest "/constructor")) =
      { escaped := some "TypeError: Invalid URL" } :=
  rfl

private theorem takeWhile_segment {seg rest : List Char} (hslash : '/' ∉ seg)
    (hrest : rest = [] ∨ rest.head? = some '/') : (seg ++ rest).takeWhile (· ≠ '/') = seg := by
  rw [List.takeWhile_append_of_pos (fun c hc => by simpa using fun h : c = '/' => hslash (h ▸ hc))]
  rcases hrest with rfl | hr
  · simp
  · obtain ⟨c, r, rfl⟩ := List.exists_cons_of_ne_nil (fun h : rest = [] => by simp [h] at hr)
    simp only [List.head?_cons, Option.some.injEq] at hr
    simp [hr]

/-- A first segment that does not start with `__` keeps the lowercased path off `/__`. -/
private theorem not_reserved {seg rest : List Char} (hseg : seg ≠ [])
    (hrest : rest = [] ∨ rest.head? = some '/') (hreserved : ¬ "__".toList <+: seg) :
    ¬ "/__".toList <+: ('/' :: (seg ++ rest)).map Char.toLower := by
  intro h
  obtain ⟨c, s', rfl⟩ := List.exists_cons_of_ne_nil hseg
  simp only [List.map_cons, List.cons_append, List.map_append] at h
  have h' : ['/', '_', '_'] <+: '/' :: c.toLower :: (s'.map Char.toLower ++ rest.map Char.toLower) := h
  simp only [List.cons_prefix_cons, true_and] at h'
  have hc : c = '_' := toLower_eq_self_of h'.1.symm (by decide)
  subst hc
  cases s' with
  | cons d s'' =>
    simp only [List.map_cons, List.cons_append, List.cons_prefix_cons] at h'
    have hd : d = '_' := toLower_eq_self_of h'.2.1.symm (by decide)
    exact hreserved (by simp [hd])
  | nil =>
    rcases hrest with rfl | hr
    · simp at h'
    · obtain ⟨e, r, rfl⟩ := List.exists_cons_of_ne_nil (fun h : rest = [] => by simp [h] at hr)
      simp only [List.head?_cons, Option.some.injEq] at hr
      subst hr
      simp [Char.toLower] at h'

/-- Every path whose first segment is not empty and not `__`-prefixed goes to `handleProxy`,
whatever its other segments and whatever the Host header. -/
theorem route_of_segment (adminEnabled : Bool) (method : String) {seg rest : List Char}
    (hseg : seg ≠ []) (hslash : '/' ∉ seg) (hrest : rest = [] ∨ rest.head? = some '/')
    (hreserved : ¬ "__".toList <+: seg) :
    route adminEnabled method ('/' :: (seg ++ rest)) = .proxy seg := by
  have hpre := not_reserved hseg hrest hreserved
  have off : ∀ w : List Char, "/__".toList <+: w → ¬ w <+: ('/' :: (seg ++ rest)).map Char.toLower :=
    fun w hw hl => hpre (hw.trans hl)
  have off' : ∀ w : List Char, "/__".toList <+: w → ('/' :: (seg ++ rest)).map Char.toLower ≠ w :=
    fun w hw he => off w hw (he ▸ List.prefix_refl _)
  unfold route
  rw [if_neg (by rintro ⟨-, h | h⟩ <;> [exact off' _ (by decide) h; exact off _ (by decide) h]),
    if_neg (by rintro ⟨-, h | h⟩ <;> exact off' _ (by decide) h),
    if_neg (by rintro ⟨-, h | h⟩ <;> exact off' _ (by decide) h)]
  simp only [takeWhile_segment hslash hrest, if_neg hseg]

/-- A path whose first segment names no service is answered `404 Unknown service` by
`handleProxy`: the catch-all host-header route is never reached. -/
theorem serve_unknown_service (config : Config) (adminEnabled : Bool) (env : Env) (req : Request)
    {seg rest : List Char} {name : String} (hpath : pathnameOf req.originalUrl = '/' :: (seg ++ rest))
    (hseg : seg ≠ []) (hslash : '/' ∉ seg) (hrest : rest = [] ∨ rest.head? = some '/')
    (hreserved : ¬ "__".toList <+: seg) (hname : decodeURIComponent (String.mk seg) = some name)
    (hname' : Js.startsWith name "__" = false) (hunknown : config.service name = none) :
    (serve config adminEnabled env req).reply = some (.json 404 ("Unknown service: " ++ name)) := by
  simp only [serve, hpath, route_of_segment adminEnabled req.method hseg hslash hrest hreserved, hname,
    handleProxy, hname', hunknown]
  rfl

/-- A service routed by Host header: `openai` intercepts `api.openai.com`. -/
def openaiService : ServiceConfig where
  upstream := some "https://api.openai.com"
  auth := some { type := some "bearer", token := some "T" }
  policy := some { default := some "auto_approve" }
  hostnames := some ["api.openai.com"]

def openaiSecurity : SecurityConfig where
  allowedUpstreams := ["api.openai.com"]
  blockPrivateIPs := true
  followRedirects := false
  maxPayloadLogSize := 10240

def hostRoutedConfig : Config where
  agentKey := "K"
  services := { own := [("openai", openaiService)] }
  security := openaiSecurity
  logPayload := false

/-- `GET /v1/models` with `Host: api.openai.com:443`, as a client of the intercepted API sends it. -/
def hostRoutedRequest : Request where
  method := "GET"
  originalUrl := "/v1/models"
  headers := [("host", "api.openai.com:443"), ("x-clawguard-key", "K")]
  body := []
  ip := "127.0.0.1"

theorem hostRouted_answered_unknown_service :
    resolveServiceByHost (hostRoutedRequest.header "host") hostRoutedConfig.services ≠ none ∧
    (serve hostRoutedConfig false okEnv hostRoutedRequest).reply =
      some (.json 404 "Unknown service: v1") := by
  constructor
  · decide
  · rfl

end ClawGuard.Proxy
