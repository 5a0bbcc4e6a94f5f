import ClawGuard.Config
import ClawGuard.Url.Parser

namespace ClawGuard.Security

open Web

/-- `String(v)` of an optional string, as `new URL(v)` sees it. -/
def jsString (v : Option String) : String := v.getD "undefined"

def lowerPrefix (p l : List Char) : Bool := p.isPrefixOf (l.map Char.toLower)

/-- `PRIVATE_IP_RANGES.some((range) => range.test(ip))`. -/
def isPrivateIP (ip : String) : Bool :=
  let l := ip.toList
  "127.".toList.isPrefixOf l || "10.".toList.isPrefixOf l ||
    (match l with
      | '1' :: '7' :: '2' :: '.' :: a :: b :: '.' :: _ =>
        (a == '1' && '6' ≤ b && b ≤ '9') || (a == '2' && b.isDigit) || (a == '3' && (b == '0' || b == '1'))
      | _ => false) ||
    "192.168.".toList.isPrefixOf l || "169.254.".toList.isPrefixOf l || "0.".toList.isPrefixOf l ||
    l == "::1".toList || lowerPrefix "fc00:".toList l || lowerPrefix "fe80:".toList l

/-- Exact match, or a subdomain of an entry; an empty allowlist admits every host. -/
def isAllowedUpstream (hostname : String) (allowedUpstreams : List String) : Bool :=
  allowedUpstreams.isEmpty ||
    allowedUpstreams.any fun allowed => hostname == allowed || Js.endsWith hostname ("." ++ allowed)

/-- `{ valid: true }` is `.ok ()`; `{ valid: false, reason }` is `.error reason`. -/
def validateUpstreamUrl (urlString : String) (security : SecurityConfig) : Except String Unit :=
  match URL.new urlString none with
  | none => .error ("Invalid URL: " ++ urlString)
  | some parsed =>
    let hostname := String.mk parsed.hostname
    if !isAllowedUpstream hostname security.allowedUpstreams then
      .error ("Upstream \"" ++ hostname ++ "\" is not in the allowed upstreams list")
    else if security.blockPrivateIPs && isPrivateIP hostname then
      .error ("Upstream \"" ++ hostname ++ "\" resolves to a private IP (blocked by security policy)")
    else if !(parsed.protocol == "http:".toList || parsed.protocol == "https:".toList) then
      .error ("Unsupported protocol: " ++ String.mk parsed.protocol)
    else .ok ()

/-- The runtime host pin: the constructed URL must have the upstream's hostname, then pass
`validateUpstreamUrl`. -/
def validateRuntimeUrl (constructedUrl originalUpstream : String) (security : SecurityConfig) :
    Except String Unit :=
  match URL.new constructedUrl none, URL.new originalUpstream none with
  | some constructed, some original =>
    if constructed.hostname ≠ original.hostname then
      .error ("Path traversal detected: constructed URL points to \"" ++
        String.mk constructed.hostname ++ "\" instead of \"" ++ String.mk original.hostname ++ "\"")
    else validateUpstreamUrl constructedUrl security
  | _, _ => .error "Failed to parse URL"

/-- The startup check of one service: its upstream, then each intercept hostname, which must
be the upstream's hostname or pass the allowlist. `.error` is a `process.exit(1)`. -/
def validateService (security : SecurityConfig) (name : String) (service : ServiceConfig) :
    Except String Unit := do
  match validateUpstreamUrl (jsString service.upstream) security with
  | .error reason => throw ("Security violation for service \"" ++ name ++ "\": " ++ reason)
  | .ok () => pure ()
  let upstreamHost := String.mk (((URL.new (jsString service.upstream) none).map Url.hostname).getD [])
  for hostname in service.hostnames.getD [] do
    if hostname ≠ upstreamHost && !isAllowedUpstream hostname security.allowedUpstreams then
      throw ("Security violation for service \"" ++ name ++ "\": hostname \"" ++ hostname ++
        "\" is not in the allowed upstreams list")

/-- `validateAllUpstreams`: every configured service, in `Object.entries` order. -/
def validateAllUpstreams (config : Config) : Except String Unit :=
  (config.services.entries).forM fun (name, service) => validateService config.security name service

theorem validateRuntimeUrl_hostname {c o : String} {security : SecurityConfig}
    (h : validateRuntimeUrl c o security = .ok ()) :
    ∃ cu ou, URL.new c none = some cu ∧ URL.new o none = some ou ∧ cu.hostname = ou.hostname ∧
      validateUpstreamUrl c security = .ok () := by
  unfold validateRuntimeUrl at h
  split at h
  · rename_i cu ou hc ho
    by_cases hne : cu.hostname = ou.hostname
    · rw [if_neg (not_not.mpr hne)] at h
      exact ⟨cu, ou, hc, ho, hne, h⟩
    · rw [if_pos hne] at h
      cases h
  · cases h

theorem validateUpstreamUrl_ok {s : String} {security : SecurityConfig}
    (h : validateUpstreamUrl s security = .ok ()) :
    ∃ u, URL.new s none = some u ∧ (u.protocol = "http:".toList ∨ u.protocol = "https:".toList) ∧
      isAllowedUpstream (String.mk u.hostname) security.allowedUpstreams = true := by
  unfold validateUpstreamUrl at h
  split at h
  · cases h
  · rename_i u hu
    dsimp only at h
    split_ifs at h with h1 h2 h3
    simp only [Bool.not_eq_true', Bool.not_eq_false, Bool.or_eq_true, beq_iff_eq] at h1 h3
    exact ⟨u, hu, h3, h1⟩

/-- With a non-empty allowlist, a hostname is admitted exactly when the labels of some entry end
its labels: matching is by whole DNS labels, never by the characters of a label. -/
theorem allowlist_matches_label_suffix (hostname : String) (allowedUpstreams : List String)
    (hne : allowedUpstreams ≠ []) :
    isAllowedUpstream hostname allowedUpstreams = true ↔
      ∃ allowed ∈ allowedUpstreams, Js.split allowed '.' <:+ Js.split hostname '.' := by
  simp only [isAllowedUpstream, List.isEmpty_iff, hne, decide_False, Bool.false_or,
    List.any_eq_true, Bool.or_eq_true, beq_iff_eq, Js.endsWith_iff, Js.split_suffix_iff, false_or]
  rfl

example : isAllowedUpstream "evilexample.com" ["example.com"] = false := by decide

/-- The spec's example: `example.com` admits `api.example.com`, and no label list of it ends
those of `evilexample.com`. -/
theorem example_com_labels :
    ["example.com"] ≠ [] ∧
    (isAllowedUpstream "api.example.com" ["example.com"] = true ↔
      ∃ allowed ∈ ["example.com"], Js.split allowed '.' <:+ Js.split "api.example.com" '.') :=
  ⟨List.cons_ne_nil _ _, allowlist_matches_label_suffix _ _ (List.cons_ne_nil _ _)⟩

/-- `gh`: `https://api.github.com` with a bearer token, host-routed for `api.github.com`, and
prompting on every request. -/
def ghService : ServiceConfig where
  upstream := some "https://api.github.com"
  auth := some { type := some "bearer", token := some "T" }
  policy := some { default := some "require_approval" }
  hostnames := some ["api.github.com"]

def ghSecurity : SecurityConfig where
  allowedUpstreams := ["api.github.com"]
  blockPrivateIPs := true
  followRedirects := false
  maxPayloadLogSize := 10240

/-- A config file with `gh` as its one service. -/
def ghConfig : Config where
  agentKey := "K"
  services := { own := [("gh", ghService)] }
  security := ghSecurity
  logPayload := false

end ClawGuard.Security
