import ClawGuard.Security.Guard
import ClawGuard.Approval.Policy

namespace ClawGuard.Proxy

open Web Security Approval

/-- An inbound request as the handlers see it. `originalUrl` is the raw request target (a
one-byte string); header names are lowercase; `body` is the raw body, empty when none. -/
structure Request where
  method : String
  originalUrl : String
  headers : List (String × String)
  body : List Nat
  ip : String
  deriving DecidableEq, Repr

def Request.header (req : Request) (name : String) : Option String := req.headers.lookup name

/-- `req.headers['x-clawguard-key'] || req.headers['x-agentgate-key']`. -/
def agentKeyOf (req : Request) : Option String :=
  match req.header "x-clawguard-key" with
  | some k => if k = "" then req.header "x-agentgate-key" else some k
  | none => req.header "x-agentgate-key"

/-- What the client is sent: a JSON error body, the upstream response piped through, a JSON
document the model does not detail, or a page of Express's final handler. -/
inductive Reply
  | json (status : Nat) (error : String)
  | piped (status : Nat)
  | data (status : Nat)
  | finalHandler (status : Nat)
  deriving DecidableEq, Repr

/-- `AuditEntry` without its timestamp. -/
structure AuditEntry where
  service : String
  method : String
  path : String
  approved : Bool
  responseStatus : Nat
  agentIp : String
  requestBody : Option (List Char) := none
  responseBody : Option (List Char) := none
  deriving DecidableEq, Repr

/-- The request handed to `transport.request`. -/
structure Forward where
  url : String
  method : String
  headers : List (String × String)
  body : List Nat
  deriving DecidableEq, Repr

/-- What the upstream does once the request is sent: fail before answering, or answer with a
status, a `Location` header and a body that ends or is cut off (then `'end'` never fires). -/
inductive Upstream
  | error (message : String)
  | respond (status : Nat) (location : Option String) (body : List Nat) (ends : Bool)
  deriving DecidableEq, Repr

/-- The world around one request task. `decision` is what the grant map or the human decides
when the action is not `auto_approve` (`.error`: `checkApproval` rejects); `auditFails n` says
whether the `n`-th `audit.logRequest` call of the task throws. -/
structure Env where
  decision : Except String Bool
  upstream : Upstream
  auditFails : Nat → Bool

/-- What a request task has done. `escaped` is an exception no handler caught: a rejection of
the handler's promise, or a throw inside an event callback. -/
structure Task where
  reply : Option Reply := none
  audits : List AuditEntry := []
  logCalls : Nat := 0
  sent : Option Forward := none
  escaped : Option String := none
  deriving DecidableEq, Repr

def respond (r : Reply) (t : Task) : Task := { t with reply := some r }

def escape (e : String) (t : Task) : Task := { t with escaped := some e }

/-- `audit.logRequest(e)`, then `k`. -/
def logRequest (env : Env) (e : AuditEntry) (k : Task → Task) (t : Task) : Task :=
  if env.auditFails t.logCalls then { t with logCalls := t.logCalls + 1, escaped := some "SqliteError" }
  else k { t with audits := t.audits ++ [e], logCalls := t.logCalls + 1 }

/-- `s.substring(n)` on a one-byte string. -/
def jsSubstring (s : String) (n : Nat) : String := String.mk (s.toList.drop n)

/-- `s.substring(0, n)` in UTF-16 units; a cut inside a surrogate pair leaves a lone surrogate,
which the audit store writes as U+FFFD. -/
def jsPrefix : List Char → Nat → List Char
  | [], _ => []
  | _, 0 => []
  | c :: rest, n + 1 =>
    if c.toNat > 0xFFFF then (if n = 0 then ['�'] else c :: jsPrefix rest (n - 1))
    else c :: jsPrefix rest n

/-- Payload capture: the UTF-8 text, cut at `maxPayloadLogSize || 10240` units with `note`. -/
def payloadLog (security : SecurityConfig) (bytes : List Nat) (note : Nat → List Char) : List Char :=
  let maxSize := if security.maxPayloadLogSize = 0 then 10240 else security.maxPayloadLogSize
  let s := utf8Run utf8Init bytes
  if maxSize < Js.length (String.mk s) then jsPrefix s maxSize ++ note (Js.length (String.mk s)) else s

/-- The path-prefix handler's truncation note. -/
def noteWithTotal (n : Nat) : List Char :=
  ("... [truncated, " ++ toString n ++ " bytes total]").toList

/-- The host-header handler's truncation note. -/
def noteShort (_ : Nat) : List Char := "... [truncated]".toList

/-- The request headers minus `x-clawguard*`, `x-agentgate*` and `host`. -/
def forwardHeaders (req : Request) : List (String × String) :=
  req.headers.filter fun p =>
    let lower := String.mk (p.1.toList.map Char.toLower)
    !(Js.startsWith lower "x-clawguard" || Js.startsWith lower "x-agentgate" || lower == "host")

def setHeader (k v : String) (hs : List (String × String)) : List (String × String) :=
  Js.Obj.upsert k v hs

/-- Credential injection. `.error`: a config without `auth`, or a header recipe whose token is
`undefined` (which `transport.request` rejects in the same `try`). -/
def injectAuth (auth : Option AuthConfig) (hs : List (String × String)) (url : Url) :
    Except String (List (String × String) × Url) :=
  match auth with
  | none => .error "TypeError: Cannot read properties of undefined (reading 'type')"
  | some a =>
    if a.type = some "bearer" then .ok (setHeader "authorization" ("Bearer " ++ jsString a.token) hs, url)
    else match a.type, a.headerName, a.paramName with
      | some "header", some name, _ =>
        if name = "" then .ok (hs, url)
        else match a.token with
          | some token => .ok (setHeader name token hs, url)
          | none => .error "TypeError [ERR_HTTP_INVALID_HEADER_VALUE]"
      | some "query", _, some param =>
        if param = "" then .ok (hs, url) else .ok (hs, url.setSearchParam param (jsString a.token))
      | _, _, _ => .ok (hs, url)

def isTokenChar (c : Char) : Bool := c.isAlphanum || "!#$%&'*+-.^_|~".toList.contains c || c.toNat = 96

/-- Node's checks on outgoing header names and values. -/
def validHeader (p : String × String) : Bool :=
  p.1 ≠ "" && p.1.toList.all isTokenChar &&
    p.2.toList.all fun c => c == '\t' || (0x20 ≤ c.toNat && c.toNat ≤ 0x7E) || (0x80 ≤ c.toNat && c.toNat ≤ 0xFF)

/-- The synchronous part of the `try` block up to `transport.request`: the request sent, the
URL after injection and the captured request body. -/
def buildForward (config : Config) (sc : ServiceConfig) (req : Request) (upstreamUrl : Url)
    (note : Nat → List Char) : Except String (Forward × Url × Option (List Char)) := do
  let (hs, url) ← injectAuth sc.auth (forwardHeaders req) upstreamUrl
  let hs := setHeader "host" (String.mk url.hostPort) hs
  let requestBodyLog :=
    if config.logPayload ∧ req.body ≠ [] then some (payloadLog config.security req.body note) else none
  if hs.all validHeader then pure (⟨url.href, req.method, hs, req.body⟩, url, requestBodyLog)
  else throw "TypeError [ERR_INVALID_HTTP_TOKEN]"

/-- `checkApproval`: `auto_approve` passes at once, else the grant map or the prompt decides. -/
def checkApproval (env : Env) (sc : ServiceConfig) (method path : String) : Except String Bool :=
  match getAction sc method path with
  | .error e => .error e
  | .ok action => if action = some "auto_approve" then .ok true else env.decision

/-- The fields every audit row of one request shares. -/
def entry (service method path : String) (approved : Bool) (status : Nat) (agentIp : String)
    (requestBody : Option (List Char)) : AuditEntry :=
  { service, method, path, approved, responseStatus := status, agentIp, requestBody }

/-- After `transport.request`: the `'error'` listener, or the response callback of
`handleProxy` with its redirect re-check, `'end'` audit and pipe. -/
def proxyEvents (config : Config) (env : Env) (sc : ServiceConfig) (serviceName method path agentIp : String)
    (url : Url) (requestBodyLog : Option (List Char)) (t : Task) : Task :=
  match env.upstream with
  | .error msg =>
    logRequest env (entry serviceName method path true 502 agentIp requestBodyLog)
      (respond (.json 502 ("Upstream error: " ++ msg))) t
  | .respond status location body ends =>
    let pipe := fun t =>
      let t := respond (.piped status) t
      if ends then
        logRequest env { entry serviceName method path true status agentIp requestBodyLog with
          responseBody := if config.logPayload ∧ body ≠ [] then
            some (payloadLog config.security body noteWithTotal) else none } id t
      else t
    if !config.security.followRedirects ∧ 300 ≤ status ∧ status < 400 then
      match location with
      | some loc =>
        if loc = "" then pipe t
        else match URL.new loc (some url.href) with
          | none => escape "TypeError: Invalid URL" t
          | some target =>
            match validateRuntimeUrl target.href (jsString sc.upstream) config.security with
            | .error _ =>
              logRequest env (entry serviceName method path true 403 agentIp requestBodyLog)
                (respond (.json 403 "Redirect blocked by security policy")) t
            | .ok () => pipe t
      | none => pipe t
    else pipe t

/-- The forwarding part shared by both handlers once approved: the `try` block, then the
upstream events. -/
def forward (config : Config) (sc : ServiceConfig) (req : Request) (upstreamUrl : Url)
    (note : Nat → List Char) (events : Url → Option (List Char) → Task → Task) (t : Task) : Task :=
  match buildForward config sc req upstreamUrl note with
  | .error e => respond (.json 500 e) t
  | .ok (fwd, url, requestBodyLog) => events url requestBodyLog { t with sent := some fwd }

/-- `handleProxy` for the route parameter `serviceName`. -/
def handleProxy (config : Config) (env : Env) (serviceName : String) (req : Request) (t : Task) :
    Task :=
  if Js.startsWith serviceName "__" then respond (.json 404 "Not found") t
  else match config.service serviceName with
  | none => respond (.json 404 ("Unknown service: " ++ serviceName)) t
  | some sc =>
    if agentKeyOf req ≠ some config.agentKey then respond (.json 401 "Invalid or missing X-ClawGuard-Key") t
    else
      let upstreamPath := Js.orElse (jsSubstring req.originalUrl (Js.length ("/" ++ serviceName))) "/"
      match URL.new upstreamPath sc.upstream with
      | none => escape "TypeError: Invalid URL" t
      | some upstreamUrl =>
        match validateRuntimeUrl upstreamUrl.href (jsString sc.upstream) config.security with
        | .error _ =>
          logRequest env (entry serviceName req.method upstreamPath false 403 req.ip none)
            (respond (.json 403 "Request blocked by security policy")) t
        | .ok () =>
          match checkApproval env sc req.method upstreamPath with
          | .error e => escape e t
          | .ok false =>
            logRequest env (entry serviceName req.method upstreamPath false 403 req.ip none)
              (respond (.json 403 "Approval denied or timed out")) t
          | .ok true =>
            forward config sc req upstreamUrl noteWithTotal
              (proxyEvents config env sc serviceName req.method upstreamPath req.ip) t

/-- `resolveServiceByHost`: the first service, in `Object.entries` order, listing the Host
header's name (port stripped) among its hostnames. -/
def resolveServiceByHost (host : Option String) (services : Js.Obj ServiceConfig) :
    Option (String × ServiceConfig) :=
  match host with
  | none => none
  | some h =>
    if h = "" then none
    else services.entries.find? fun p => (p.2.hostnames.getD []).any (· == Js.splitFirst h ':')

/-- The response callback of `handleHostProxy`: no redirect re-check. -/
def hostEvents (config : Config) (env : Env) (serviceName method path agentIp : String)
    (_ : Url) (requestBodyLog : Option (List Char)) (t : Task) : Task :=
  match env.upstream with
  | .error msg =>
    logRequest env (entry serviceName method path true 502 agentIp requestBodyLog)
      (respond (.json 502 ("Upstream error: " ++ msg))) t
  | .respond status _ body ends =>
    let t := respond (.piped status) t
    if ends then
      logRequest env { entry serviceName method path true status agentIp requestBodyLog with
        responseBody := if config.logPayload ∧ body ≠ [] then
          some (payloadLog config.security body noteShort) else none } id t
    else t

/-- `handleHostProxy`. -/
def handleHostProxy (config : Config) (env : Env) (req : Request) (t : Task) : Task :=
  match resolveServiceByHost (req.header "host") config.services with
  | none =>
    respond (.json 404 "Unknown host. Configure hostnames in service config for host-based routing.") t
  | some (serviceName, sc) =>
    if agentKeyOf req ≠ some config.agentKey then respond (.json 401 "Invalid or missing X-ClawGuard-Key") t
    else
      let upstreamPath := Js.orElse req.originalUrl "/"
      match URL.new upstreamPath sc.upstream with
      | none => escape "TypeError: Invalid URL" t
      | some upstreamUrl =>
        match validateRuntimeUrl upstreamUrl.href (jsString sc.upstream) config.security with
        | .error _ => respond (.json 403 "Request blocked by security policy") t
        | .ok () =>
          match checkApproval env sc req.method upstreamPath with
          | .error e => escape e t
          | .ok false =>
            logRequest env (entry serviceName req.method upstreamPath false 403 req.ip none)
              (respond (.json 403 "Approval denied or timed out")) t
          | .ok true =>
            forward config sc req upstreamUrl noteShort
              (hostEvents config env serviceName req.method upstreamPath req.ip) t

/-- A request for `target` with the agent key and `Host: api.github.com`. -/
def ghRequest (target : String) : Request where
  method := "GET"
  originalUrl := target
  headers := [("host", "api.github.com"), ("x-clawguard-key", "K")]
  body := []
  ip := "10.0.0.2"

/-- An upstream that answers `200` and an audit store that never fails. -/
def okEnv : Env where
  decision := .ok true
  upstream := .respond 200 none [] true
  auditFails := fun _ => false

/-- Approved, and the upstream redirects to another host. -/
def redirectEnv : Env where
  decision := .ok true
  upstream := .respond 302 (some "https://attacker.example/") [] true
  auditFails := fun _ => false

/-- A protocol-relative target that swings the host: path mode audits the SSRF denial, host
mode does not; and a redirect off the upstream host: path mode blocks it, host mode pipes it.
The host-mode targets are ones the app routes by `Host`: `//evil.example/x` and `/`. -/
theorem hostMode_skips_ssrf_audit_and_redirect_check :
    (handleProxy ghConfig okEnv "gh" (ghRequest "/gh//evil.example/x") {}).audits =
      [entry "gh" "GET" "//evil.example/x" false 403 "10.0.0.2" none] ∧
    (handleHostProxy ghConfig okEnv (ghRequest "//evil.example/x") {}).audits = [] ∧
    (handleProxy ghConfig redirectEnv "gh" (ghRequest "/gh/user") {}).reply =
      some (.json 403 "Redirect blocked by security policy") ∧
    (handleHostProxy ghConfig redirectEnv (ghRequest "/") {}).reply = some (.piped 302) :=
  ⟨rfl, rfl, rfl, rfl⟩

/-- Approved, and the upstream answers `200` but the body is cut off: `'end'` never fires. -/
def abortedEnv : Env where
  decision := .ok true
  upstream := .respond 200 none [104, 105] false
  auditFails := fun _ => false

/-- Terminal outcomes without an audit row: a host-mode SSRF denial, and an upstream response
aborted mid-body in either mode. -/
theorem terminal_outcomes_without_audit :
    (handleHostProxy ghConfig okEnv (ghRequest "//evil.example/x") {}) =
      { reply := some (.json 403 "Request blocked by security policy") } ∧
    (handleProxy ghConfig abortedEnv "gh" (ghRequest "/gh/user") {}).audits = [] ∧
    (handleHostProxy ghConfig abortedEnv (ghRequest "/") {}).audits = [] :=
  ⟨rfl, rfl, rfl⟩

end ClawGuard.Proxy
