import ClawGuard.Admin.Services
import ClawGuard.Admin.Allowlist
import ClawGuard.Audit
import ClawGuard.Config.Load
import ClawGuard.Telegram.Pairing

namespace ClawGuard.Admin

open Approval Audit Load Telegram

/-- What the router reads of the configuration: `admin.pin` and
`notifications.telegram.pairing.enabled` as `loadConfig` leaves them, `admin.allowedIPs`, and
`security`. -/
structure AdminConfig where
  pin : Option Value
  allowedIPs : List String
  security : SecurityConfig
  pairingEnabled : Option Value

/-- What the routes read and write. -/
structure AdminState where
  /-- `config.services` and the `services_override` table. -/
  table : Table
  /-- The approval manager and the `approvals` table. -/
  store : Store
  /-- The `requests` table. -/
  requests : List RequestRow
  /-- The `telegram_paired_users` table. -/
  pairedUsers : Js.Map PairedUser

/-- The routes registered with `pinAuth`, with what each reads of the request. -/
inductive ApiRoute
  | stats
  | listServices
  | createService (body : Except String PostBody)
  | updateService (name : String) (body : Except String PutBody)
  | deleteService (name : String)
  | approvals
  | revoke (service : String)
  | revokeAll
  /-- `GET /api/requests` with its `limit` query parameter. -/
  | requests (limit : Option String)
  | allowedUpstreams
  | telegram

/-- `GET /`, `POST /api/login` with its body as `JSON.parse` reads it (`none` when it throws), and
the API. -/
inductive AdminRoute
  | page
  | login (body : Option Value)
  | api (route : ApiRoute)

structure AdminRequest where
  ip : Option String
  remoteAddress : Option String
  /-- `req.headers['x-clawguard-pin']`. -/
  pin : Option String
  route : AdminRoute

/-- What the router sends. -/
inductive AdminReply
  /-- `public/index.html`. -/
  | page
  | answer (a : Answer)
  | revoked (message : String)
  | revokedAll (count : Nat)
  | stats (s : DashboardStats)
  | services (view : Js.Obj ServiceView)
  | approvals (active : Js.Obj StatusEntry) (recent : List Row)
  | requests (rows : List RequestRow)
  | upstreams (allowedUpstreams : List String) (blockPrivateIPs : Bool)
  | telegram (pairedUsers : Js.Map PairedUser) (pairingEnabled : Option Value)
  /-- An exception in a handler, which Express answers with `500`. -/
  | serverError

/-- `pinAuth` lets the request through: the header is not `!==` to `config.admin.pin`. -/
def pinAuth (pin : Option Value) (header : Option String) : Bool :=
  Value.strictEqRead (header.map .str) pin

/-- `POST /api/login`: a body that does not parse reads as `{}`, and reading `pin` of a `null`
body throws. -/
def login (pin : Option Value) (body : Option Value) : AdminReply :=
  match body.getD (.obj [] []) with
  | .null => .serverError
  | body =>
    if Value.strictEqRead (body.get "pin") pin then .answer (.ok none)
    else .answer (.error 401 "Invalid PIN")

/-- `parseInt(req.query['limit']) || 100`: `NaN` and `0` fall back to 100. -/
def requestLimit (limit : Option String) : Int :=
  match limit.bind parseInt with
  | some n => if n = 0 then 100 else n
  | none => 100

/-- The handlers behind `pinAuth`, at `now`. -/
def handleApi (config : AdminConfig) (now todayStart : Nat) (s : AdminState) :
    ApiRoute → AdminReply × AdminState
  | .stats =>
    let (active, store) := getActiveCount s.store now
    (.stats (getDashboardStats s.requests now todayStart active s.table.services.own.length),
      { s with store })
  | .listServices =>
    match getServices s.table.services with
    | some view => (.services view, s)
    | none => (.serverError, s)
  | .createService body =>
    let (a, table) := postService config.security s.table body
    (.answer a, { s with table })
  | .updateService name body =>
    let (a, table) := putService config.security s.table name body
    (.answer a, { s with table })
  | .deleteService name =>
    let (a, table) := deleteService s.table name
    let store := if s.table.services.truthy name then (revokeApproval s.store name).2 else s.store
    (.answer a, { s with table, store })
  | .approvals => (.approvals (getStatus s.store now) (getRecentApprovals s.store.approvals 20), s)
  | .revoke service =>
    let (revoked, store) := revokeApproval s.store service
    (if revoked then .revoked ("Approval for \"" ++ service ++ "\" revoked")
      else .answer (.error 404 ("No active approval for \"" ++ service ++ "\"")), { s with store })
  | .revokeAll =>
    let (count, store) := revokeAll s.store
    (.revokedAll count, { s with store })
  | .requests limit => (.requests (getRecentRequests s.requests (requestLimit limit)), s)
  | .allowedUpstreams =>
    (.upstreams config.security.allowedUpstreams config.security.blockPrivateIPs, s)
  | .telegram => (.telegram s.pairedUsers config.pairingEnabled, s)

def invalidPin : AdminReply := .answer (.error 401 "Invalid or missing X-ClawGuard-Pin header")

/-- `createAdminRouter` answering one request at `now`. -/
def adminRouter (config : AdminConfig) (now todayStart : Nat) (s : AdminState)
    (req : AdminRequest) : AdminReply × AdminState :=
  match adminIpGate config.allowedIPs req.ip req.remoteAddress with
  | .error (status, message) => (.answer (.error status message), s)
  | .ok () =>
    match req.route with
    | .page => (.page, s)
    | .login body => (login config.pin body, s)
    | .api route =>
      if pinAuth config.pin req.pin then handleApi config now todayStart s route
      else (invalidPin, s)

theorem adminIpGate_error {allowedIPs : List String} {ip remoteAddress : Option String}
    {e : Nat × String} (h : adminIpGate allowedIPs ip remoteAddress = .error e) :
    e = (403, "Admin panel is not accessible from your IP") := by
  unfold adminIpGate at h
  dsimp only at h
  split at h
  · cases h; rfl
  · cases h

/-- A request that `pinAuth` stops changes nothing, and every API route answers it `401`, or
`403` from the IP gate. -/
theorem adminRouter_of_pinAuth {config : AdminConfig} {req : AdminRequest}
    (h : pinAuth config.pin req.pin = false) (now todayStart : Nat) (s : AdminState) :
    (adminRouter config now todayStart s req).2 = s ∧
      ∀ route, req.route = .api route →
        (adminRouter config now todayStart s req).1 = invalidPin ∨
        (adminRouter config now todayStart s req).1 =
          .answer (.error 403 "Admin panel is not accessible from your IP") := by
  unfold adminRouter
  cases hg : adminIpGate config.allowedIPs req.ip req.remoteAddress with
  | error e =>
    obtain rfl := adminIpGate_error hg
    exact ⟨rfl, fun _ _ => .inr rfl⟩
  | ok u =>
    refine ⟨?_, fun route hr => ?_⟩
    · dsimp only
      split <;> simp [h]
    · simp [hr, h]

/-- A truthy PIN is matched neither by a missing header nor by an empty one. -/
theorem pinAuth_of_truthy {pin : Option Value} (h : Value.truthy pin) :
    pinAuth pin none = false ∧ pinAuth pin (some "") = false := by
  obtain ⟨v, rfl⟩ : ∃ v, pin = some v :=
    Option.isSome_iff_exists.mp (by cases pin <;> simp_all [Value.truthy])
  refine ⟨rfl, ?_⟩
  cases v with
  | str p =>
    have hp : p ≠ "" := by simpa [Value.truthy] using h
    simp [pinAuth, Value.strictEqRead, Value.strictEq, Ne.symm hp]
  | _ => rfl

/-- With any configuration that `loadConfig` returns and whose admin panel is on, a request
without an `X-ClawGuard-Pin` header, or with an empty one, changes neither the services, the
override rows, the grants, the approval rows nor the audit tables, and every API route answers it
`401` (or `403` from the IP gate). -/
theorem admin_api_needs_pin {env : String → Option String} {parsed config : Value}
    (hload : loadConfig env parsed = .ok config)
    (henabled : Value.truthy (Value.read (config.get "admin") "enabled"))
    {ac : AdminConfig} (hpin : ac.pin = Value.read (config.get "admin") "pin")
    {req : AdminRequest} (hreq : req.pin = none ∨ req.pin = some "") (now todayStart : Nat)
    (s : AdminState) :
    (adminRouter ac now todayStart s req).2 = s ∧
      ∀ route, req.route = .api route →
        (adminRouter ac now todayStart s req).1 = invalidPin ∨
        (adminRouter ac now todayStart s req).1 =
          .answer (.error 403 "Admin panel is not accessible from your IP") := by
  obtain ⟨-, -, -, hs, -⟩ := loadConfig_ok hload
  have hp := pinAuth_of_truthy ((checkSecrets_ok hs).1 henabled)
  rw [← hpin] at hp
  exact adminRouter_of_pinAuth (by rcases hreq with h | h <;> rw [h] <;> simp only [hp]) now todayStart s

/-- The admin side of the sample configuration, reached from the local host. -/
def sampleAdmin : AdminConfig where
  pin := some (.str "4821")
  allowedIPs := ["127.0.0.1", "::1", "::ffff:127.0.0.1"]
  security := ⟨["api.github.com"], true, false, 10240⟩
  pairingEnabled := some (.bool true)

/-- `gh` configured, with an hour's grant from one approved prompt. -/
def grantedState : AdminState where
  table := ⟨{ own := [("gh", { upstream := some "https://api.github.com" })] }, .empty⟩
  store := run {} [.check 0 "gh" none, .settle 1000 0 ⟨true, 3600, "ops"⟩]
  requests := []
  pairedUsers := .empty

theorem pinless_revoke_refused :
    ∃ config, loadConfig sampleEnv sampleDoc = .ok config ∧
      Value.truthy (Value.read (config.get "admin") "enabled") ∧
      sampleAdmin.pin = Value.read (config.get "admin") "pin" ∧
      (adminRouter sampleAdmin 2000 0 grantedState ⟨some "127.0.0.1", none, none, .api .revokeAll⟩).2 =
        grantedState ∧
      ∀ route, AdminRoute.api .revokeAll = .api route →
        (adminRouter sampleAdmin 2000 0 grantedState
          ⟨some "127.0.0.1", none, none, .api .revokeAll⟩).1 = invalidPin ∨
        (adminRouter sampleAdmin 2000 0 grantedState
          ⟨some "127.0.0.1", none, none, .api .revokeAll⟩).1 =
          .answer (.error 403 "Admin panel is not accessible from your IP") :=
  ⟨_, rfl, rfl, rfl,
    @admin_api_needs_pin sampleEnv sampleDoc _ rfl rfl sampleAdmin rfl _ (.inl rfl) 2000 0 grantedState⟩

/-- An authorised revoke, revoke-all or delete of a service whose grant the approval manager
holds leaves no grant for it in the manager, and none that a restart at any later instant
restores from the table. -/
theorem revoked_grant_stays_revoked {config : AdminConfig} {now todayStart : Nat} {s : AdminState}
    {req : AdminRequest} {service : String}
    (hip : adminIpGate config.allowedIPs req.ip req.remoteAddress = .ok ())
    (hpin : pinAuth config.pin req.pin = true)
    (hroute : req.route = .api (.revoke service) ∨ req.route = .api .revokeAll ∨
      (req.route = .api (.deleteService service) ∧ s.table.services.truthy service))
    (hheld : (s.store.activeApprovals.get service).isSome) (later : Nat) :
    (adminRouter config now todayStart s req).2.store.activeApprovals.get service = none ∧
      (restart (adminRouter config now todayStart s req).2.store later).activeApprovals.get service =
        none := by
  have hc : Cleared (adminRouter config now todayStart s req).2.store service := by
    rcases hroute with hr | hr | ⟨hr, ht⟩ <;>
      simp only [adminRouter, hip, hr, hpin, if_true, handleApi]
    · exact revokeApproval_cleared hheld
    · exact revokeAll_cleared hheld
    · simp only [ht, if_true]; exact revokeApproval_cleared hheld
  exact ⟨hc.1, hc.restart later⟩

theorem gh_revoke_survives_restart :
    (adminRouter sampleAdmin 2000 0 grantedState
        ⟨some "127.0.0.1", none, some "4821", .api (.revoke "gh")⟩).2.store.activeApprovals.get "gh" =
      none ∧
    (restart (adminRouter sampleAdmin 2000 0 grantedState
        ⟨some "127.0.0.1", none, some "4821", .api (.revoke "gh")⟩).2.store 5000).activeApprovals.get
      "gh" = none :=
  @revoked_grant_stays_revoked sampleAdmin 2000 0 grantedState
    ⟨some "127.0.0.1", none, some "4821", .api (.revoke "gh")⟩ "gh" rfl rfl (.inl rfl) rfl 5000

end ClawGuard.Admin
