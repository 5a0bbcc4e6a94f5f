import ClawGuard.Security.Guard

namespace ClawGuard.Admin

open Web Security

/-- `{ ...a, ...b }` on auth objects: the fields `b` has win. -/
def mergeAuth (a b : Option AuthConfig) : AuthConfig :=
  let a := a.getD {}
  let b := b.getD {}
  { type := b.type.or a.type, token := b.token.or a.token, headerName := b.headerName.or a.headerName,
    paramName := b.paramName.or a.paramName }

/-- `{ ...a, ...b }` on policy objects. -/
def mergePolicy (a b : Option PolicyConfig) : PolicyConfig :=
  let a := a.getD {}
  let b := b.getD {}
  { default := b.default.or a.default, rules := b.rules.or a.rules }

/-- The `updated` config of `PUT /api/services/:name`: the request's fields over the existing
ones, with `auth` and `policy` merged one level down. -/
def mergeService (existing patch : ServiceConfig) : ServiceConfig where
  upstream := patch.upstream.or existing.upstream
  auth := some (mergeAuth existing.auth patch.auth)
  policy := some (mergePolicy existing.policy patch.policy)
  hostnames := patch.hostnames.or existing.hostnames

/-- An admin API answer: `res.status(status).json({ error })`, or `{ ok: true }` with the
service name when the handler sends one. -/
inductive Answer
  | error (status : Nat) (message : String)
  | ok (service : Option String)
  deriving DecidableEq, Repr

/-- The live `config.services` and the `services_override` table, keyed by `service_name`. -/
structure Table where
  services : Js.Obj ServiceConfig
  overrides : Js.Map ServiceConfig

/-- The body of `POST /api/services` once `JSON.parse` succeeds. -/
structure PostBody where
  name : Option String := none
  config : Option ServiceConfig := none
  deriving DecidableEq, Repr

/-- The body of `PUT /api/services/:name` once `JSON.parse` succeeds: `config`, and the other
properties of `body.config`, as reads through a prototype that the merge became would see them. -/
structure PutBody where
  config : Option ServiceConfig := none
  others : List (String × Js.Slot ServiceConfig) := []
  deriving DecidableEq, Repr

def notFound (name : String) : Answer := .error 404 ("Service \"" ++ name ++ "\" not found")

/-- `POST /api/services`; `.error` is a body that `JSON.parse` rejects. -/
def postService (security : SecurityConfig) (t : Table) (body : Except String PostBody) :
    Answer × Table :=
  match body with
  | .error _ => (.error 400 "Invalid JSON body", t)
  | .ok ⟨some name, some config⟩ =>
    if name = "" then (.error 400 "Missing name or config", t)
    else if t.services.truthy name then
      (.error 409 ("Service \"" ++ name ++ "\" already exists"), t)
    else
      match validateUpstreamUrl (jsString config.upstream) security with
      | .error reason => (.error 400 reason, t)
      | .ok () =>
        (.ok (some name), ⟨t.services.set name config (config.props []), t.overrides.set name config⟩)
  | .ok _ => (.error 400 "Missing name or config", t)

/-- The check of `PUT`: the upstream is validated only when the request gives a truthy one. -/
def putValidation (security : SecurityConfig) (patch : Option ServiceConfig) : Except String Unit :=
  match patch.bind ServiceConfig.upstream with
  | some upstream => if upstream = "" then .ok () else validateUpstreamUrl upstream security
  | none => .ok ()

/-- The fields `{ ...config.services[name] }` copies: those of an own entry or of an object of
the prototype, none of a method of `Object.prototype`. -/
def existingConfig (services : Js.Obj ServiceConfig) (name : String) : ServiceConfig :=
  match services.get name with
  | .own c => c
  | .inherited c => c.getD {}
  | .missing => {}

/-- The other properties `{ ...config.services[name] }` copies, which only a merge assigned to
`__proto__` keeps: those of the installed prototype. -/
def existingOthers (services : Js.Obj ServiceConfig) (name : String) :
    List (String × Js.Slot ServiceConfig) :=
  if name = "__proto__" then
    ((services.proto.map Prod.snd).getD []).filter fun p => p.1 ∉ ["upstream", "auth", "policy", "hostnames"]
  else []

theorem existingConfig_own {services : Js.Obj ServiceConfig} {name : String} {c : ServiceConfig}
    (h : services.own.lookup name = some c) : existingConfig services name = c := by
  simp [existingConfig, Js.Obj.get, h]

/-- `{ ...a, ...b }` on the other properties. -/
def mergeOthers (a b : List (String × Js.Slot ServiceConfig)) : List (String × Js.Slot ServiceConfig) :=
  b.foldl (fun acc p => Js.Obj.upsert p.1 p.2 acc) a

/-- Without an installed prototype, `{ ...config.services[name] }` copies the own entry. -/
theorem existingConfig_eq {services : Js.Obj ServiceConfig} (hproto : services.proto = none)
    (name : String) : existingConfig services name = (services.own.lookup name).getD {} := by
  unfold existingConfig Js.Obj.get
  cases services.own.lookup name with
  | some c => rfl
  | none => simp only [hproto, Option.map_none', Option.bind_none]; split_ifs <;> rfl

/-- `PUT /api/services/:name`. -/
def putService (security : SecurityConfig) (t : Table) (name : String)
    (body : Except String PutBody) : Answer × Table :=
  match body with
  | .error _ => (.error 400 "Invalid JSON body", t)
  | .ok body =>
    if !t.services.truthy name then (notFound name, t)
    else
      let updated := mergeService (existingConfig t.services name) (body.config.getD {})
      let others := mergeOthers (existingOthers t.services name) body.others
      match putValidation security body.config with
      | .error reason => (.error 400 reason, t)
      | .ok () =>
        (.ok (some name), ⟨t.services.set name updated (updated.props others), t.overrides.set name updated⟩)

/-- `DELETE /api/services/:name` (its `revokeApproval` acts on the approval store). -/
def deleteService (t : Table) (name : String) : Answer × Table :=
  if !t.services.truthy name then (notFound name, t)
  else (.ok none, ⟨t.services.delete name, t.overrides.delete name⟩)

/-- `maskToken(token)`, on a token whose code points are below U+10000, so that its UTF-16 units
are its characters. -/
def maskToken (token : String) : String :=
  if Js.length token ≤ 8 then "****"
  else String.mk (token.toList.take 4) ++ "****" ++ String.mk (token.toList.drop (Js.length token - 4))

/-- The `auth` object of a `GET /api/services` entry. -/
structure AuthView where
  type : Option String
  token : String
  headerName : Option String
  deriving DecidableEq, Repr

/-- An entry of `GET /api/services`. -/
structure ServiceView where
  upstream : Option String
  auth : AuthView
  policy : Option PolicyConfig
  deriving DecidableEq, Repr

/-- The entry `GET /api/services` builds for `svc`; `none` when `svc.auth.type` or
`maskToken(svc.auth.token)` throws, on a service without `auth` or without a token. -/
def serviceView (svc : ServiceConfig) : Option ServiceView :=
  svc.auth.bind fun auth =>
    auth.token.map fun token => ⟨svc.upstream, ⟨auth.type, maskToken token, auth.headerName⟩, svc.policy⟩

/-- One pass of the loop of `GET /api/services`. The object is only sent as JSON, which reads no
prototype, so the properties of one installed under `__proto__` are left out. -/
def listStep (services : Js.Obj ServiceView) : String × ServiceConfig → Option (Js.Obj ServiceView)
  | (name, svc) => (serviceView svc).map fun v => services.set name v []

/-- `GET /api/services`: the object it sends, or `none` when the handler throws and Express
answers `500`. -/
def getServices (services : Js.Obj ServiceConfig) : Option (Js.Obj ServiceView) :=
  services.entries.foldlM listStep .empty

inductive Op
  | post (body : Except String PostBody)
  | put (name : String) (body : Except String PutBody)
  | delete (name : String)

def apply (security : SecurityConfig) (t : Table) : Op → Table
  | .post body => (postService security t body).2
  | .put name body => (putService security t name body).2
  | .delete name => (deleteService t name).2

def runOps (security : SecurityConfig) (t : Table) (ops : List Op) : Table :=
  ops.foldl (apply security) t

/-- A new service on an allowed upstream that intercepts another host. -/
def interceptor : ServiceConfig where
  upstream := some "https://api.github.com"
  policy := some { default := some "auto_approve" }
  hostnames := some ["attacker.example"]

/-- The file passes `validateAllUpstreams`; `POST` adds a service whose intercept hostname the
allowlist rejects, and `PUT` with `"upstream": ""` stores an upstream that does not parse. -/
theorem admin_writes_unvalidated_service :
    validateAllUpstreams ghConfig = .ok () ∧
    postService ghConfig.security ⟨ghConfig.services, .empty⟩ (.ok ⟨some "evil", some interceptor⟩) =
      (.ok (some "evil"), ⟨ghConfig.services.set "evil" interceptor (interceptor.props []),
        Js.Map.empty.set "evil" interceptor⟩) ∧
    validateService ghConfig.security "evil" interceptor = .error
      "Security violation for service \"evil\": hostname \"attacker.example\" is not in the allowed upstreams list" ∧
    (putService ghConfig.security ⟨ghConfig.services, .empty⟩ "gh"
      (.ok ⟨some { upstream := some "" }, []⟩)).2.services.get "gh" =
      .own (mergeService ghService { upstream := some "" }) ∧
    validateService ghConfig.security "gh" (mergeService ghService { upstream := some "" }) =
      .error "Security violation for service \"gh\": Invalid URL: " :=
  ⟨rfl, rfl, rfl, rfl, rfl⟩

theorem listStep_lookup {o out : Js.Obj ServiceView} {k : String} {svc : ServiceConfig}
    (h : listStep o (k, svc) = some out) (n : String) :
    out.own.lookup n = if n = k ∧ n ≠ "__proto__" then serviceView svc else o.own.lookup n := by
  simp only [listStep, Option.map_eq_some'] at h
  obtain ⟨v, hv, rfl⟩ := h
  by_cases hn : n = k
  · subst hn
    by_cases hp : n = "__proto__" <;> simp [hp, hv, Js.Obj.set_own, Js.Obj.lookup_upsert_self]
  · simp [hn, Js.Obj.set_own_ne _ _ hn]

/-- The loop fails exactly when some service has no view; when it succeeds, each listed name
carries the view of its entry. -/
theorem foldlM_listStep (n : String) :
    ∀ (l : List (String × ServiceConfig)) (o : Js.Obj ServiceView), (l.map Prod.fst).Nodup →
      (l.foldlM listStep o).map (·.own.lookup n) =
        if ∀ p ∈ l, (serviceView p.2).isSome then
          some (if n = "__proto__" then o.own.lookup n else ((l.lookup n).bind serviceView).or (o.own.lookup n))
        else none
  | [], o, _ => by simp
  | (k, svc) :: rest, o, hl => by
    simp only [List.map_cons, List.nodup_cons] at hl
    rw [List.foldlM_cons]
    cases hs : listStep o (k, svc) with
    | none =>
      have : serviceView svc = none := by simpa [listStep] using hs
      simp [this]
    | some out =>
      obtain ⟨v, hv, -⟩ : ∃ v, serviceView svc = some v ∧ _ := by
        simpa only [listStep, Option.map_eq_some'] using hs
      show Option.map _ (List.foldlM listStep out rest) = _
      rw [foldlM_listStep n rest out hl.2]
      simp only [List.forall_mem_cons, hv, Option.isSome_some, true_and, listStep_lookup hs]
      split
      · by_cases hn : n = k
        · subst hn
          rw [Js.Map.lookup_eq_none hl.1]
          by_cases hp : n = "__proto__" <;> simp [hp, hv, List.lookup_cons]
        · simp [hn, Js.Obj.lookup_cons_ne _ _ hn]
      · rfl

theorem getServices_lookup (services : Js.Obj ServiceConfig)
    (hkeys : (services.own.map Prod.fst).Nodup) (n : String) :
    (getServices services).map (·.own.lookup n) =
      if ∀ p ∈ services.own, (serviceView p.2).isSome then
        some (if n = "__proto__" then none else (services.own.lookup n).bind serviceView)
      else none := by
  have hperm := Js.Obj.entries_perm services
  have hnd : (services.entries.map Prod.fst).Nodup := ((hperm.map Prod.fst).nodup_iff).mpr hkeys
  rw [getServices, foldlM_listStep n _ _ hnd, Js.Obj.lookup_perm hperm hnd]
  simp only [hperm.mem_iff, Js.Obj.empty, List.lookup_nil, Option.or_none]

theorem mem_upsert {α : Type} {k : String} {v : α} {l : List (String × α)} {p : String × α}
    (h : p ∈ Js.Obj.upsert k v l) : p = (k, v) ∨ p ∈ l := by
  induction l with
  | nil => simpa [Js.Obj.upsert] using h
  | cons q rest ih =>
    unfold Js.Obj.upsert at h
    split at h
    · rcases List.mem_cons.mp h with rfl | h
      · exact .inl rfl
      · exact .inr (.tail _ h)
    · rcases List.mem_cons.mp h with rfl | h
      · exact .inr (.head _)
      · exact (ih h).imp_right (.tail _)

theorem postService_ok {security : SecurityConfig} {t : Table} {name : String} {D : ServiceConfig}
    (h : (postService security t (.ok ⟨some name, some D⟩)).1 = .ok (some name)) :
    t.services.truthy name = false ∧
      (postService security t (.ok ⟨some name, some D⟩)).2 =
        ⟨t.services.set name D (D.props []), t.overrides.set name D⟩ := by
  simp only [postService] at h ⊢
  split_ifs at h ⊢ with h1 h2
  cases hv : validateUpstreamUrl (jsString D.upstream) security with
  | error r => simp [hv] at h
  | ok u => exact ⟨by simpa using h2, by simp only [hv]⟩

theorem putService_ok {security : SecurityConfig} {t : Table} {name : String} {body : PutBody}
    (h : (putService security t name (.ok body)).1 = .ok (some name)) :
    t.services.truthy name = true ∧
      (putService security t name (.ok body)).2.services =
        let updated := mergeService (existingConfig t.services name) (body.config.getD {})
        t.services.set name updated
          (updated.props (mergeOthers (existingOthers t.services name) body.others)) := by
  simp only [putService] at h ⊢
  split_ifs at h ⊢ with h1
  · simp [notFound] at h
  · cases hv : putValidation security body.config with
    | error r => simp [hv] at h
    | ok u => exact ⟨by simpa using h1, by simp only [hv]⟩

/-- Setting a viewable service keeps the keys distinct and every service viewable, and the
listing then shows its view under its name. -/
theorem getServices_set {services : Js.Obj ServiceConfig} {k : String} {v : ServiceConfig}
    (ks : List (String × Js.Slot ServiceConfig)) (hkeys : (services.own.map Prod.fst).Nodup)
    (hall : ∀ p ∈ services.own, (serviceView p.2).isSome) (hv : (serviceView v).isSome)
    (hk : k ≠ "__proto__") :
    ((services.set k v ks).own.map Prod.fst).Nodup ∧
      (∀ p ∈ (services.set k v ks).own, (serviceView p.2).isSome) ∧
      (getServices (services.set k v ks)).map (·.own.lookup k) = some (serviceView v) := by
  have hown : (services.set k v ks).own = Js.Obj.upsert k v services.own := by
    rw [Js.Obj.set_own, if_neg hk]
  have hkeys' : ((services.set k v ks).own.map Prod.fst).Nodup := by
    rw [hown, Js.Map.keys_upsert]
    split
    · exact hkeys
    · exact hkeys.append (List.nodup_singleton k) (List.disjoint_singleton.mpr ‹_›)
  have hall' : ∀ p ∈ (services.set k v ks).own, (serviceView p.2).isSome := fun p hp => by
    rw [hown] at hp
    rcases mem_upsert hp with rfl | hp
    · exact hv
    · exact hall p hp
  refine ⟨hkeys', hall', ?_⟩
  rw [getServices_lookup _ hkeys', if_pos hall', if_neg hk, Js.Obj.set_own_get _ _ hk]
  rfl

theorem serviceView_merge {D : ServiceConfig} (hD : (serviceView D).isSome) (X : ServiceConfig) :
    (serviceView (mergeService D X)).isSome := by
  cases ha : D.auth with
  | none => simp [serviceView, ha] at hD
  | some a =>
    cases htok : a.token with
    | none => simp [serviceView, ha, htok] at hD
    | some tok => simp [serviceView, mergeService, mergeAuth, ha, htok]

/-- What `GET /api/services` lists after the admin API writes a service, on a table whose
services all carry an auth token: a service created by `POST` is listed as the view of its
config, and after a `PUT` as the view of the merge. -/
theorem admin_write_read_projection {security : SecurityConfig} {t : Table} {name : String}
    {D X : ServiceConfig} (hkeys : (t.services.own.map Prod.fst).Nodup)
    (hall : ∀ p ∈ t.services.own, (serviceView p.2).isSome) (hD : (serviceView D).isSome)
    (hpost : (postService security t (.ok ⟨some name, some D⟩)).1 = .ok (some name)) :
    (getServices (postService security t (.ok ⟨some name, some D⟩)).2.services).map
        (·.own.lookup name) = some (serviceView D) ∧
    ((putService security (postService security t (.ok ⟨some name, some D⟩)).2 name
        (.ok ⟨some X, []⟩)).1 = .ok (some name) →
      (getServices (putService security (postService security t (.ok ⟨some name, some D⟩)).2 name
        (.ok ⟨some X, []⟩)).2.services).map (·.own.lookup name) = some (serviceView (mergeService D X))) := by
  obtain ⟨hfresh, ht⟩ := postService_ok hpost
  have hname := (Js.Obj.truthy_eq_false hfresh).2
  obtain ⟨hkeys₁, hall₁, hlist₁⟩ := getServices_set (D.props []) hkeys hall hD hname
  rw [ht]
  refine ⟨hlist₁, fun hput => ?_⟩
  obtain ⟨-, ht₂⟩ := putService_ok hput
  have hexist : existingConfig (t.services.set name D (D.props [])) name = D :=
    existingConfig_own (Js.Obj.set_own_get _ _ hname)
  rw [ht₂]
  simp only [hexist, Option.getD_some]
  exact (getServices_set _ hkeys₁ hall₁ (serviceView_merge hD X) hname).2.2

/-- A service that authenticates with the query parameter `access_token` and intercepts
`gist.github.com`. -/
def gistService : ServiceConfig where
  upstream := some "https://api.github.com"
  auth := some { type := some "query", token := some "ghp_0123456789", paramName := some "access_token" }
  hostnames := some ["gist.github.com"]

/-- `gist` created and then given a new token. -/
theorem gist_write_read :
    (ghConfig.services.own.map Prod.fst).Nodup ∧
    (∀ p ∈ ghConfig.services.own, (serviceView p.2).isSome) ∧ (serviceView gistService).isSome ∧
    (postService ghConfig.security ⟨ghConfig.services, .empty⟩ (.ok ⟨some "gist", some gistService⟩)).1 =
      .ok (some "gist") ∧
    ((getServices (postService ghConfig.security ⟨ghConfig.services, .empty⟩
        (.ok ⟨some "gist", some gistService⟩)).2.services).map (·.own.lookup "gist") =
        some (serviceView gistService) ∧
      ((putService ghConfig.security (postService ghConfig.security ⟨ghConfig.services, .empty⟩
          (.ok ⟨some "gist", some gistService⟩)).2 "gist"
          (.ok ⟨some { auth := some { token := some "ghp_fedcba9876" } }, []⟩)).1 = .ok (some "gist") →
        (getServices (putService ghConfig.security (postService ghConfig.security
          ⟨ghConfig.services, .empty⟩ (.ok ⟨some "gist", some gistService⟩)).2 "gist"
          (.ok ⟨some { auth := some { token := some "ghp_fedcba9876" } }, []⟩)).2.services).map
          (·.own.lookup "gist") =
          some (serviceView (mergeService gistService { auth := some { token := some "ghp_fedcba9876" } })))) :=
  ⟨by decide, by decide, rfl, rfl, admin_write_read_projection (by decide) (by decide) rfl rfl⟩

/-- After `POST` of `gist`, its listing keeps neither its intercept hostname nor its query
parameter; after `POST` of a service without `auth`, the whole listing fails. -/
theorem listing_drops_fields :
    (getServices (postService ghConfig.security ⟨ghConfig.services, .empty⟩
        (.ok ⟨some "gist", some gistService⟩)).2.services).map (·.own.lookup "gist") =
      some (some ⟨some "https://api.github.com", ⟨some "query", "ghp_****6789", none⟩, none⟩) ∧
    getServices (postService ghConfig.security ⟨ghConfig.services, .empty⟩
        (.ok ⟨some "bare", some { upstream := some "https://api.github.com" }⟩)).2.services = none := by
  decide

end ClawGuard.Admin
