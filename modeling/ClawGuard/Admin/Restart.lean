import ClawGuard.Admin.Services

namespace ClawGuard.Admin

open Web Security

/-- `getServiceOverrides`: each row assigned into a fresh object, in row order. A row named
`__proto__` becomes the object's prototype, which the loop of `index.ts` never reads. -/
def getServiceOverrides (overrides : Js.Map ServiceConfig) : Js.Obj ServiceConfig :=
  overrides.entries.foldl (fun result row => result.set row.1 row.2 (row.2.props [])) Js.Obj.empty

/-- `validateUpstreamUrl(upstream).valid`. -/
def accepted (security : SecurityConfig) (upstream : Option String) : Bool :=
  match validateUpstreamUrl (jsString upstream) security with
  | .ok () => true
  | .error _ => false

/-- `new URL(upstream)` does not throw. -/
def parses (upstream : Option String) : Bool := (URL.new (jsString upstream) none).isSome

/-- The override loop of `index.ts`. A rejected override is skipped, and its warning evaluates
`new URL(svcConfig.upstream)`, which throws when the upstream does not parse. -/
def applyOverrides (security : SecurityConfig) (services : Js.Obj ServiceConfig) :
    List (String × ServiceConfig) → Except String (Js.Obj ServiceConfig)
  | [] => .ok services
  | (name, svcConfig) :: rest =>
    if !accepted security svcConfig.upstream then
      if parses svcConfig.upstream then applyOverrides security services rest
      else .error "TypeError: Invalid URL"
    else applyOverrides security (services.set name svcConfig (svcConfig.props [])) rest

/-- The callback of `app.listen`, which prints `svc.policy.default` of every service and throws on
one without `policy`. -/
def onListening (services : Js.Obj ServiceConfig) : Except String Unit :=
  services.entries.forM fun p =>
    match p.2.policy with
    | some _ => .ok ()
    | none => .error "TypeError: Cannot read properties of undefined (reading \x27default\x27)"

/-- `index.ts`: `validateAllUpstreams` (a failure exits the process), the stored overrides in
`Object.entries` order, then the server starts and its `listening` callback runs. -/
def startup (config : Config) (overrides : Js.Map ServiceConfig) : Except String Config := do
  validateAllUpstreams config
  let services ← applyOverrides config.security config.services (getServiceOverrides overrides).entries
  onListening services
  pure { config with services := services }

/-- The process started as `started`, with `rows` in the override table, after admin requests. -/
def afterAdmin (started : Config) (rows : Js.Map ServiceConfig) (ops : List Op) : Table :=
  runOps started.security ⟨started.services, rows⟩ ops

theorem foldl_set_lookup (rows : List (String × ServiceConfig)) (hnd : (rows.map Prod.fst).Nodup)
    (r : Js.Obj ServiceConfig) (n : String) :
    (rows.foldl (fun result row => result.set row.1 row.2 (row.2.props [])) r).own.lookup n =
      if n = "__proto__" then r.own.lookup n else (rows.lookup n).or (r.own.lookup n) := by
  induction rows generalizing r with
  | nil => split <;> rfl
  | cons row rest ih =>
    obtain ⟨k, v⟩ := row
    simp only [List.map_cons, List.nodup_cons] at hnd
    rw [List.foldl_cons, ih hnd.2, Js.Obj.set_own]
    by_cases hn : n = "__proto__"
    · subst hn
      by_cases hk : k = "__proto__"
      · simp [hk]
      · simp [hk, Js.Obj.lookup_upsert_ne _ _ (Ne.symm hk)]
    · by_cases hnk : n = k
      · subst hnk
        simp [hn, Js.Map.lookup_eq_none hnd.1, Js.Obj.lookup_upsert_self, List.lookup_cons]
      · rw [Js.Obj.lookup_cons_ne _ _ hnk]
        by_cases hk : k = "__proto__" <;> simp [hn, hk, Js.Obj.lookup_upsert_ne _ _ hnk]

/-- A row named `__proto__` replaces the prototype of the fresh object and is never an entry. -/
theorem getServiceOverrides_lookup (overrides : Js.Map ServiceConfig) (n : String) :
    (getServiceOverrides overrides).own.lookup n =
      if n = "__proto__" then none else overrides.get n := by
  rw [getServiceOverrides, foldl_set_lookup _ overrides.nodup]
  split <;> simp [Js.Map.get, Js.Obj.empty, List.lookup_cons, Option.or_none]

/-- Own keys that are distinct and never `__proto__`. -/
def Keyed (l : List (String × ServiceConfig)) : Prop :=
  (l.map Prod.fst).Nodup ∧ "__proto__" ∉ l.map Prod.fst

theorem Keyed.set {o : Js.Obj ServiceConfig} (h : Keyed o.own) (k : String) (v : ServiceConfig)
    (ks : List (String × Js.Slot ServiceConfig)) : Keyed (o.set k v ks).own := by
  rw [Js.Obj.set_own]
  split
  · exact h
  · rename_i hk
    rw [Keyed, Js.Map.keys_upsert]
    split
    · exact h
    · exact ⟨h.1.append (List.nodup_singleton k) (List.disjoint_singleton.mpr ‹_›),
        by simp [h.2, Ne.symm hk]⟩

theorem getServiceOverrides_keyed (overrides : Js.Map ServiceConfig) :
    Keyed (getServiceOverrides overrides).own := by
  unfold getServiceOverrides
  generalize overrides.entries = rows
  suffices ∀ r : Js.Obj ServiceConfig, Keyed r.own →
      Keyed (rows.foldl (fun result row => result.set row.1 row.2 (row.2.props [])) r).own from
    this _ ⟨List.nodup_nil, List.not_mem_nil _⟩
  induction rows with
  | nil => exact fun _ h => h
  | cons row rest ih => exact fun r h => ih _ (h.set _ _ _)

/-- The loop of `index.ts` sees the rows in `Object.entries` order: same keys, same lookups. -/
theorem overrideEntries (overrides : Js.Map ServiceConfig) :
    Keyed (getServiceOverrides overrides).entries ∧ ∀ n,
      (getServiceOverrides overrides).entries.lookup n = (getServiceOverrides overrides).own.lookup n := by
  have hk := getServiceOverrides_keyed overrides
  have p := (getServiceOverrides overrides).entries_perm
  refine ⟨⟨((p.map Prod.fst).nodup_iff).mpr hk.1, fun h => hk.2 ((p.map Prod.fst).mem_iff.mp h)⟩,
    fun n => (Js.Obj.lookup_perm p.symm hk.1 n).symm⟩

/-- What the override loop leaves under `n`: the row when it is accepted, else the entry the
loop started with. -/
def overridden (security : SecurityConfig) (services : Js.Obj ServiceConfig)
    (row : Option ServiceConfig) (n : String) : Option ServiceConfig :=
  match row with
  | some c => if accepted security c.upstream then some c else services.own.lookup n
  | none => services.own.lookup n

theorem overridden_congr (security : SecurityConfig) {s₁ s₂ : Js.Obj ServiceConfig}
    (row : Option ServiceConfig) {n : String} (h : s₁.own.lookup n = s₂.own.lookup n) :
    overridden security s₁ row n = overridden security s₂ row n := by
  unfold overridden; rw [h]

theorem applyOverrides_lookup {security : SecurityConfig} {rows : List (String × ServiceConfig)}
    (hk : Keyed rows) {services result : Js.Obj ServiceConfig}
    (h : applyOverrides security services rows = .ok result) (n : String) :
    result.own.lookup n = overridden security services (rows.lookup n) n := by
  induction rows generalizing services with
  | nil => cases h; rfl
  | cons row rest ih =>
    obtain ⟨k, c⟩ := row
    obtain ⟨hnd, hproto⟩ := hk
    simp only [List.map_cons, List.nodup_cons, List.mem_cons, not_or] at hnd hproto
    have ih := @ih ⟨hnd.2, hproto.2⟩
    rw [applyOverrides] at h
    by_cases hacc : accepted security c.upstream = true
    · rw [if_neg (by simp [hacc])] at h
      rw [ih h]
      by_cases hnk : n = k
      · subst hnk
        simp [overridden, hacc, List.lookup_cons, Js.Map.lookup_eq_none hnd.1, Js.Obj.set_own,
          Ne.symm hproto.1, Js.Obj.lookup_upsert_self]
      · rw [Js.Obj.lookup_cons_ne _ _ hnk]
        exact overridden_congr _ _ (Js.Obj.set_own_ne _ _ hnk)
    · rw [if_pos (by simpa using hacc)] at h
      split_ifs at h
      · rw [ih h]
        by_cases hnk : n = k
        · subst hnk
          simp [overridden, hacc, List.lookup_cons, Js.Map.lookup_eq_none hnd.1]
        · rw [Js.Obj.lookup_cons_ne _ _ hnk]

theorem applyOverrides_ok (security : SecurityConfig) {rows : List (String × ServiceConfig)}
    (hparse : ∀ row ∈ rows, parses row.2.upstream = true) (services : Js.Obj ServiceConfig) :
    ∃ result, applyOverrides security services rows = .ok result := by
  induction rows generalizing services with
  | nil => exact ⟨_, rfl⟩
  | cons row rest ih =>
    obtain ⟨k, c⟩ := row
    have ih := ih fun r hr => hparse r (.tail _ hr)
    rw [applyOverrides]
    split_ifs
    · exact ih _
    · exact absurd (hparse _ (.head _)) ‹_›
    · exact ih _

/-- The override loop keeps the prototype: no row it writes is named `__proto__`. -/
theorem applyOverrides_proto {security : SecurityConfig} {rows : List (String × ServiceConfig)}
    (hk : Keyed rows) {services result : Js.Obj ServiceConfig}
    (h : applyOverrides security services rows = .ok result) : result.proto = services.proto := by
  induction rows generalizing services with
  | nil => cases h; rfl
  | cons row rest ih =>
    obtain ⟨k, c⟩ := row
    obtain ⟨hnd, hproto⟩ := hk
    simp only [List.map_cons, List.nodup_cons, List.mem_cons, not_or] at hnd hproto
    rw [applyOverrides] at h
    split_ifs at h
    · exact ih ⟨hnd.2, hproto.2⟩ h
    · exact (ih ⟨hnd.2, hproto.2⟩ h).trans (Js.Obj.set_proto _ _ (Ne.symm hproto.1))

/-- Every entry the override loop leaves was there before, or is an accepted row. -/
theorem applyOverrides_mem {security : SecurityConfig} {rows : List (String × ServiceConfig)}
    {services result : Js.Obj ServiceConfig} (h : applyOverrides security services rows = .ok result) :
    ∀ p ∈ result.own, p ∈ services.own ∨ (p ∈ rows ∧ accepted security p.2.upstream = true) := by
  induction rows generalizing services with
  | nil => cases h; exact fun p hp => .inl hp
  | cons row rest ih =>
    obtain ⟨k, c⟩ := row
    rw [applyOverrides] at h
    split_ifs at h with hacc
    · exact fun p hp => (ih h p hp).imp_right fun ⟨hr, ha⟩ => ⟨.tail _ hr, ha⟩
    · intro p hp
      rcases ih h p hp with hp | ⟨hr, ha⟩
      · rw [Js.Obj.set_own] at hp
        split at hp
        · exact .inl hp
        · rcases mem_upsert hp with rfl | hp
          · exact .inr ⟨.head _, by simpa using hacc⟩
          · exact .inl hp
      · exact .inr ⟨.tail _ hr, ha⟩

/-- A `forM` in `Except` completes exactly when the body completes on every element. -/
theorem forM_eq_ok_iff {β : Type} {l : List β} {f : β → Except String Unit} :
    l.forM f = .ok () ↔ ∀ x ∈ l, f x = .ok () := by
  induction l with
  | nil => exact iff_of_true rfl fun _ h => absurd h (List.not_mem_nil _)
  | cons y rest ih =>
    simp only [List.forM_cons, List.forall_mem_cons, ← ih]
    rcases hy : f y with _ | ⟨⟨⟩⟩ <;> simp [bind, Except.bind, hy]

/-- The `listening` callback returns when every service has a `policy`. -/
theorem onListening_ok {services : Js.Obj ServiceConfig} (h : ∀ p ∈ services.own, p.2.policy.isSome) :
    onListening services = .ok () :=
  forM_eq_ok_iff.mpr fun p hp => by
    obtain ⟨pol, hpol⟩ := Option.isSome_iff_exists.mp (h p (services.entries_perm.mem_iff.mp hp))
    simp [hpol]

/-- A completed startup passed each of its steps. -/
theorem startup_inv {config started : Config} {overrides : Js.Map ServiceConfig}
    (h : startup config overrides = .ok started) :
    validateAllUpstreams config = .ok () ∧ ∃ services,
      applyOverrides config.security config.services (getServiceOverrides overrides).entries =
        .ok services ∧ onListening services = .ok () ∧ started = { config with services := services } := by
  simp only [startup, bind, Except.bind] at h
  split at h
  · cases h
  · rename_i u hv
    split at h
    · cases h
    · rename_i services hA
      split at h
      · cases h
      · cases h
        exact ⟨by cases u; exact hv, services, hA, by assumption, rfl⟩

/-- A completed startup: the file passed `validateAllUpstreams`, each name holds its accepted
override row or else the file's entry, and the prototype is the file's. -/
theorem startup_lookup {config started : Config} {overrides : Js.Map ServiceConfig}
    (h : startup config overrides = .ok started) :
    validateAllUpstreams config = .ok () ∧ started.security = config.security ∧
      started.services.proto = config.services.proto ∧ ∀ n,
      started.services.own.lookup n =
        overridden config.security config.services ((getServiceOverrides overrides).own.lookup n) n := by
  obtain ⟨hv, services, hA, -, rfl⟩ := startup_inv h
  have he := overrideEntries overrides
  exact ⟨hv, rfl, applyOverrides_proto he.1 hA, fun n => by rw [applyOverrides_lookup he.1 hA, he.2]⟩

/-- Startup completes when the file passes, every override row's upstream parses, and the file's
services and the accepted rows all have a `policy`. -/
theorem startup_ok {config : Config} {overrides : Js.Map ServiceConfig}
    (hv : validateAllUpstreams config = .ok ())
    (hparse : ∀ n c, (getServiceOverrides overrides).own.lookup n = some c → parses c.upstream = true)
    (hfile : ∀ p ∈ config.services.own, p.2.policy.isSome)
    (hrows : ∀ n c, (getServiceOverrides overrides).own.lookup n = some c →
      accepted config.security c.upstream = true → c.policy.isSome) :
    ∃ started, startup config overrides = .ok started := by
  have he := overrideEntries overrides
  have hrow : ∀ p ∈ (getServiceOverrides overrides).entries,
      (getServiceOverrides overrides).own.lookup p.1 = some p.2 := fun p hp => by
    rw [← he.2, Js.Obj.lookup_eq_some_iff he.1.1]; exact hp
  obtain ⟨services, hA⟩ := applyOverrides_ok config.security
    (fun row hr => hparse row.1 row.2 (hrow row hr)) config.services
  have hL : onListening services = .ok () := onListening_ok fun p hp =>
    (applyOverrides_mem hA p hp).elim (hfile p) fun ⟨hr, ha⟩ => hrows p.1 p.2 (hrow p hr) ha
  exact ⟨{ config with services := services }, by simp [startup, bind, Except.bind, hv, hA, hL]; rfl⟩

theorem validateService_accepted {security : SecurityConfig} {name : String} {c : ServiceConfig}
    (h : validateService security name c = .ok ()) : accepted security c.upstream = true := by
  unfold validateService at h
  unfold accepted
  rcases hv : validateUpstreamUrl (jsString c.upstream) security with _ | ⟨⟨⟩⟩ <;> rw [hv] at h
  cases h

theorem lookup_mem {α : Type} {l : List (String × α)} {k : String} {v : α} (h : l.lookup k = some v) :
    (k, v) ∈ l := by
  induction l with
  | nil => cases h
  | cons p rest ih =>
    obtain ⟨k', v'⟩ := p
    by_cases hk : k = k'
    · subst hk
      simp only [List.lookup_cons, beq_self_eq_true, Option.some.injEq] at h
      exact h ▸ .head _
    · rw [Js.Obj.lookup_cons_ne _ _ hk] at h
      exact .tail _ (ih h)

/-- Every service of a file that passed `validateAllUpstreams` has an accepted upstream. -/
theorem file_accepted {config : Config} (h : validateAllUpstreams config = .ok ()) {n : String}
    {c : ServiceConfig} (hc : config.services.own.lookup n = some c) :
    accepted config.security c.upstream = true :=
  validateService_accepted (forM_eq_ok_iff.mp h (n, c) (config.services.entries_perm.mem_iff.mpr (lookup_mem hc)))

theorem parses_none : parses none = false := rfl

theorem parses_empty : parses (some "") = false := rfl

/-- How the live entry under `n` stands to its override row and to the file: a live upstream is
accepted or does not parse; an accepted row is live; otherwise the entry is the file's, or gone. -/
def Tracked (security : SecurityConfig) (file : Js.Obj ServiceConfig) (n : String)
    (live row : Option ServiceConfig) : Prop :=
  (∀ c, live = some c → accepted security c.upstream = true ∨ parses c.upstream = false) ∧
  match row with
  | some c =>
    if accepted security c.upstream then live = some c
    else parses c.upstream = true → live = none ∨ live = file.own.lookup n
  | none => live = none ∨ live = file.own.lookup n

/-- The restart invariant of a live table: no prototype installed, and every name tracked. -/
structure Tracks (security : SecurityConfig) (file : Js.Obj ServiceConfig) (t : Table) : Prop where
  proto : t.services.proto = none
  tracked : ∀ n, Tracked security file n (t.services.own.lookup n)
    ((getServiceOverrides t.overrides).own.lookup n)

/-- A `PUT` on `__proto__`, the one admin request that installs a prototype on `config.services`. -/
def Op.installsProto : Op → Bool
  | .put name _ => name == "__proto__"
  | _ => false

section Tracks

variable {security : SecurityConfig} {file : Js.Obj ServiceConfig}

theorem tracked_overridden {n : String}
    (hfile : ∀ c, file.own.lookup n = some c → accepted security c.upstream = true)
    (row : Option ServiceConfig) : Tracked security file n (overridden security file row n) row := by
  cases row with
  | none => exact ⟨fun c hc => .inl (hfile c hc), .inr rfl⟩
  | some c =>
    by_cases hacc : accepted security c.upstream = true
    · refine ⟨fun c' hc => ?_, by simp [overridden, hacc]⟩
      simp only [overridden, if_pos hacc] at hc
      exact .inl (Option.some.inj hc ▸ hacc)
    · refine ⟨fun c' hc => ?_, by simp [overridden, hacc]⟩
      simp only [overridden, if_neg hacc] at hc
      exact .inl (hfile c' hc)

/-- What a restart puts under `n` is the live entry, or the file's entry for a name gone live. -/
theorem Tracked.restart {n : String} {live row : Option ServiceConfig}
    (h : Tracked security file n live row) (hparse : ∀ c, row = some c → parses c.upstream = true) :
    overridden security file row n = live ∨
      (live = none ∧ overridden security file row n = file.own.lookup n) := by
  cases row with
  | none => exact h.2.elim (fun h => .inr ⟨h, rfl⟩) (fun h => .inl h.symm)
  | some c =>
    have h := h.2
    dsimp only at h
    simp only [overridden]
    by_cases hacc : accepted security c.upstream = true
    · rw [if_pos hacc] at h ⊢
      exact .inl h.symm
    · rw [if_neg hacc] at h ⊢
      exact (h (hparse c rfl)).elim (fun h => .inr ⟨h, rfl⟩) (fun h => .inl h.symm)

/-- An accepted row is the live entry. -/
theorem Tracked.accepted_row {n : String} {live : Option ServiceConfig} {c : ServiceConfig}
    (h : Tracked security file n live (some c)) (hacc : accepted security c.upstream = true) :
    live = some c := by
  have h := h.2
  dsimp only at h
  rwa [if_pos hacc] at h

/-- A request that changes one name and no prototype keeps the invariant when that name is
tracked. -/
theorem Tracks.update {t t' : Table} (h : Tracks security file t) (name : String)
    (hproto : t'.services.proto = t.services.proto)
    (hlive : ∀ n, n ≠ name → t'.services.own.lookup n = t.services.own.lookup n)
    (hrow : ∀ n, n ≠ name → t'.overrides.get n = t.overrides.get n)
    (hname : Tracked security file name (t'.services.own.lookup name)
      ((getServiceOverrides t'.overrides).own.lookup name)) :
    Tracks security file t' := by
  refine ⟨hproto.trans h.proto, fun n => ?_⟩
  by_cases hn : n = name
  · exact hn ▸ hname
  · have := h.tracked n
    rwa [getServiceOverrides_lookup, ← hrow n hn, ← getServiceOverrides_lookup, ← hlive n hn] at this

/-- A name whose live entry and stored row are one config that is accepted, or does not parse. -/
theorem tracked_self {n : String} {c : ServiceConfig}
    (hc : accepted security c.upstream = true ∨ parses c.upstream = false) :
    Tracked security file n (some c) (some c) := by
  refine ⟨fun c' h' => Option.some.inj h' ▸ hc, ?_⟩
  dsimp only
  split_ifs with hacc
  · rfl
  · intro hp
    rw [hc.resolve_left hacc] at hp
    cases hp

/-- Writing one config under an ordinary name to both tables keeps the invariant. -/
theorem Tracks.set {t : Table} (h : Tracks security file t) {name : String}
    (hproto : name ≠ "__proto__") {c : ServiceConfig} (props : List (String × Js.Slot ServiceConfig))
    (hc : accepted security c.upstream = true ∨ parses c.upstream = false) :
    Tracks security file ⟨t.services.set name c props, t.overrides.set name c⟩ := by
  refine h.update name (Js.Obj.set_proto _ _ hproto) (fun n hn => Js.Obj.set_own_ne _ _ hn)
    (fun n hn => Js.Map.get_set_ne _ _ hn) ?_
  rw [getServiceOverrides_lookup, if_neg hproto, Js.Map.get_set_self, Js.Obj.set_own_get _ _ hproto]
  exact tracked_self hc

theorem Tracks.post {t : Table} (h : Tracks security file t) (body : Except String PostBody) :
    Tracks security file (postService security t body).2 := by
  unfold postService
  split
  · exact h
  · rename_i name config
    split_ifs with hname htruthy
    · exact h
    · exact h
    · split
      · exact h
      · rename_i hv
        obtain ⟨-, hproto⟩ := Js.Obj.truthy_eq_false (by simpa using htruthy)
        exact h.set hproto _ (.inl (by simp [accepted, hv]))
  · exact h

/-- The upstream a `PUT` stores is accepted, or does not parse. -/
theorem putUpstream {existing : ServiceConfig} {patch : Option ServiceConfig}
    (hv : putValidation security patch = .ok ())
    (hex : accepted security existing.upstream = true ∨ parses existing.upstream = false) :
    accepted security (mergeService existing (patch.getD {})).upstream = true ∨
      parses (mergeService existing (patch.getD {})).upstream = false := by
  unfold putValidation at hv
  cases patch with
  | none => exact hex
  | some p =>
    cases hp : p.upstream with
    | none => simpa [mergeService, hp] using hex
    | some s =>
      simp only [Option.some_bind, hp] at hv
      split_ifs at hv with hs
      · exact .inr (by simp [mergeService, hp, hs, parses_empty])
      · exact .inl (by simp [mergeService, hp, accepted, jsString, hv])

theorem Tracks.put {t : Table} (h : Tracks security file t) {name : String}
    (hproto : name ≠ "__proto__") (body : Except String PutBody) :
    Tracks security file (putService security t name body).2 := by
  unfold putService
  split
  · exact h
  · rename_i body
    split_ifs with htruthy
    · exact h
    · split
      · exact h
      · rename_i hv
        have hex : accepted security (existingConfig t.services name).upstream = true ∨
            parses (existingConfig t.services name).upstream = false := by
          rw [existingConfig_eq h.proto]
          cases hc : t.services.own.lookup name with
          | none => exact .inr parses_none
          | some c => exact (h.tracked name).1 c hc
        exact h.set hproto _ (putUpstream hv hex)

theorem Tracks.delete {t : Table} (h : Tracks security file t) (name : String) :
    Tracks security file (deleteService t name).2 := by
  unfold deleteService
  split_ifs
  · exact h
  · refine h.update name rfl (fun n hn => by rw [Js.Obj.delete_own, if_neg hn])
      (fun n hn => by rw [Js.Map.get_delete, if_neg hn]) ?_
    rw [getServiceOverrides_lookup, Js.Obj.delete_own, if_pos rfl, Js.Map.get_delete, if_pos rfl,
      ite_self]
    exact ⟨fun _ hc => Option.noConfusion hc, .inl rfl⟩

theorem Tracks.run {t : Table} (h : Tracks security file t) {ops : List Op}
    (hops : ∀ op ∈ ops, op.installsProto = false) : Tracks security file (runOps security t ops) := by
  induction ops generalizing t with
  | nil => exact h
  | cons op rest ih =>
    simp only [List.mem_cons, forall_eq_or_imp] at hops
    refine ih ?_ hops.2
    cases op with
    | post body => exact h.post body
    | put name body => exact h.put (by simpa [Op.installsProto] using hops.1) body
    | delete name => exact h.delete name

end Tracks

theorem Tracks.startup {config started : Config} {overrides : Js.Map ServiceConfig}
    (h : startup config overrides = .ok started) (hfile : config.services.proto = none) :
    Tracks config.security config.services ⟨started.services, overrides⟩ := by
  obtain ⟨hv, -, hproto, hlookup⟩ := startup_lookup h
  refine ⟨hproto.trans hfile, fun n => ?_⟩
  rw [hlookup n]
  exact tracked_overridden (fun c hc => file_accepted hv hc) _

/-- After any admin requests but a `PUT` on `__proto__`, a restart with the same file (whose
services object has no prototype) and policy completes when every stored override parses and
every service of the live table and of the file has a `policy`. It gives every name its live
entry, except a name gone from the live table, which gets the file's entry back. -/
theorem restart_keeps_live_table {config started : Config} {rows : Js.Map ServiceConfig}
    (h0 : startup config rows = .ok started) (hfile : config.services.proto = none)
    (ops : List Op) (hops : ∀ op ∈ ops, op.installsProto = false)
    (hparse : ∀ n c, (getServiceOverrides (afterAdmin started rows ops).overrides).own.lookup n =
      some c → parses c.upstream = true)
    (hlivePolicy : ∀ p ∈ (afterAdmin started rows ops).services.own, p.2.policy.isSome)
    (hfilePolicy : ∀ p ∈ config.services.own, p.2.policy.isSome) :
    ∃ restarted, startup config (afterAdmin started rows ops).overrides = .ok restarted ∧ ∀ n,
      restarted.services.own.lookup n = (afterAdmin started rows ops).services.own.lookup n ∨
      ((afterAdmin started rows ops).services.own.lookup n = none ∧
        restarted.services.own.lookup n = config.services.own.lookup n) := by
  obtain ⟨hv, hsec, -, -⟩ := startup_lookup h0
  have ht : Tracks config.security config.services (afterAdmin started rows ops) := by
    unfold afterAdmin
    rw [hsec]
    exact (Tracks.startup h0 hfile).run hops
  have hrows : ∀ n c, (getServiceOverrides (afterAdmin started rows ops).overrides).own.lookup n =
      some c → accepted config.security c.upstream = true → c.policy.isSome := fun n c hc hacc =>
    hlivePolicy _ (lookup_mem ((hc ▸ ht.tracked n).accepted_row hacc))
  obtain ⟨restarted, hr⟩ := startup_ok hv hparse hfilePolicy hrows
  refine ⟨restarted, hr, fun n => ?_⟩
  rw [(startup_lookup hr).2.2.2 n]
  exact (ht.tracked n).restart (hparse n)

/-- `gh` deleted, then a restart: it completes, and brings `gh` back from the file. -/
theorem restart_after_delete :
    startup ghConfig .empty = .ok ghConfig ∧ ghConfig.services.proto = none ∧
    (∀ op ∈ [Op.delete "gh"], op.installsProto = false) ∧
    (∀ n c, (getServiceOverrides (afterAdmin ghConfig .empty [.delete "gh"]).overrides).own.lookup n =
      some c → parses c.upstream = true) ∧
    (∀ p ∈ (afterAdmin ghConfig .empty [.delete "gh"]).services.own, p.2.policy.isSome) ∧
    (∀ p ∈ ghConfig.services.own, p.2.policy.isSome) ∧
    ∃ restarted, startup ghConfig (afterAdmin ghConfig .empty [.delete "gh"]).overrides = .ok restarted ∧
      ∀ n, restarted.services.own.lookup n =
          (afterAdmin ghConfig .empty [.delete "gh"]).services.own.lookup n ∨
        ((afterAdmin ghConfig .empty [.delete "gh"]).services.own.lookup n = none ∧
          restarted.services.own.lookup n = ghConfig.services.own.lookup n) :=
  have hp : ∀ n c, (getServiceOverrides (afterAdmin ghConfig .empty [.delete "gh"]).overrides).own.lookup n =
      some c → parses c.upstream = true := fun _ _ h => by cases h
  have hlive : ∀ p ∈ (afterAdmin ghConfig .empty [.delete "gh"]).services.own, p.2.policy.isSome := by
    decide
  have hfile : ∀ p ∈ ghConfig.services.own, p.2.policy.isSome := by decide
  have h0 : startup ghConfig .empty = .ok ghConfig := rfl
  ⟨h0, rfl, by decide, hp, hlive, hfile,
    restart_keeps_live_table h0 rfl _ (by decide) hp hlive hfile⟩

/-- A service of the live table without `policy`. -/
def bareService : ServiceConfig where
  upstream := some "https://api.github.com"
  auth := some { type := some "bearer", token := some "T" }

/-- A service on a host the allowlist rejects. -/
def evilService : ServiceConfig where
  upstream := some "https://attacker.example"
  auth := some { type := some "bearer", token := some "T" }
  policy := some { default := some "auto_approve" }

/-- `PUT /api/services/__proto__` with an `evil` property in its config, then `PUT` on `evil`. -/
def protoOps : List Op :=
  [.put "__proto__" (.ok ⟨some { upstream := some "https://api.github.com" }, [("evil", .obj evilService)]⟩),
    .put "evil" (.ok {})]

/-- A deleted file service comes back after a restart. A service created without `policy` makes
the restart throw in the `listening` callback. A `PUT` on `__proto__` that carries an `evil`
property, then a `PUT` on `evil`, puts into the live table an `evil` entry whose upstream the
allowlist rejects; the restart skips it. -/
theorem restart_diverges_from_live :
    startup ghConfig .empty = .ok ghConfig ∧
    (afterAdmin ghConfig .empty [.delete "gh"]).services.own.lookup "gh" = none ∧
    (startup ghConfig (afterAdmin ghConfig .empty [.delete "gh"]).overrides).map
      (·.services.own.lookup "gh") = .ok (some ghService) ∧
    startup ghConfig (afterAdmin ghConfig .empty [.post (.ok ⟨some "bare", some bareService⟩)]).overrides =
      .error "TypeError: Cannot read properties of undefined (reading \x27default\x27)" ∧
    (afterAdmin ghConfig .empty protoOps).services.own.lookup "evil" = some (mergeService evilService {}) ∧
    (startup ghConfig (afterAdmin ghConfig .empty protoOps).overrides).map
      (·.services.own.lookup "evil") = .ok none :=
  ⟨rfl, rfl, rfl, rfl, rfl, rfl⟩

end ClawGuard.Admin
