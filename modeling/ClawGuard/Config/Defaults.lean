import ClawGuard.Config.Load
import ClawGuard.Url.Reparse

namespace ClawGuard.Load

open Value

/-- An index key is all digits. -/
theorem toString_ne {k : String} (hk : k.toList.any (fun c => !c.isDigit)) (i : Nat) :
    toString i ≠ k := by
  rintro rfl
  obtain ⟨c, hc, hd⟩ := List.any_eq_true.mp hk
  have hdigit : ∀ m < 10, (Nat.digitChar m).isDigit = true := by decide
  rcases Web.toDigitsCore_mem (by omega) (i + 1) i [] c hc with h | ⟨m, hm, rfl⟩
  · cases h
  · simp [hdigit m hm] at hd

/-- The keys `{ ...v }` copies: those of an object, or indices. -/
theorem not_mem_spreadProps {k : String} (hk : k.toList.any (fun c => !c.isDigit)) {v : Value}
    (hobj : ∀ fields chain, v = .obj fields chain → k ∉ fields.map Prod.fst) :
    k ∉ v.spreadProps.map Prod.fst := by
  cases v with
  | obj fields chain =>
    exact fun hm => hobj fields chain rfl (((Js.Obj.entries_perm _).map Prod.fst).mem_iff.mp hm)
  | arr xs =>
    simp only [spreadProps, List.map_map, List.mem_map, not_exists, not_and]
    exact fun p _ => toString_ne hk p.1
  | str s =>
    simp only [spreadProps, List.map_map, List.mem_map, not_exists, not_and]
    exact fun p _ => toString_ne hk p.1
  | _ => simp [spreadProps]

theorem lookup_foldl_upsert {k : String} : ∀ (props target : List (String × Value)),
    k ∉ props.map Prod.fst →
      (props.foldl (fun acc p => Js.Obj.upsert p.1 p.2 acc) target).lookup k = target.lookup k
  | [], _, _ => rfl
  | p :: props, target, h => by
    simp only [List.map_cons, List.mem_cons, not_or] at h
    rw [List.foldl_cons, lookup_foldl_upsert props _ h.2, Js.Obj.lookup_upsert_ne _ _ h.1]

/-- A key that the section does not spread keeps its default. -/
theorem withDefaults_get {defaults : List (String × Value)} {config : Value} {key k : String}
    (h : k ∉ (orElse (config.get key) (.obj [] [])).spreadProps.map Prod.fst) :
    (withDefaults defaults config key).get k = defaults.lookup k := by
  rw [withDefaults, Value.get, List.findSome?, Option.or_none]
  exact lookup_foldl_upsert _ _ h

/-- `v || d` is `v` itself or `d`. -/
theorem orElse_cases (v : Option Value) (d : Value) : v = some (orElse v d) ∨ orElse v d = d := by
  unfold orElse
  split_ifs with h
  · cases v with
    | none => cases h
    | some x => exact .inl rfl
  · exact .inr rfl

/-- The sections that `loadConfig` spreads over their defaults. -/
def sectionDefaults : List (String × List (String × Value)) :=
  [("security", defaultSecurity), ("admin", defaultAdmin), ("audit", defaultAudit)]

theorem withSections_section {fields : List (String × Value)} {chain : List (List (String × Value))}
    {key : String} {defaults : List (String × Value)} (hsec : (key, defaults) ∈ sectionDefaults) :
    (withSections (.obj fields chain)).get key =
      some (withDefaults defaults (.obj fields chain) key) := by
  simp only [sectionDefaults, List.mem_cons, Prod.mk.injEq, List.mem_singleton] at hsec
  rcases hsec with ⟨rfl, rfl⟩ | ⟨rfl, rfl⟩ | ⟨rfl, rfl⟩ | h
  · simp only [withSections, get_set_ne _ _ (by decide : "security" ≠ "audit"),
      get_set_ne _ _ (by decide : "security" ≠ "admin")]
    exact get_set_self _ _ _ _
  · exact withSections_admin fields chain
  · simp only [withSections, withDefaults_set (by decide : "audit" ≠ "admin"),
      withDefaults_set (by decide : "audit" ≠ "security")]
    exact get_set_self _ _ _ _
  · cases h

/-- Every default of `DEFAULT_SECURITY`, `DEFAULT_ADMIN` and `DEFAULT_AUDIT` holds in the loaded
configuration unless the section object that `config[key]` reads after substitution, as an own
property or through a prototype that a `__proto__` key installed, has that key as an own key: a
section that is missing, falsy, an array, a string or a scalar leaves every default in place. -/
theorem loadConfig_defaults {env : String → Option String} {parsed config : Value}
    (h : loadConfig env parsed = .ok config) {key : String} {defaults : List (String × Value)}
    (hsec : (key, defaults) ∈ sectionDefaults) {k : String} {d : Value}
    (hd : defaults.lookup k = some d)
    (hunset : ∀ doc, deepSubstitute env parsed = .ok doc →
      ∀ fields chain, doc.get key = some (.obj fields chain) → k ∉ fields.map Prod.fst) :
    Value.read (config.get key) k = some d := by
  obtain ⟨doc, hdoc, hr, -, rfl⟩ := loadConfig_ok h
  obtain ⟨server, -, hserver, -⟩ := read_of_truthy (checkRequired_ok hr).port
  obtain ⟨out, chain, rfl⟩ := obj_of_get hserver
  have hkey : key ≠ "notifications" ∧ ∀ p ∈ defaults, p.1.toList.any (fun c => !c.isDigit) := by
    simp only [sectionDefaults, List.mem_cons, Prod.mk.injEq, List.mem_singleton] at hsec
    rcases hsec with ⟨rfl, rfl⟩ | ⟨rfl, rfl⟩ | ⟨rfl, rfl⟩ | h <;> first | decide | cases h
  have hk : k.toList.any (fun c => !c.isDigit) := by
    obtain ⟨l₁, l₂, e, -⟩ := List.lookup_eq_some_iff.mp hd
    exact hkey.2 (k, d) (by simp [e])
  rw [applyDefaults, withPairing_get hkey.1, withSections_section hsec, Value.read,
    Option.some_bind, withDefaults_get, hd]
  refine not_mem_spreadProps hk fun fields chain' hv => ?_
  rcases orElse_cases ((Value.obj out chain).get key) (.obj [] []) with hs | hs <;> rw [hv] at hs
  · exact hunset _ hdoc fields chain' hs
  · cases hs
    simp

/-- A top-level `__proto__` key installs the prototype from which `config.security` is read. -/
example :
    (loadConfig sampleEnv (sampleDoc.set "__proto__"
        (.obj [("security", .obj [("blockPrivateIPs", .bool false)] [])] []))).map
      (fun c => Value.read (c.get "security") "blockPrivateIPs") = .ok (some (.bool false)) :=
  rfl

/-- The sample document with a `security` section that lists its upstreams and nothing else. -/
def upstreamsOnlyDoc : Value :=
  sampleDoc.set "security" (.obj [("allowedUpstreams", .arr [.str "api.github.com"])] [])

theorem private_ips_blocked_by_default :
    (∀ doc, deepSubstitute sampleEnv upstreamsOnlyDoc = .ok doc →
      ∀ fields chain, doc.get "security" = some (.obj fields chain) →
        "blockPrivateIPs" ∉ fields.map Prod.fst) ∧
    ∃ config, loadConfig sampleEnv upstreamsOnlyDoc = .ok config ∧
      Value.read (config.get "security") "blockPrivateIPs" = some (.bool true) :=
  have hunset : ∀ doc, deepSubstitute sampleEnv upstreamsOnlyDoc = .ok doc →
      ∀ fields chain, doc.get "security" = some (.obj fields chain) →
        "blockPrivateIPs" ∉ fields.map Prod.fst := fun doc h fields chain hg => by
    have hdoc : deepSubstitute sampleEnv upstreamsOnlyDoc = .ok _ := rfl
    rw [hdoc, Except.ok.injEq] at h
    subst h
    cases hg
    decide
  ⟨hunset, _, rfl, @loadConfig_defaults sampleEnv upstreamsOnlyDoc _ rfl "security" defaultSecurity
    (List.mem_cons_self _ _) "blockPrivateIPs" (.bool true) rfl hunset⟩

end ClawGuard.Load
