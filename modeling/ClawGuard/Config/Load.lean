import ClawGuard.Js

namespace ClawGuard.Load

/-- A value of the loaded document. Objects list their own keys in insertion order (`yaml.load`
rejects a repeated key, and keeps `__proto__` as an own key), then the own properties of each
object of their prototype chain above `Object.prototype`; numbers are the integers the file
writes. -/
inductive Value
  | null
  | bool (b : Bool)
  | num (n : Int)
  | str (s : String)
  | arr (xs : List Value)
  | obj (fields : List (String × Value)) (chain : List (List (String × Value)))
  deriving Repr

namespace Value

/-- JavaScript truthiness of a property read; `none` is `undefined`. -/
def truthy : Option Value → Bool
  | some (.bool b) => b
  | some (.num n) => n ≠ 0
  | some (.str s) => s ≠ ""
  | some (.arr _) | some (.obj _ _) => true
  | some .null | none => false

/-- `v[k]` for the keys `loadConfig` reads, which `Object.prototype` lacks: an own property of an
object, else the first one its prototype chain has, else `undefined`. -/
def get (v : Value) (k : String) : Option Value :=
  match v with
  | .obj fields chain => (fields.lookup k).or (chain.findSome? (·.lookup k))
  | _ => none

/-- `v?.[k]`. -/
def read (v : Option Value) (k : String) : Option Value := v.bind (·.get k)

/-- `v.k`: reading a property of `null` throws. -/
def member (v : Value) (k : String) : Except String (Option Value) :=
  match v with
  | .null => .error ("TypeError: Cannot read properties of null (reading \x27" ++ k ++ "\x27)")
  | v => .ok (v.get k)

/-- `o.k = x` on an object, for a key other than `__proto__`. -/
def set (v : Value) (k : String) (x : Value) : Value :=
  match v with
  | .obj fields chain => .obj (Js.Obj.upsert k x fields) chain
  | v => v

/-- `o.k.… = …`: the assignment `f` made on the object that `o.k` holds. An object read through
the prototype chain is written back as an own property, which reads the same. -/
def modify (v : Value) (k : String) (f : Value → Value) : Value :=
  match v.get k with
  | some x => v.set k (f x)
  | none => v

/-- `a === b`. Two reads of objects or arrays built apart are never the same object. -/
def strictEq : Value → Value → Bool
  | .null, .null => true
  | .bool a, .bool b => a == b
  | .num a, .num b => a == b
  | .str a, .str b => a == b
  | _, _ => false

/-- `a === b` on two reads, `none` being `undefined`. -/
def strictEqRead : Option Value → Option Value → Bool
  | none, none => true
  | some a, some b => a.strictEq b
  | _, _ => false

/-- `Object.keys(v)`: the own keys of an object in `Object.entries` order, the indices of an
array or of a string of BMP characters; a number or a boolean has none. -/
def keys : Value → List String
  | .obj fields _ => (Js.Obj.entries ⟨fields, none⟩).map Prod.fst
  | .arr xs => (List.range xs.length).map toString
  | .str s => (List.range s.length).map toString
  | _ => []

/-- The properties that `{ ...v }` copies, in `Object.keys` order. -/
def spreadProps : Value → List (String × Value)
  | .obj fields _ => Js.Obj.entries ⟨fields, none⟩
  | .arr xs => xs.enum.map fun p => (toString p.1, p.2)
  | .str s => s.toList.enum.map fun p => (toString p.1, .str (String.singleton p.2))
  | _ => []

theorem obj_of_get {v : Value} {k : String} {x : Value} (h : v.get k = some x) :
    ∃ fields chain, v = .obj fields chain := by
  cases v <;> first | exact ⟨_, _, rfl⟩ | cases h

theorem get_set_self (fields : List (String × Value)) (chain : List (List (String × Value)))
    (k : String) (x : Value) : ((Value.obj fields chain).set k x).get k = some x := by
  simp [set, get, Js.Obj.lookup_upsert_self]

theorem get_set_ne (v : Value) {k j : String} (x : Value) (h : j ≠ k) :
    (v.set k x).get j = v.get j := by
  cases v <;> first | rfl | simp [set, get, Js.Obj.lookup_upsert_ne x _ h]

theorem get_modify_ne (v : Value) {k j : String} (f : Value → Value) (h : j ≠ k) :
    (v.modify k f).get j = v.get j := by
  unfold modify; split <;> simp only [get_set_ne _ _ h]

/-- A truthy read found a property. -/
theorem read_of_truthy {o : Option Value} {k : String} (h : truthy (read o k)) :
    ∃ v x, o = some v ∧ v.get k = some x := by
  cases o with
  | none => cases h
  | some v =>
    cases hv : v.get k with
    | none => simp [read, hv, truthy] at h
    | some x => exact ⟨v, x, rfl, hv⟩

end Value

open Value

/-- `{ ...target, ...v }`: the copied properties overwrite in place or are appended. -/
def spread (target : List (String × Value)) (v : Value) : List (String × Value) :=
  v.spreadProps.foldl (fun acc p => Js.Obj.upsert p.1 p.2 acc) target

/-- `v || d`. -/
def orElse (v : Option Value) (d : Value) : Value := if truthy v then v.getD d else d

/-- `\w`. -/
def isWordChar (c : Char) : Bool := c.isAlphanum || c == '_'

/-- How far a match has got: not started, past its `$`, or past `${` and the word characters
`name`. A character that cannot continue it gives back the text held so far, none of which can
start a match but the `$`, which just failed. -/
inductive Scan
  | text
  | dollar
  | brace (name : List Char)
  deriving DecidableEq, Repr

/-- The start of a match that a scan state holds back. -/
def Scan.held : Scan → List Char
  | .text => []
  | .dollar => ['$']
  | .brace name => '$' :: '{' :: name

def missingVariable (name : String) : String :=
  "❌ Required environment variable " ++ name ++ " is not set"

/-- `process.env[varName]` as the replacer reads it: unset and empty both fail `!val`. -/
def envValue (env : String → Option String) (name : String) : Option String :=
  match env name with
  | some val => if val = "" then none else some val
  | none => none

/-- The global replace from a scan state: each match is replaced by its variable's value, an
unset or empty variable ends the process, and the rest of the text is copied. -/
def replaceFrom (env : String → Option String) : Scan → List Char → Except String (List Char)
  | st, [] => .ok st.held
  | .text, c :: s =>
    if c = '$' then replaceFrom env .dollar s else (c :: ·) <$> replaceFrom env .text s
  | .dollar, c :: s =>
    if c = '{' then replaceFrom env (.brace []) s
    else if c = '$' then ('$' :: ·) <$> replaceFrom env .dollar s
    else (['$', c] ++ ·) <$> replaceFrom env .text s
  | .brace name, c :: s =>
    if isWordChar c then replaceFrom env (.brace (name ++ [c])) s
    else if c = '}' ∧ name ≠ [] then
      match envValue env (String.mk name) with
      | some val => (val.toList ++ ·) <$> replaceFrom env .text s
      | none => .error (missingVariable (String.mk name))
    else if c = '$' then (('$' :: '{' :: name) ++ ·) <$> replaceFrom env .dollar s
    else (('$' :: '{' :: name) ++ c :: ·) <$> replaceFrom env .text s

def substituteEnvVars (env : String → Option String) (str : String) : Except String String :=
  String.mk <$> replaceFrom env .text str.toList

/-- The environment that sets each variable to its own reference. -/
def selfReferences (name : String) : Option String := some ("$\x7b" ++ name ++ "\x7d")

/-- Giving each variable its own reference back rebuilds the text: the scan copies every
character outside a match and cuts each match exactly at its ends. -/
theorem replaceFrom_references (st : Scan) (l : List Char) :
    replaceFrom selfReferences st l = .ok (st.held ++ l) := by
  induction l generalizing st with
  | nil => cases st <;> simp [replaceFrom, Scan.held]
  | cons c s ih =>
    cases st with
    | text =>
      by_cases hc : c = '$'
      · subst hc; simp [replaceFrom, ih, Scan.held]
      · simp [replaceFrom, hc, ih, Scan.held]
    | dollar =>
      simp only [replaceFrom]
      split_ifs <;> simp_all [Scan.held]
    | brace name =>
      simp only [replaceFrom]
      split_ifs with hw hb hd
      · simp [ih, Scan.held]
      · have hne : "$\x7b" ++ String.mk name ++ "\x7d" ≠ "" := fun h => by
          simpa using congrArg String.data h
        simp [envValue, selfReferences, hne, ih, Scan.held, hb.1]
      · simp [ih, Scan.held, hd]
      · simp [ih, Scan.held]

theorem substituteEnvVars_own_references (str : String) :
    substituteEnvVars selfReferences str = .ok str := by
  rw [substituteEnvVars, replaceFrom_references]
  rfl

/-- Text without `${` goes through the scan unchanged, from the start or just after a `$`. -/
theorem replaceFrom_plain (env : String → Option String) (l : List Char) :
    (¬ ['$', '{'] <:+: l → replaceFrom env .text l = .ok l) ∧
      (¬ ['$', '{'] <:+: '$' :: l → replaceFrom env .dollar l = .ok ('$' :: l)) := by
  induction l with
  | nil => exact ⟨fun _ => rfl, fun _ => rfl⟩
  | cons c s ih =>
    refine ⟨fun h => ?_, fun h => ?_⟩
    · by_cases hc : c = '$'
      · subst hc; simpa [replaceFrom] using ih.2 h
      · simp [replaceFrom, hc, ih.1 fun h' => h (List.infix_cons h')]
    · by_cases hb : c = '{'
      · exact absurd (List.IsPrefix.isInfix (by simp [hb])) h
      by_cases hc : c = '$'
      · subst hc; simp [replaceFrom, ih.2 fun h' => h (List.infix_cons h')]
      · simp [replaceFrom, hb, hc, ih.1 fun h' => h (List.infix_cons (List.infix_cons h'))]

/-- The `includes('${')` test of `deepSubstitute` only skips strings that the replace would
return unchanged, whatever the environment. -/
theorem substituteEnvVars_plain (env : String → Option String) {str : String}
    (h : Js.includes str "$\x7b" = false) : substituteEnvVars env str = .ok str := by
  have h' : ¬ ['$', '{'] <:+: str.toList := by simpa [Js.includes] using h
  rw [substituteEnvVars, (replaceFrom_plain env _).1 h']
  rfl

theorem dollar_amount_kept :
    Js.includes "costs $5 (USD)" "$\x7b" = false ∧
      substituteEnvVars (fun _ => none) "costs $5 (USD)" = .ok "costs $5 (USD)" :=
  ⟨by decide, substituteEnvVars_plain _ (by decide)⟩

/-- `result[key] = v` on an object under construction, its own properties and its prototype
chain. Assigning `__proto__` adds no own key: an object becomes the prototype, `null` leaves none,
an array leaves none whose properties `loadConfig` reads, and a primitive is ignored. -/
def assign (result : List (String × Value) × List (List (String × Value))) (key : String)
    (v : Value) : List (String × Value) × List (List (String × Value)) :=
  if key = "__proto__" then
    (result.1, match v with
      | .obj fields chain => fields :: chain
      | .null | .arr _ => []
      | _ => result.2)
  else (Js.Obj.upsert key v result.1, result.2)

/-- The loop of `deepSubstitute` over `Object.entries(obj)`: `result[key] = value` in turn, each
value substituted first. -/
def assignEntries (result : List (String × Value) × List (List (String × Value))) :
    List (String × Except String Value) → Except String (List (String × Value) × List (List (String × Value)))
  | [] => .ok result
  | (k, r) :: rest => do
    let v ← r
    assignEntries (assign result k v) rest

mutual

def deepSubstitute (env : String → Option String) : Value → Except String Value
  | .str s => if Js.includes s "$\x7b" then .str <$> substituteEnvVars env s else .ok (.str s)
  | .arr xs => .arr <$> deepSubstituteItems env xs
  | .obj fields _ =>
    (fun r => .obj r.1 r.2) <$> assignEntries ([], []) (Js.Obj.entries ⟨substituteFields env fields, none⟩)
  | v => .ok v

/-- `obj.map(deepSubstitute)`. -/
def deepSubstituteItems (env : String → Option String) : List Value → Except String (List Value)
  | [] => .ok []
  | v :: vs => do
    let v ← deepSubstitute env v
    let vs ← deepSubstituteItems env vs
    pure (v :: vs)

/-- Each own value substituted, keyed as before. -/
def substituteFields (env : String → Option String) :
    List (String × Value) → List (String × Except String Value)
  | [] => []
  | (k, v) :: fields => (k, deepSubstitute env v) :: substituteFields env fields

end

mutual

/-- The document that the loop of `deepSubstitute` builds when no text changes: each object's
entries assigned in `Object.entries` order, `__proto__` installing the prototype. -/
def rebuilt : Value → Value
  | .arr xs => .arr (rebuiltItems xs)
  | .obj fields _ =>
    let r := (Js.Obj.entries ⟨rebuiltFields fields, none⟩).foldl (fun acc p => assign acc p.1 p.2) ([], [])
    .obj r.1 r.2
  | v => v

def rebuiltItems : List Value → List Value
  | [] => []
  | v :: vs => rebuilt v :: rebuiltItems vs

def rebuiltFields : List (String × Value) → List (String × Value)
  | [] => []
  | (k, v) :: fields => (k, rebuilt v) :: rebuiltFields fields

end

section Lift

variable {env : String → Option String}

theorem deepSubstituteItems_of {xs : List Value}
    (h : ∀ v ∈ xs, deepSubstitute env v = .ok (rebuilt v)) :
    deepSubstituteItems env xs = .ok (rebuiltItems xs) := by
  induction xs with
  | nil => rfl
  | cons v vs ih =>
    rw [deepSubstituteItems, rebuiltItems, h v (List.mem_cons_self v vs),
      ih fun w hw => h w (List.mem_cons_of_mem v hw)]
    rfl

theorem substituteFields_of {fields : List (String × Value)}
    (h : ∀ p ∈ fields, deepSubstitute env p.2 = .ok (rebuilt p.2)) :
    substituteFields env fields = (rebuiltFields fields).map fun p => (p.1, .ok p.2) := by
  induction fields with
  | nil => rfl
  | cons p rest ih =>
    rw [substituteFields, rebuiltFields, h p (List.mem_cons_self p rest),
      ih fun q hq => h q (List.mem_cons_of_mem p hq)]
    rfl

end Lift

/-- With every value already computed, the loop is the fold of its assignments. -/
theorem assignEntries_ok (l : List (String × Value)) :
    ∀ result, assignEntries result (l.map fun p => (p.1, .ok p.2)) =
      .ok (l.foldl (fun acc p => assign acc p.1 p.2) result) := by
  induction l with
  | nil => exact fun _ => rfl
  | cons p rest ih => exact fun result => ih (assign result p.1 p.2)

/-- Setting every variable to its own reference, `deepSubstitute` changes no text of any
document: strings and arrays come back as they were, and objects as its loop rebuilds them, their
keys in `Object.entries` order and `__proto__` installed as the prototype. -/
theorem deepSubstitute_own_references : ∀ v : Value,
    deepSubstitute selfReferences v = .ok (rebuilt v)
  | .null | .bool _ | .num _ => rfl
  | .str s => by
    by_cases hi : Js.includes s "$\x7b" <;>
      simp [deepSubstitute, rebuilt, hi, substituteEnvVars_own_references s]
  | .arr xs => by
    rw [deepSubstitute, rebuilt, deepSubstituteItems_of fun v _ => deepSubstitute_own_references v]
    rfl
  | .obj fields _ => by
    rw [deepSubstitute, rebuilt, substituteFields_of fun p _ => deepSubstitute_own_references p.2,
      Js.Obj.entries_map, assignEntries_ok]
    rfl
decreasing_by
  all_goals simp_wf
  · rename_i _ hv
    have := List.sizeOf_lt_of_mem hv
    omega
  · rename_i _ hp
    have := List.sizeOf_lt_of_mem hp
    cases ‹String × Value›
    simp only [Prod.mk.sizeOf_spec] at this ⊢
    omega

def defaultSecurity : List (String × Value) :=
  [("allowedUpstreams", .arr []), ("blockPrivateIPs", .bool true), ("followRedirects", .bool false),
    ("maxPayloadLogSize", .num 10240)]

def defaultAdmin : List (String × Value) :=
  [("enabled", .bool true), ("pin", .str ""),
    ("allowedIPs", .arr [.str "127.0.0.1", .str "::1", .str "::ffff:127.0.0.1"])]

def defaultAudit : List (String × Value) :=
  [("type", .str "sqlite"), ("path", .str "./clawguard.db"), ("logPayload", .bool false)]

def defaultTelegramPairing : List (String × Value) := [("enabled", .bool true), ("secret", .str "")]

/-- `config.notifications?.telegram`. -/
def telegramOf (config : Value) : Option Value := read (config.get "notifications") "telegram"

/-- The checks of the required fields, each ending the process with its message. -/
def checkRequired (config : Value) : Except String Unit := do
  let server ← config.member "server"
  if !truthy (read server "port") || !truthy (read server "agentKey") then
    throw "❌ Missing server.port or server.agentKey in config"
  let services := config.get "services"
  if !truthy services || (services.getD .null).keys.length = 0 then throw "❌ No services configured"
  if !truthy (read (telegramOf config) "botToken") then
    throw "❌ Missing notifications.telegram.botToken"
  if !truthy (read (telegramOf config) "chatId") then throw "❌ Missing notifications.telegram.chatId"

/-- `{ ...defaults, ...(config[k] || {}) }`. -/
def withDefaults (defaults : List (String × Value)) (config : Value) (k : String) : Value :=
  .obj (spread defaults (orElse (config.get k) (.obj [] []))) []

/-- `config.security`, `config.admin` and `config.audit`, each spread over its defaults. -/
def withSections (config : Value) : Value :=
  let config := config.set "security" (withDefaults defaultSecurity config "security")
  let config := config.set "admin" (withDefaults defaultAdmin config "admin")
  config.set "audit" (withDefaults defaultAudit config "audit")

/-- The default pairing object, set when the telegram section's `pairing` is falsy. -/
def withPairing (config : Value) : Value :=
  if !truthy (read (telegramOf config) "pairing") then
    config.modify "notifications" fun n =>
      n.modify "telegram" fun t => t.set "pairing" (.obj defaultTelegramPairing [])
  else config

def applyDefaults (config : Value) : Value := withPairing (withSections config)

/-- The checks of the admin PIN and of the pairing secret. -/
def checkSecrets (config : Value) : Except String Unit := do
  let admin := config.get "admin"
  if truthy (read admin "enabled") && !truthy (read admin "pin") then
    throw "❌ Admin panel is enabled but no PIN is set.\n   Set admin.pin in config or disable with admin.enabled: false"
  let pairing := read (telegramOf config) "pairing"
  if truthy (read pairing "enabled") && !truthy (read pairing "secret") then
    throw "❌ Telegram pairing is enabled but no secret is set.\n   Set notifications.telegram.pairing.secret in config"

/-- `loadConfig` on the document `yaml.load` returns, in the environment `env`. -/
def loadConfig (env : String → Option String) (parsed : Value) : Except String Value := do
  let config ← deepSubstitute env parsed
  checkRequired config
  let config := applyDefaults config
  checkSecrets config
  pure config

/-- The fields `checkRequired` insists on. -/
structure Required (config : Value) : Prop where
  port : truthy (Value.read (config.get "server") "port")
  agentKey : truthy (Value.read (config.get "server") "agentKey")
  services : truthy (config.get "services")
  serviceKeys : ((config.get "services").getD .null).keys ≠ []
  botToken : truthy (Value.read (telegramOf config) "botToken")
  chatId : truthy (Value.read (telegramOf config) "chatId")

theorem checkRequired_ok {config : Value} (h : checkRequired config = .ok ()) : Required config := by
  have hm : config.member "server" = pure (config.get "server") := by
    cases config
    · cases h
    all_goals rfl
  simp only [checkRequired, hm, pure_bind] at h
  split_ifs at h <;> try cases h
  rename_i h1 h2 h3 h4
  simp only [Bool.or_eq_true, Bool.not_eq_true', not_or, Bool.not_eq_false,
    decide_eq_false_iff_not] at h1 h2 h3 h4
  exact ⟨h1.1, h1.2, h2.1, fun e => h2.2 (by simp [e]), h3, h4⟩

theorem withDefaults_set {k j : String} (h : j ≠ k) (defaults : List (String × Value))
    (config x : Value) : withDefaults defaults (config.set k x) j = withDefaults defaults config j := by
  simp only [withDefaults, get_set_ne _ _ h]

/-- The admin section is the document's spread over `DEFAULT_ADMIN`. -/
theorem withSections_admin (fields : List (String × Value)) (chain : List (List (String × Value))) :
    (withSections (.obj fields chain)).get "admin" =
      some (withDefaults defaultAdmin (.obj fields chain) "admin") := by
  simp only [withSections, get_set_ne _ _ (by decide : "admin" ≠ "audit"),
    withDefaults_set (by decide : "admin" ≠ "security")]
  exact get_set_self _ _ _ _

theorem withPairing_get {k : String} (h : k ≠ "notifications") (config : Value) :
    (withPairing config).get k = config.get k := by
  unfold withPairing; split_ifs <;> simp only [get_modify_ne _ _ h]

theorem checkSecrets_ok {config : Value} (h : checkSecrets config = .ok ()) :
    (truthy (Value.read (config.get "admin") "enabled") →
      truthy (Value.read (config.get "admin") "pin")) ∧
    (truthy (Value.read (Value.read (telegramOf config) "pairing") "enabled") →
      truthy (Value.read (Value.read (telegramOf config) "pairing") "secret")) := by
  simp only [checkSecrets] at h
  split_ifs at h <;> try cases h
  rename_i h1 h2
  simp only [Bool.and_eq_true, Bool.not_eq_true', not_and, Bool.not_eq_false] at h1 h2
  exact ⟨h1, h2⟩

/-- A computation that went through ran each of its steps through. -/
theorem bind_eq_ok {α β : Type} {x : Except String α} {f : α → Except String β} {b : β}
    (h : x >>= f = .ok b) : ∃ a, x = .ok a ∧ f a = .ok b := by
  cases x with
  | error => cases h
  | ok a => exact ⟨a, rfl, h⟩

theorem loadConfig_ok {env : String → Option String} {parsed config : Value}
    (h : loadConfig env parsed = .ok config) :
    ∃ doc, deepSubstitute env parsed = .ok doc ∧ checkRequired doc = .ok () ∧
      checkSecrets config = .ok () ∧ config = applyDefaults doc := by
  obtain ⟨doc, hd, h⟩ := bind_eq_ok h
  obtain ⟨⟨⟩, hr, h⟩ := bind_eq_ok h
  obtain ⟨⟨⟩, hs, ⟨⟩⟩ := bind_eq_ok h
  exact ⟨doc, hd, hr, hs, rfl⟩

/-- A document in the shape of the example configuration, its agent key and bot token read from
the environment. -/
def sampleDoc : Value :=
  .obj [("server", .obj [("port", .num 3456), ("agentKey", .str "$\x7bCLAWGUARD_AGENT_KEY\x7d")] []),
    ("services", .obj [("gh", .obj [("upstream", .str "https://api.github.com")] [])] []),
    ("notifications", .obj [("telegram", .obj [("botToken", .str "$\x7bTELEGRAM_BOT_TOKEN\x7d"),
      ("chatId", .str "100"),
      ("pairing", .obj [("enabled", .bool true), ("secret", .str "s3cret")] [])] [])] []),
    ("admin", .obj [("pin", .str "4821")] [])] []

def sampleEnv (name : String) : Option String :=
  if name = "CLAWGUARD_AGENT_KEY" then some "K" else if name = "TELEGRAM_BOT_TOKEN" then some "T"
  else none

end ClawGuard.Load
