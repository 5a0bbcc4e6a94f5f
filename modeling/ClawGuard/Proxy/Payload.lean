import ClawGuard.Proxy.Routing

namespace ClawGuard.Proxy

open Web Security Approval

/-- A continuation that appends only audit rows satisfying `P`. -/
def AuditsWith (P : AuditEntry → Prop) (k : Task → Task) : Prop :=
  ∀ t, (∀ e ∈ t.audits, P e) → ∀ e ∈ (k t).audits, P e

section AuditsWith

variable {P : AuditEntry → Prop}

theorem respond_auditsWith (r : Reply) : AuditsWith P (respond r) := fun _ h => h

theorem escape_auditsWith (e : String) : AuditsWith P (escape e) := fun _ h => h

theorem id_auditsWith : AuditsWith P id := fun _ h => h

theorem AuditsWith.logRequest {k : Task → Task} (hk : AuditsWith P k) (env : Env) {e : AuditEntry}
    (he : P e) : AuditsWith P (logRequest env e k) := by
  intro t ht
  unfold Proxy.logRequest
  split
  · exact ht
  · refine hk _ fun e' he' => ?_
    rcases List.mem_append.mp he' with h | h
    · exact ht e' h
    · rw [List.mem_singleton.mp h]; exact he

end AuditsWith

/-- An audit row without a request or response body. -/
def NoPayload (e : AuditEntry) : Prop := e.requestBody = none ∧ e.responseBody = none

section NoPayload

variable {config : Config} (hlog : config.logPayload = false)
include hlog

theorem proxyEvents_noPayload (env : Env) (sc : ServiceConfig) (serviceName method path agentIp : String)
    (url : Url) : AuditsWith NoPayload (proxyEvents config env sc serviceName method path agentIp url none) := by
  intro t
  unfold proxyEvents
  split
  · exact (respond_auditsWith _).logRequest env ⟨rfl, rfl⟩ t
  · simp only [hlog, Bool.false_eq_true, false_and, if_false]
    repeat' split
    all_goals first
      | exact (respond_auditsWith _).logRequest env ⟨rfl, rfl⟩ t
      | exact id_auditsWith.logRequest env ⟨rfl, rfl⟩ (respond (.piped _) t)
      | exact escape_auditsWith _ t
      | exact fun h => h

theorem hostEvents_noPayload (env : Env) (serviceName method path agentIp : String) (url : Url) :
    AuditsWith NoPayload (hostEvents config env serviceName method path agentIp url none) := by
  intro t
  unfold hostEvents
  split
  · exact (respond_auditsWith _).logRequest env ⟨rfl, rfl⟩ t
  · simp only [hlog, Bool.false_eq_true, false_and, if_false]
    split
    · exact id_auditsWith.logRequest env ⟨rfl, rfl⟩ (respond (.piped _) t)
    · exact fun h => h

theorem buildForward_log {sc : ServiceConfig} {req : Request} {u url : Url}
    {note : Nat → List Char} {fwd : Forward} {log : Option (List Char)}
    (h : buildForward config sc req u note = .ok (fwd, url, log)) : log = none := by
  unfold buildForward at h
  simp only [bind, Except.bind, hlog, Bool.false_eq_true, false_and, if_false] at h
  split at h
  · cases h
  · split_ifs at h
    cases h
    rfl

theorem forward_noPayload {sc : ServiceConfig} {req : Request} {u : Url} {note : Nat → List Char}
    {events : Url → Option (List Char) → Task → Task}
    (he : ∀ url, AuditsWith NoPayload (events url none)) :
    AuditsWith NoPayload (forward config sc req u note events) := by
  intro t
  unfold forward
  split
  · exact respond_auditsWith _ t
  · rename_i fwd url log hb
    rw [buildForward_log hlog hb]
    exact he url { t with sent := some fwd }

theorem handleProxy_noPayload (env : Env) (name : String) (req : Request) :
    AuditsWith NoPayload (handleProxy config env name req) := by
  intro t
  unfold handleProxy
  dsimp only
  repeat' split
  all_goals first
    | exact respond_auditsWith _ t
    | exact escape_auditsWith _ t
    | exact (respond_auditsWith _).logRequest env ⟨rfl, rfl⟩ t
    | exact forward_noPayload hlog (proxyEvents_noPayload hlog env _ name _ _ _) t

theorem handleHostProxy_noPayload (env : Env) (req : Request) :
    AuditsWith NoPayload (handleHostProxy config env req) := by
  intro t
  unfold handleHostProxy
  dsimp only
  repeat' split
  all_goals first
    | exact respond_auditsWith _ t
    | exact escape_auditsWith _ t
    | exact (respond_auditsWith _).logRequest env ⟨rfl, rfl⟩ t
    | exact forward_noPayload hlog (hostEvents_noPayload hlog env _ _ _ _) t

end NoPayload

/-- With `audit.logPayload` off, no audit row of any request stores a request or a response
body. -/
theorem no_payload_logged {config : Config} (hlog : config.logPayload = false) (adminEnabled : Bool)
    (env : Env) (req : Request) :
    ∀ e ∈ (serve config adminEnabled env req).audits, e.requestBody = none ∧ e.responseBody = none := by
  have h0 : ∀ e ∈ ({} : Task).audits, NoPayload e := fun _ h => by cases h
  unfold serve
  split
  · exact h0
  · split
    · exact respond_auditsWith _ _ h0
    · exact respond_auditsWith _ _ h0
  · split
    · exact respond_auditsWith _ _ h0
    · exact respond_auditsWith _ _ h0
  · split
    · exact respond_auditsWith _ _ h0
    · exact handleProxy_noPayload hlog env _ req _ h0
  · exact handleHostProxy_noPayload hlog env req _ h0

/-- `GET /gh/user` with a body, approved: one audit row, without the body. -/
theorem gh_body_not_logged :
    let req := { ghRequest "/gh/user" with body := [104, 105] }
    ghConfig.logPayload = false ∧ (serve ghConfig false okEnv req).audits.length = 1 ∧
      ∀ e ∈ (serve ghConfig false okEnv req).audits, e.requestBody = none ∧ e.responseBody = none :=
  ⟨rfl, rfl, no_payload_logged rfl false okEnv _⟩

end ClawGuard.Proxy
