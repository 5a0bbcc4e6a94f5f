import ClawGuard.Js

namespace ClawGuard.Approval

/-- `Approval`: a grant held in `activeApprovals`; times are milliseconds. -/
structure Grant where
  service : String
  approvedAt : Nat
  expiresAt : Nat
  approvedBy : String
  deriving DecidableEq, Repr

/-- A row of the `approvals` table. The list is in `id` order, which is insertion order
(`id INTEGER PRIMARY KEY AUTOINCREMENT`). -/
structure Row where
  timestamp : Nat
  service : String
  approvedBy : String
  ttlSeconds : Nat
  expiresAt : Nat
  revoked : Bool := false
  deriving DecidableEq, Repr

/-- The `Approval` that `getActiveApprovals` builds from a row. -/
def Row.toGrant (r : Row) : Grant := ⟨r.service, r.timestamp, r.expiresAt, r.approvedBy⟩

@[simp] theorem Row.toGrant_service (r : Row) : r.toGrant.service = r.service := rfl

@[simp] theorem Row.toGrant_expiresAt (r : Row) : r.toGrant.expiresAt = r.expiresAt := rfl

/-- What the `Promise.race` of `checkApproval` settles with. -/
structure Decision where
  approved : Bool
  ttlSeconds : Nat
  approvedBy : String
  deriving DecidableEq, Repr

/-- The approval state: the manager's map, the table, and the services whose `checkApproval`
awaits its race. -/
structure Store where
  activeApprovals : Js.Map Grant := .empty
  approvals : List Row := []
  waiting : List String := []

/-- `hasActiveApproval(service)` at `now`: the answer, and the map after its lazy expiry. -/
def hasActiveApproval (m : Js.Map Grant) (now : Nat) (service : String) : Bool × Js.Map Grant :=
  match m.get service with
  | none => (false, m)
  | some approval => if now > approval.expiresAt then (false, m.delete service) else (true, m)

/-- `checkApproval` up to its race, given `getAction`'s verdict: `some true` when it returns at
once, `none` when it waits on a prompt. -/
def checkApproval (st : Store) (now : Nat) (service : String) (action : Option String) :
    Option Bool × Store :=
  if action = some "auto_approve" then (some true, st)
  else
    match hasActiveApproval st.activeApprovals now service with
    | (true, m) => (some true, { st with activeApprovals := m })
    | (false, m) => (none, { st with activeApprovals := m, waiting := st.waiting ++ [service] })

/-- `logApproval`: one clock reading for the timestamp and the expiry. -/
def logApproval (rows : List Row) (now : Nat) (service approvedBy : String) (ttlSeconds : Nat) :
    List Row :=
  rows ++ [{ timestamp := now, service := service, approvedBy := approvedBy,
             ttlSeconds := ttlSeconds, expiresAt := now + ttlSeconds * 1000 }]

/-- The rest of the `i`-th waiting `checkApproval` once its race settles at `now` with `d`. -/
def settle (st : Store) (now i : Nat) (d : Decision) : Bool × Store :=
  match st.waiting.get? i with
  | none => (false, st)
  | some service =>
    if d.approved then
      (true, { activeApprovals := st.activeApprovals.set service
                 ⟨service, now, now + d.ttlSeconds * 1000, d.approvedBy⟩
               approvals := logApproval st.approvals now service d.approvedBy d.ttlSeconds
               waiting := st.waiting.eraseIdx i })
    else (false, { st with waiting := st.waiting.eraseIdx i })

/-- The row update of `revokeApprovalInDb`: `SET revoked = 1 WHERE service = ? AND revoked = 0`. -/
def revokeRow (service : String) (r : Row) : Row :=
  if r.service = service ∧ r.revoked = false then { r with revoked := true } else r

def revokeApprovalInDb (rows : List Row) (service : String) : List Row := rows.map (revokeRow service)

def revokeApproval (st : Store) (service : String) : Bool × Store :=
  if (st.activeApprovals.get service).isSome then
    (true, { st with activeApprovals := st.activeApprovals.delete service
                     approvals := revokeApprovalInDb st.approvals service })
  else (false, st)

def revokeAll (st : Store) : Nat × Store :=
  (st.activeApprovals.keys.length,
    { st with activeApprovals := .empty
              approvals := st.activeApprovals.keys.foldl revokeApprovalInDb st.approvals })

/-- `getActiveCount` at `now`, after deleting the expired grants. -/
def getActiveCount (st : Store) (now : Nat) : Nat × Store :=
  let m := st.activeApprovals.filter fun _ approval => !(now > approval.expiresAt)
  (m.keys.length, { st with activeApprovals := m })

/-- An entry of `getStatus`. -/
structure StatusEntry where
  /-- The instant that `new Date(approval.expiresAt).toISOString()` prints. -/
  expiresAt : Nat
  approvedBy : String
  /-- `Math.round((approval.expiresAt - now) / 1000 / 60)`, of a positive difference. -/
  remainingMinutes : Nat
  deriving DecidableEq, Repr

/-- The entry `getStatus` writes for `approval` at `now`. -/
def statusEntry (now : Nat) (approval : Grant) : StatusEntry :=
  ⟨approval.expiresAt, approval.approvedBy, (approval.expiresAt - now + 30000) / 60000⟩

/-- One pass of the `for … of` loop of `getStatus` at `now`. The object is only sent as JSON,
which reads no prototype, so the properties of one installed under `__proto__` are left out. -/
def statusStep (now : Nat) (status : Js.Obj StatusEntry) : String × Grant → Js.Obj StatusEntry
  | (service, approval) =>
    if now < approval.expiresAt then status.set service (statusEntry now approval) [] else status

/-- `getStatus` at `now`: a plain object with an entry per grant that has not expired. -/
def getStatus (st : Store) (now : Nat) : Js.Obj StatusEntry :=
  st.activeApprovals.entries.foldl (statusStep now) .empty

/-- The newest-first loop of `getActiveApprovals`: the first row of each service wins. -/
def latestPerService (seen : List String) : List Row → List Grant
  | [] => []
  | r :: rest =>
    if r.service ∈ seen then latestPerService seen rest
    else r.toGrant :: latestPerService (r.service :: seen) rest

/-- `getActiveApprovals` at `now`: the table after its `DELETE`, and the approvals it returns
(`ORDER BY id DESC` is the reversed table). -/
def getActiveApprovals (rows : List Row) (now : Nat) : List Row × List Grant :=
  let kept := rows.filter fun r => !(r.expiresAt ≤ now)
  (kept, latestPerService [] (kept.filter fun r => now < r.expiresAt ∧ r.revoked = false).reverse)

def restoreApprovals (saved : List Grant) : Js.Map Grant :=
  saved.foldl (fun m approval => m.set approval.service approval) .empty

/-- A restart at `now`: a new `ApprovalManager` restores from the table; pending requests die
with the process. -/
def restart (st : Store) (now : Nat) : Store :=
  let (rows, saved) := getActiveApprovals st.approvals now
  { activeApprovals := restoreApprovals saved, approvals := rows }

inductive Event
  /-- `checkApproval(service, …)` at `now` with `getAction`'s verdict `action`. -/
  | check (now : Nat) (service : String) (action : Option String)
  /-- The race of the `i`-th waiting `checkApproval` settles at `now`. -/
  | settle (now i : Nat) (d : Decision)
  | revoke (service : String)
  | revokeAll
  | activeCount (now : Nat)
  | restart (now : Nat)

def step (st : Store) : Event → Store
  | .check now service action => (checkApproval st now service action).2
  | .settle now i d => (settle st now i d).2
  | .revoke service => (revokeApproval st service).2
  | .revokeAll => (revokeAll st).2
  | .activeCount now => (getActiveCount st now).2
  | .restart now => restart st now

def run (st : Store) (events : List Event) : Store := events.foldl step st

/-- The newest row of `service`. -/
def newestRow (rows : List Row) (service : String) : Option Row :=
  rows.reverse.find? (·.service = service)

/-- No unrevoked row of a service is older than a revoked one. -/
def RevokedFirst (rows : List Row) : Prop :=
  rows.Pairwise fun x y => x.service = y.service → x.revoked = false → y.revoked = false

/-- What every reachable store satisfies. -/
structure Inv (st : Store) : Prop where
  revokedFirst : RevokedFirst st.approvals
  /-- Each grant in the map is that of its service's newest row, which is unrevoked. -/
  mapped : ∀ s g, st.activeApprovals.get s = some g →
    ∃ r, newestRow st.approvals s = some r ∧ r.revoked = false ∧ r.toGrant = g

theorem Inv.empty : Inv {} := ⟨List.Pairwise.nil, fun _ _ h => by simp at h⟩

/-- A step that keeps the table and only drops grants keeps the invariant. -/
theorem Inv.submap {st st' : Store} (h : Inv st) (hrows : st'.approvals = st.approvals)
    (hm : ∀ s g, st'.activeApprovals.get s = some g → st.activeApprovals.get s = some g) :
    Inv st' :=
  ⟨hrows ▸ h.revokedFirst, fun s g hg => hrows ▸ h.mapped s g (hm s g hg)⟩

theorem hasActiveApproval_get {m : Js.Map Grant} {now : Nat} {service s : String} {g : Grant}
    (h : (hasActiveApproval m now service).2.get s = some g) : m.get s = some g := by
  unfold hasActiveApproval at h
  split at h
  · exact h
  · split at h
    · rw [Js.Map.get_delete] at h
      split at h
      · cases h
      · exact h
    · exact h

theorem Inv.checkApproval {st : Store} (h : Inv st) (now : Nat) (service : String)
    (action : Option String) : Inv (checkApproval st now service action).2 := by
  unfold Approval.checkApproval
  split
  · exact h
  · rcases hA : hasActiveApproval st.activeApprovals now service with ⟨_ | _, m⟩ <;>
    exact h.submap rfl fun s g hg => hasActiveApproval_get (by rw [hA]; exact hg)

theorem newestRow_logApproval_self (rows : List Row) (now : Nat) (service approvedBy : String)
    (ttlSeconds : Nat) :
    newestRow (logApproval rows now service approvedBy ttlSeconds) service =
      some ⟨now, service, approvedBy, ttlSeconds, now + ttlSeconds * 1000, false⟩ := by
  simp [newestRow, logApproval]

theorem newestRow_logApproval_ne (rows : List Row) (now : Nat) {service s : String}
    (approvedBy : String) (ttlSeconds : Nat) (h : s ≠ service) :
    newestRow (logApproval rows now service approvedBy ttlSeconds) s = newestRow rows s := by
  simp [newestRow, logApproval, Ne.symm h]

theorem RevokedFirst.logApproval {rows : List Row} (h : RevokedFirst rows) (now : Nat)
    (service approvedBy : String) (ttlSeconds : Nat) :
    RevokedFirst (logApproval rows now service approvedBy ttlSeconds) :=
  List.pairwise_append.mpr ⟨h, List.pairwise_singleton _ _, fun _ _ y hy _ _ => by
    rw [List.mem_singleton.mp hy]⟩

theorem Inv.settle {st : Store} (h : Inv st) (now i : Nat) (d : Decision) :
    Inv (settle st now i d).2 := by
  unfold Approval.settle
  split
  · exact h
  · rename_i service _
    split
    · refine ⟨h.revokedFirst.logApproval _ _ _ _, fun s g hg => ?_⟩
      by_cases hs : s = service
      · subst hs
        rw [Js.Map.get_set_self] at hg
        exact ⟨_, newestRow_logApproval_self _ _ _ _ _, rfl, Option.some.inj hg⟩
      · rw [Js.Map.get_set_ne _ _ hs] at hg
        rw [newestRow_logApproval_ne _ _ _ _ hs]
        exact h.mapped s g hg
    · exact h.submap rfl fun _ _ => id

@[simp] theorem revokeRow_service (service : String) (r : Row) :
    (revokeRow service r).service = r.service := by
  unfold revokeRow; split <;> rfl

theorem revokeRow_of_ne {service : String} {r : Row} (h : r.service ≠ service) :
    revokeRow service r = r :=
  if_neg fun h' => h h'.1

theorem revokeRow_revoked {service : String} {r : Row} :
    (revokeRow service r).revoked = false ↔ r.service ≠ service ∧ r.revoked = false := by
  unfold revokeRow
  by_cases hs : r.service = service <;> by_cases hr : r.revoked = false <;> simp [hs, hr]

theorem RevokedFirst.revokeApprovalInDb {rows : List Row} (h : RevokedFirst rows)
    (service : String) : RevokedFirst (revokeApprovalInDb rows service) := by
  refine List.pairwise_map.mpr (h.imp fun hxy hs hx => ?_)
  rw [revokeRow_service, revokeRow_service] at hs
  obtain ⟨hxs, hxr⟩ := revokeRow_revoked.mp hx
  rw [revokeRow_of_ne (hs ▸ hxs)]
  exact hxy hs hxr

theorem newestRow_revokeApprovalInDb (rows : List Row) {service s : String} (h : s ≠ service) :
    newestRow (revokeApprovalInDb rows service) s = newestRow rows s := by
  unfold newestRow revokeApprovalInDb
  rw [← List.map_reverse, List.find?_map]
  have hp : ((fun r : Row => decide (r.service = s)) ∘ revokeRow service) =
      fun r => decide (r.service = s) := by
    funext r; simp
  rw [hp]
  cases hf : rows.reverse.find? (·.service = s) with
  | none => rfl
  | some r =>
    have hr : r.service = s := by simpa using List.find?_some hf
    rw [Option.map_some', revokeRow_of_ne (hr ▸ h)]

theorem Inv.revokeApproval {st : Store} (h : Inv st) (service : String) :
    Inv (revokeApproval st service).2 := by
  unfold Approval.revokeApproval
  split
  · refine ⟨h.revokedFirst.revokeApprovalInDb service, fun s g hg => ?_⟩
    dsimp only at hg ⊢
    rw [Js.Map.get_delete] at hg
    split at hg
    · cases hg
    · rw [newestRow_revokeApprovalInDb _ ‹_›]
      exact h.mapped s g hg
  · exact h

theorem RevokedFirst.foldl_revoke (services : List String) {rows : List Row}
    (h : RevokedFirst rows) : RevokedFirst (services.foldl Approval.revokeApprovalInDb rows) := by
  induction services generalizing rows with
  | nil => exact h
  | cons service rest ih => exact ih (h.revokeApprovalInDb service)

theorem Inv.revokeAll {st : Store} (h : Inv st) : Inv (revokeAll st).2 :=
  ⟨h.revokedFirst.foldl_revoke _, fun _ _ hg => by simp [Approval.revokeAll] at hg⟩

theorem Inv.getActiveCount {st : Store} (h : Inv st) (now : Nat) :
    Inv (getActiveCount st now).2 :=
  h.submap rfl fun _ _ => Js.Map.get_of_get_filter

theorem find?_filter_of_find? {α : Type} {l : List α} {p q : α → Bool} {a : α}
    (h : l.find? p = some a) (hq : q a = true) : (l.filter q).find? p = some a := by
  induction l with
  | nil => cases h
  | cons x rest ih =>
    by_cases hp : p x
    · rw [List.find?_cons_of_pos _ hp] at h
      cases h
      rw [List.filter_cons_of_pos hq, List.find?_cons_of_pos _ hp]
    · rw [List.find?_cons_of_neg _ hp] at h
      rw [List.filter_cons]
      split
      · rw [List.find?_cons_of_neg _ hp, ih h]
      · exact ih h

/-- Newest first, the first unrevoked row of a service is its first row, when no revoked row
is newer than an unrevoked one of its service. -/
theorem find?_of_find?_unrevoked {l : List Row} {q : Row → Bool} {s : String} {r : Row}
    (hl : l.Pairwise fun x y => y.service = x.service → y.revoked = false → x.revoked = false)
    (hq : ∀ x ∈ l, q x = true ↔ x.revoked = false)
    (h : (l.filter q).find? (·.service = s) = some r) : l.find? (·.service = s) = some r := by
  induction l with
  | nil => cases h
  | cons x rest ih =>
    rw [List.pairwise_cons] at hl
    have hq' : ∀ y ∈ rest, q y = true ↔ y.revoked = false := fun y hy => hq y (.tail x hy)
    by_cases hx : x.service = s
    · rw [List.find?_cons_of_pos _ (by simpa using hx)]
      by_cases hqx : q x = true
      · rwa [List.filter_cons_of_pos hqx, List.find?_cons_of_pos _ (by simpa using hx)] at h
      · rw [List.filter_cons_of_neg hqx] at h
        have hr := List.mem_filter.mp (List.mem_of_find?_eq_some h)
        have hrs : r.service = s := by simpa using List.find?_some h
        exact absurd ((hq x (.head rest)).mpr
          (hl.1 r hr.1 (hrs.trans hx.symm) ((hq' r hr.1).mp hr.2))) hqx
    · rw [List.find?_cons_of_neg _ (by simpa using hx)]
      refine ih hl.2 hq' ?_
      rw [List.filter_cons] at h
      split at h
      · rwa [List.find?_cons_of_neg _ (by simpa using hx)] at h
      · exact h

theorem get_foldl_latestPerService (seen : List String) (l : List Row) (m : Js.Map Grant)
    (s : String) :
    ((latestPerService seen l).foldl (fun m a => m.set a.service a) m).get s =
      if s ∈ seen then m.get s else ((l.find? (·.service = s)).map Row.toGrant).or (m.get s) := by
  induction l generalizing seen m with
  | nil => simp [latestPerService]
  | cons r rest ih =>
    unfold latestPerService
    by_cases hr : r.service ∈ seen
    · rw [if_pos hr, ih]
      by_cases hs : s ∈ seen
      · simp [hs]
      · simp [hs, show r.service ≠ s from fun e => hs (e ▸ hr)]
    · rw [if_neg hr, List.foldl_cons, ih]
      by_cases hrs : r.service = s
      · subst hrs
        simp [hr, Row.toGrant]
      · simp [Ne.symm hrs, Js.Map.get_set_ne _ _ (Ne.symm hrs), hrs]

/-- The map a restart restores: the grant of each service's first row, newest first. -/
theorem restoreApprovals_latest (l : List Row) (s : String) :
    (restoreApprovals (latestPerService [] l)).get s = (l.find? (·.service = s)).map Row.toGrant := by
  simp [restoreApprovals, get_foldl_latestPerService, Option.or_none]

theorem Inv.restart {st : Store} (h : Inv st) (now : Nat) : Inv (restart st now) := by
  have hkept : RevokedFirst (st.approvals.filter fun r => !(r.expiresAt ≤ now)) :=
    h.revokedFirst.sublist (List.filter_sublist _)
  refine ⟨hkept, fun s g hg => ?_⟩
  simp only [Approval.restart, getActiveApprovals, restoreApprovals_latest, newestRow,
    ← List.filter_reverse] at hg ⊢
  obtain ⟨r, hr, rfl⟩ := Option.map_eq_some'.mp hg
  have hmem := List.mem_filter.mp (List.mem_of_find?_eq_some hr)
  refine ⟨r, find?_of_find?_unrevoked ?_ (fun x hx => ?_) hr, (of_decide_eq_true hmem.2).2, rfl⟩
  · rw [List.filter_reverse]
    exact List.pairwise_reverse.mpr hkept
  · have hx := (List.mem_filter.mp hx).2
    simp only [Bool.not_eq_true', decide_eq_false_iff_not, Nat.not_le] at hx
    simp [hx]

theorem Inv.step {st : Store} (h : Inv st) : ∀ e, Inv (step st e)
  | .check now service action => h.checkApproval now service action
  | .settle now i d => h.settle now i d
  | .revoke service => h.revokeApproval service
  | .revokeAll => h.revokeAll
  | .activeCount now => h.getActiveCount now
  | .restart now => h.restart now

theorem Inv.run {st : Store} (h : Inv st) (events : List Event) : Inv (run st events) := by
  induction events generalizing st with
  | nil => exact h
  | cons e rest ih => exact ih (h.step e)

/-- Over every run of checks, settled races, revocations, counts and restarts, the manager's map
refines the table: each grant it holds is that of its service's newest row, which is unrevoked. -/
theorem held_grant_is_newest_row (events : List Event) {service : String} {g : Grant}
    (hg : (run {} events).activeApprovals.get service = some g) :
    ∃ r, newestRow (run {} events).approvals service = some r ∧ r.revoked = false ∧ r.toGrant = g :=
  (Inv.empty.run events).mapped service g hg

theorem hour_grant_is_newest_row :
    (run {} [.check 0 "gh" none, .settle 1000 0 ⟨true, 3600, "ops"⟩]).activeApprovals.get "gh" =
      some ⟨"gh", 1000, 3601000, "ops"⟩ ∧
    ∃ r, newestRow (run {} [.check 0 "gh" none, .settle 1000 0 ⟨true, 3600, "ops"⟩]).approvals "gh" =
      some r ∧ r.revoked = false ∧ r.toGrant = ⟨"gh", 1000, 3601000, "ops"⟩ :=
  ⟨rfl, held_grant_is_newest_row _ rfl⟩

/-- Every grant of the running map that is unexpired at `now` is restored from the table at
`now`, unchanged. -/
theorem live_grant_restored (events : List Event) (now : Nat) {service : String} {g : Grant}
    (hg : (run {} events).activeApprovals.get service = some g) (hlive : now < g.expiresAt) :
    (restoreApprovals (getActiveApprovals (run {} events).approvals now).2).get service =
      some g := by
  obtain ⟨r, hr, hrev, rfl⟩ := (Inv.empty.run events).mapped service g hg
  replace hlive : now < r.expiresAt := hlive
  simp only [getActiveApprovals, restoreApprovals_latest, ← List.filter_reverse]
  rw [find?_filter_of_find? (find?_filter_of_find? hr (by simpa using hlive)) (by simp [hrev, hlive])]
  rfl

/-- One prompt for `gh`, approved for an hour. -/
theorem hour_grant_restored :
    (run {} [.check 0 "gh" none, .settle 1000 0 ⟨true, 3600, "ops"⟩]).activeApprovals.get "gh" =
      some ⟨"gh", 1000, 3601000, "ops"⟩ ∧ 2000 < 3601000 ∧
    (restoreApprovals (getActiveApprovals
      (run {} [.check 0 "gh" none, .settle 1000 0 ⟨true, 3600, "ops"⟩]).approvals 2000).2).get "gh" =
      some ⟨"gh", 1000, 3601000, "ops"⟩ :=
  ⟨rfl, by decide, live_grant_restored _ 2000 rfl (by decide)⟩

/-- Two `checkApproval` calls for `gh` wait together; the first prompt is approved for a day,
the second for one second. -/
def supersedingRun : List Event :=
  [.check 0 "gh" none, .check 0 "gh" none,
    .settle 1000 0 ⟨true, 86400, "ops"⟩, .settle 2000 0 ⟨true, 1, "ops"⟩]

/-- The day-long grant, superseded in the map, comes back from the table. -/
theorem superseded_grant_resurrected :
    (hasActiveApproval (run {} supersedingRun).activeApprovals 5000 "gh").1 = false ∧
    (restoreApprovals (getActiveApprovals (run {} supersedingRun).approvals 5000).2).get "gh" =
      some ⟨"gh", 1000, 86401000, "ops"⟩ :=
  ⟨rfl, rfl⟩

/-- The manager holds no grant for `service`, and every row of `service` in the table is
revoked. -/
def Cleared (st : Store) (service : String) : Prop :=
  st.activeApprovals.get service = none ∧ ∀ r ∈ st.approvals, r.service = service → r.revoked = true

theorem revokeApprovalInDb_revoked (rows : List Row) {service s : String}
    (h : s = service ∨ ∀ r ∈ rows, r.service = s → r.revoked = true) :
    ∀ r ∈ revokeApprovalInDb rows service, r.service = s → r.revoked = true := by
  intro r hr hs
  obtain ⟨r₀, hr₀, rfl⟩ := List.mem_map.mp hr
  rw [revokeRow_service] at hs
  cases hrev : (revokeRow service r₀).revoked
  · obtain ⟨hne, -⟩ := revokeRow_revoked.mp hrev
    rcases h with rfl | h
    · exact absurd hs hne
    · rw [revokeRow_of_ne hne, h r₀ hr₀ hs] at hrev; cases hrev
  · rfl

theorem foldl_revoke_revoked (services : List String) {rows : List Row} {s : String}
    (h : s ∈ services ∨ ∀ r ∈ rows, r.service = s → r.revoked = true) :
    ∀ r ∈ services.foldl revokeApprovalInDb rows, r.service = s → r.revoked = true := by
  induction services generalizing rows with
  | nil => simpa using h
  | cons service rest ih =>
    refine ih ?_
    rcases h with h | h
    · rcases List.mem_cons.mp h with rfl | h
      · exact .inr (revokeApprovalInDb_revoked rows (.inl rfl))
      · exact .inl h
    · exact .inr (revokeApprovalInDb_revoked rows (.inr h))

theorem revokeApproval_cleared {st : Store} {service : String}
    (h : (st.activeApprovals.get service).isSome) : Cleared (revokeApproval st service).2 service := by
  simp only [revokeApproval, h, if_true]
  exact ⟨by simp, revokeApprovalInDb_revoked _ (.inl rfl)⟩

theorem revokeAll_cleared {st : Store} {service : String}
    (h : (st.activeApprovals.get service).isSome) : Cleared (revokeAll st).2 service := by
  obtain ⟨g, hg⟩ := Option.isSome_iff_exists.mp h
  have hk : service ∈ st.activeApprovals.keys := by
    simp only [Js.Map.keys, List.mem_map]
    exact ⟨(service, g), (Js.Obj.lookup_eq_some_iff st.activeApprovals.nodup).mp hg, rfl⟩
  exact ⟨rfl, foldl_revoke_revoked _ (.inl hk)⟩

/-- A restart restores nothing for a cleared service. -/
theorem Cleared.restart {st : Store} {service : String} (h : Cleared st service) (now : Nat) :
    (restart st now).activeApprovals.get service = none := by
  simp only [Approval.restart, getActiveApprovals, restoreApprovals_latest, Option.map_eq_none',
    List.find?_eq_none, List.mem_reverse, List.mem_filter]
  intro r hr hs
  have hrev := h.2 r hr.1.1 (by simpa using hs)
  simp [hrev] at hr

end ClawGuard.Approval
