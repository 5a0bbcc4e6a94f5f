import ClawGuard.Approval.Grants

namespace ClawGuard.Approval

theorem hasActiveApproval_fst (m : Js.Map Grant) (now : Nat) (service : String) :
    (hasActiveApproval m now service).1 = (m.get service).any (now ≤ ·.expiresAt) := by
  unfold hasActiveApproval
  split
  · next h => rw [h]; rfl
  · next g h => rw [h, Option.any_some]; split <;> simp <;> omega

/-- `checkApproval` returns without a prompt on `auto_approve` or on a grant whose expiry has
not passed. -/
theorem checkApproval_fst (st : Store) (now : Nat) (service : String) (action : Option String) :
    (checkApproval st now service action).1 =
      if action = some "auto_approve" ∨ (st.activeApprovals.get service).any (now ≤ ·.expiresAt)
      then some true else none := by
  unfold checkApproval
  rw [← hasActiveApproval_fst]
  by_cases ha : action = some "auto_approve"
  · simp [ha]
  · cases hasActiveApproval st.activeApprovals now service with
    | mk b m => cases b <;> simp [ha]

theorem getActiveCount_fst (st : Store) (now : Nat) :
    (getActiveCount st now).1 =
      (st.activeApprovals.entries.filter fun e => now ≤ e.2.expiresAt).length := by
  simp [getActiveCount, Js.Map.keys, Js.Map.filter, ← decide_not]

theorem revokeApproval_fst (st : Store) (service : String) :
    (revokeApproval st service).1 = (st.activeApprovals.get service).isSome := by
  unfold revokeApproval; split <;> simp_all

theorem revokeAll_fst (st : Store) : (revokeAll st).1 = st.activeApprovals.entries.length := by
  simp [revokeAll, Js.Map.keys]

theorem statusStep_lookup (now : Nat) (o : Js.Obj StatusEntry) (k : String) (g : Grant)
    (s : String) :
    (statusStep now o (k, g)).own.lookup s =
      if s = k ∧ s ≠ "__proto__" ∧ now < g.expiresAt then some (statusEntry now g)
      else o.own.lookup s := by
  rw [statusStep]
  by_cases hs : s = k
  · subst hs
    by_cases hp : s = "__proto__" <;> by_cases hl : now < g.expiresAt <;>
      simp [hp, hl, Js.Obj.set_own, Js.Obj.lookup_upsert_self]
  · split <;> simp [hs, Js.Obj.set_own_ne _ _ hs]

theorem lookup_foldl_statusStep (now : Nat) (s : String) :
    ∀ (l : List (String × Grant)) (o : Js.Obj StatusEntry), (l.map Prod.fst).Nodup →
      (l.foldl (statusStep now) o).own.lookup s =
        if s = "__proto__" then o.own.lookup s
        else (((l.lookup s).filter (now < ·.expiresAt)).map (statusEntry now)).or (o.own.lookup s)
  | [], o, _ => by split <;> simp
  | (k, g) :: rest, o, hl => by
    simp only [List.map_cons, List.nodup_cons] at hl
    rw [List.foldl_cons, lookup_foldl_statusStep now s rest _ hl.2, statusStep_lookup]
    by_cases hs : s = k
    · subst hs
      rw [Js.Map.lookup_eq_none hl.1]
      by_cases hp : s = "__proto__" <;> by_cases hlive : now < g.expiresAt <;>
        simp [hp, hlive, List.lookup_cons, Option.filter]
    · simp [hs, Js.Obj.lookup_cons_ne _ _ hs]

/-- `getStatus` lists a grant, with its entry, exactly while `now < expiresAt`; a service named
`__proto__` is never listed, since assigning it replaces the prototype. -/
theorem getStatus_lookup (st : Store) (now : Nat) (service : String) :
    (getStatus st now).own.lookup service =
      if service = "__proto__" then none
      else ((st.activeApprovals.get service).filter (now < ·.expiresAt)).map (statusEntry now) := by
  rw [getStatus, lookup_foldl_statusStep now service _ _ st.activeApprovals.nodup]
  simp [Js.Obj.empty, Js.Map.get]

theorem exists_latestPerService (seen : List String) (l : List Row) (service : String) :
    (∃ g ∈ latestPerService seen l, g.service = service) ↔
      service ∉ seen ∧ ∃ r ∈ l, r.service = service := by
  induction l generalizing seen with
  | nil => simp [latestPerService]
  | cons r rest ih =>
    unfold latestPerService
    by_cases hs : r.service = service
    · subst hs
      split_ifs with hr <;> simp [hr, ih]
    · split_ifs <;> simp [hs, ih, Ne.symm hs]

/-- The grants a restart at `now` restores: one per service that has an unrevoked row expiring
after `now`. -/
theorem getActiveApprovals_services (rows : List Row) (now : Nat) (service : String) :
    (∃ g ∈ (getActiveApprovals rows now).2, g.service = service) ↔
      ∃ r ∈ rows, r.service = service ∧ now < r.expiresAt ∧ r.revoked = false := by
  simp only [getActiveApprovals, exists_latestPerService, List.not_mem_nil, not_false_eq_true,
    true_and, List.mem_reverse, List.mem_filter]
  constructor
  · rintro ⟨r, ⟨⟨hr, -⟩, hq⟩, hs⟩
    simp only [decide_eq_true_eq] at hq
    exact ⟨r, hr, hs, hq⟩
  · rintro ⟨r, hr, hs, hlive, hrev⟩
    exact ⟨r, ⟨⟨hr, by simp; omega⟩, by simp [hlive, hrev]⟩, hs⟩

/-- The views of the manager disagree on every grant the map holds. At its expiry instant
`hasActiveApproval` (so `checkApproval` and `getActiveCount`) still counts it while `getStatus`
drops it and a restart restores only rows expiring later; at every later instant, until something
collects it, `checkApproval` prompts again while `revokeApproval` reports a revocation and
`revokeAll` counts more than `getActiveCount`. -/
theorem views_disagree_at_expiry (st : Store) (service : String) (g : Grant)
    (hg : st.activeApprovals.get service = some g) (hp : service ≠ "__proto__") :
    (hasActiveApproval st.activeApprovals g.expiresAt service).1 = true ∧
    (getStatus st g.expiresAt).own.lookup service = none ∧
    ((∃ g' ∈ (getActiveApprovals st.approvals g.expiresAt).2, g'.service = service) ↔
      ∃ r ∈ st.approvals, r.service = service ∧ g.expiresAt < r.expiresAt ∧ r.revoked = false) ∧
    ∀ now, g.expiresAt < now →
      (checkApproval st now service none).1 = none ∧
      (revokeApproval st service).1 = true ∧ (getActiveCount st now).1 < (revokeAll st).1 := by
  have hmem : (service, g) ∈ st.activeApprovals.entries :=
    (Js.Obj.lookup_eq_some_iff st.activeApprovals.nodup).mp hg
  refine ⟨by simp [hasActiveApproval_fst, hg], by simp [getStatus_lookup, hp, hg],
    getActiveApprovals_services _ _ _, fun now hlate => ⟨?_, by simp [revokeApproval_fst, hg], ?_⟩⟩
  · simp [checkApproval_fst, hg]; omega
  · rw [getActiveCount_fst, revokeAll_fst]
    exact List.length_filter_lt_length_iff_exists.mpr ⟨_, hmem, by simpa using hlate⟩

/-- A grant for `gh` approved at 1000 for four seconds expires at 5000. -/
theorem gh_views_disagree :
    let st := run {} [.check 0 "gh" none, .settle 1000 0 ⟨true, 4, "ops"⟩]
    st.activeApprovals.get "gh" = some ⟨"gh", 1000, 5000, "ops"⟩ ∧ "gh" ≠ "__proto__" ∧
    (hasActiveApproval st.activeApprovals 5000 "gh").1 = true ∧
    (getStatus st 5000).own.lookup "gh" = none ∧
    ((∃ g' ∈ (getActiveApprovals st.approvals 5000).2, g'.service = "gh") ↔
      ∃ r ∈ st.approvals, r.service = "gh" ∧ 5000 < r.expiresAt ∧ r.revoked = false) ∧
    ∀ now, 5000 < now →
      (checkApproval st now "gh" none).1 = none ∧
      (revokeApproval st "gh").1 = true ∧ (getActiveCount st now).1 < (revokeAll st).1 :=
  ⟨rfl, by decide, views_disagree_at_expiry _ "gh" ⟨"gh", 1000, 5000, "ops"⟩ rfl (by decide)⟩

end ClawGuard.Approval
