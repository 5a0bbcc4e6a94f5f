import ClawGuard.Proxy.Handler
import ClawGuard.Approval.Grants

namespace ClawGuard.Audit

open Approval

/-- A row of `requests`: the entry `logRequest` inserts and its `timestamp`, the instant whose
`toISOString()` text the row stores. Texts of that one format compare as their instants, so
`timestamp >= ?` is read on the instants. -/
structure RequestRow where
  timestamp : Nat
  entry : Proxy.AuditEntry
  deriving DecidableEq, Repr

/-- `logRequest(entry)`: the table is in `id` order. -/
def logRequest (rows : List RequestRow) (timestamp : Nat) (entry : Proxy.AuditEntry) :
    List RequestRow :=
  rows ++ [⟨timestamp, entry⟩]

/-- `LIMIT ?`: SQLite reads a negative limit as no limit. -/
def limitRows {α : Type} (limit : Int) (rows : List α) : List α :=
  if limit < 0 then rows else rows.take limit.toNat

/-- `getRecentRequests(limit)`: `ORDER BY id DESC LIMIT ?`. -/
def getRecentRequests (rows : List RequestRow) (limit : Int) : List RequestRow :=
  limitRows limit rows.reverse

/-- `getRecentApprovals(limit)`: `SELECT * FROM approvals ORDER BY id DESC LIMIT ?`. -/
def getRecentApprovals (rows : List Row) (limit : Int) : List Row := limitRows limit rows.reverse

/-- `WHERE timestamp >= ?`. -/
def since (start : Nat) (rows : List RequestRow) : List RequestRow :=
  rows.filter fun r => start ≤ r.timestamp

/-- One row into a `GROUP BY` aggregate with `COUNT(*)`: its group's count goes up by one, or a
new group starts. -/
def bump {α : Type} [DecidableEq α] (k : α) : List (α × Nat) → List (α × Nat)
  | [] => [(k, 1)]
  | (k', n) :: rest => if k' = k then (k', n + 1) :: rest else (k', n) :: bump k rest

/-- `GROUP BY key` with `COUNT(*)`, the groups in order of first appearance. -/
def groupCount {α : Type} [DecidableEq α] (keys : List α) : List (α × Nat) :=
  keys.foldl (fun acc k => bump k acc) []

/-- `ORDER BY count DESC`; the order of equal counts, which SQLite leaves open, is taken as that
of first appearance. -/
def byCountDesc {α : Type} (groups : List (α × Nat)) : List (α × Nat) :=
  groups.mergeSort fun a b => b.2 ≤ a.2

def getRequestCountByService (rows : List RequestRow) (start : Nat) : List (String × Nat) :=
  byCountDesc (groupCount ((since start rows).map (·.entry.service)))

/-- `CAST(strftime('%H', timestamp) AS INTEGER)`: the UTC hour of the instant. -/
def hourOf (timestamp : Nat) : Nat := timestamp / 3600000 % 24

/-- `getRequestsByHour`: `GROUP BY hour ORDER BY hour`. -/
def getRequestsByHour (rows : List RequestRow) (start : Nat) : List (Nat × Nat) :=
  (groupCount ((since start rows).map (hourOf ·.timestamp))).mergeSort fun a b => a.1 ≤ b.1

structure ApprovalStats where
  approved : Nat
  denied : Nat
  timeout : Nat
  deriving DecidableEq, Repr

/-- `getApprovalStats`: the two `SUM(CASE …)` columns over the stored `approved ? 1 : 0`, with
`|| 0` for the `NULL` of an empty window. -/
def getApprovalStats (rows : List RequestRow) (start : Nat) : Nat × Nat :=
  ((since start rows).countP (·.entry.approved), (since start rows).countP (!·.entry.approved))

def getMethodBreakdown (rows : List RequestRow) (start : Nat) : List (String × Nat) :=
  byCountDesc (groupCount ((since start rows).map (·.entry.method)))

def getTotalRequests (rows : List RequestRow) (start : Nat) : Nat := (since start rows).length

structure DashboardStats where
  totalRequestsToday : Nat
  totalRequestsWeek : Nat
  activeApprovals : Nat
  configuredServices : Nat
  requestsByService : List (String × Nat)
  requestsByHour : List (Nat × Nat)
  approvalStats : ApprovalStats
  methodBreakdown : List (String × Nat)
  deriving DecidableEq, Repr

/-- `getDashboardStats` at `now`; `todayStart` is the instant of the local midnight that opens
the day of `now`. -/
def getDashboardStats (rows : List RequestRow) (now todayStart : Nat)
    (activeApprovals configuredServices : Nat) : DashboardStats :=
  let weekStart := now - 7 * 24 * 60 * 60 * 1000
  let (approved, denied) := getApprovalStats rows weekStart
  { totalRequestsToday := getTotalRequests rows todayStart
    totalRequestsWeek := getTotalRequests rows weekStart
    activeApprovals
    configuredServices
    requestsByService := getRequestCountByService rows weekStart
    requestsByHour := getRequestsByHour rows weekStart
    approvalStats := ⟨approved, denied, 0⟩
    methodBreakdown := getMethodBreakdown rows weekStart }

end ClawGuard.Audit
