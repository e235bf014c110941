import OrderDesk.Json.Basic
import OrderDesk.Timestamp.Text

/-!
# Health

A component is healthy, degraded or unhealthy, the last two for a reason.  Of two states the worse
one counts, and of two equally bad ones the first (`HealthStatus.worst`).
-/

namespace OrderDesk

/-- How a component is doing. -/
inductive HealthStatus where
  | healthy
  | degraded (reason : String)
  | unhealthy (reason : String)
deriving DecidableEq

namespace HealthStatus

/-- The name of the state. -/
def label : HealthStatus → String
  | .healthy => "healthy"
  | .degraded _ => "degraded"
  | .unhealthy _ => "unhealthy"

/-- Why the component is not healthy. -/
def reason? : HealthStatus → Option String
  | .healthy => none
  | .degraded reason => some reason
  | .unhealthy reason => some reason

/-- How bad the state is. -/
def rank : HealthStatus → Nat
  | .healthy => 0
  | .degraded _ => 1
  | .unhealthy _ => 2

/-- The worse of two states, the first one if they are equally bad. -/
def worst (a b : HealthStatus) : HealthStatus := if b.rank ≤ a.rank then a else b

theorem rank_worst (a b : HealthStatus) : (a.worst b).rank = max a.rank b.rank := by
  unfold worst
  split <;> omega

end HealthStatus

/-- How a component was doing when it was last looked at. -/
structure ComponentHealth where
  name : String
  status : HealthStatus
  lastCheck : Timestamp
  details : Option String

/-- The report on a component. -/
def ComponentHealth.toJson (h : ComponentHealth) : Json :=
  .obj ([("name", .str h.name), ("status", .str h.status.label)] ++
    (match h.status.reason? with
      | some reason => [("reason", .str reason)]
      | none => []) ++
    (match h.details with
      | some details => [("details", .str details)]
      | none => []) ++
    [("lastCheck", .str h.lastCheck.text)])

end OrderDesk
