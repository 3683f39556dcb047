import StorageGauges.Json.Record
import StorageGauges.NameMap

/-!
# Health Reports

What the probes are told: a status for each component with the time since
when it has had it, the worst of them for the whole exporter, and whether the
exporter is ready.

## Main definitions

* `Health.Status`: Healthy, degraded or unhealthy.
* `Health.Component`: The state of one component.
* `Health.Report`: The state of all components.
* `Health.Readiness`: Whether the exporter is ready, and why not.
* `Health.worst`: The worst status among components.
-/

namespace StorageGauges

namespace Health

/-- How a component is. A degraded one still does its job, with reduced
    guarantees. -/
inductive Status
  | healthy
  | degraded
  | unhealthy
deriving DecidableEq, Repr, Inhabited

namespace Status

/-- How bad a status is. -/
def severity : Status → Nat
  | healthy => 0
  | degraded => 1
  | unhealthy => 2

/-- The name of a status in documents. -/
def name : Status → String
  | healthy => "healthy"
  | degraded => "degraded"
  | unhealthy => "unhealthy"

/-- The status with a name. -/
def ofName? (s : String) : Option Status :=
  [healthy, degraded, unhealthy].find? fun t => t.name = s

/-- The status that a document holds. -/
def ofJson? (v : Json) : Option Status :=
  (Json.tag? v).bind ofName?

/-- The worse of two statuses. -/
def worse (a b : Status) : Status :=
  if a.severity < b.severity then b else a

end Status

/-- The state of a component. `since` is the time, in seconds, at which it
    got its status. -/
structure Component where
  status : Status
  message : Option String
  since : Int
deriving DecidableEq, Repr, Inhabited

namespace Component

/-- A component as a document; there is no message rather than an empty
    one. -/
def toJson (c : Component) : Json :=
  let message :=
    match c.message with
    | some m => [("message", Json.ofText m)]
    | none => []
  Json.ofMembers
    ([("status", Json.ofText c.status.name)] ++ message ++ [("since", Json.ofInt c.since)])

/-- The least and the greatest time. -/
def times : Int × Int := (-9223372036854775808, 9223372036854775807)

/-- The component that a document holds. -/
def ofJson? (v : Json) : Option Component := do
  let fs ← Json.allFields? ["status", "message", "since"] v
  some
    { status := ← fs.need? "status" Status.ofJson?
      message := ← fs.optional? "message" Json.text?
      since := ← fs.need? "since" (Json.integer? times.1 times.2) }

end Component

/-- The worst status among components; healthy when there are none. -/
def worst (components : NameMap Component) : Status :=
  components.foldl (fun s c => s.worse c.2.status) .healthy

/-- The state of all components. -/
structure Report where
  status : Status
  components : NameMap Component
deriving DecidableEq, Repr, Inhabited

namespace Report

/-- A report as a document. -/
def toJson (r : Report) : Json :=
  Json.ofMembers
    [("status", Json.ofText r.status.name),
      ("components", Json.ofMembers (r.components.map fun c => (c.1, c.2.toJson)))]

/-- The report that a document holds. -/
def ofJson? (v : Json) : Option Report := do
  let fs ← Json.allFields? ["status", "components"] v
  let entries ← fs.need? "components" (Json.entries? Component.ofJson?)
  some
    { status := ← fs.need? "status" Status.ofJson?
      components := NameMap.ofEntries entries }

end Report

/-- Whether the exporter is ready, and why not. -/
structure Readiness where
  ready : Bool
  reason : Option String
deriving DecidableEq, Repr, Inhabited

namespace Readiness

/-- Readiness as a document; a ready exporter needs no reason. -/
def toJson (r : Readiness) : Json :=
  let reason :=
    match r.reason with
    | some m => [("reason", Json.ofText m)]
    | none => []
  Json.ofMembers ([("ready", .bool r.ready)] ++ reason)

/-- The readiness that a document holds. -/
def ofJson? (v : Json) : Option Readiness := do
  let fs ← Json.allFields? ["ready", "reason"] v
  some
    { ready := ← fs.need? "ready" Json.bool?
      reason := ← fs.optional? "reason" Json.text? }

end Readiness

end Health

end StorageGauges
