import StorageGauges.Health.Report

/-!
# The Health Registry

Every component reports its own status here. A report that repeats a status
changes the message and nothing else, so `since` is the time at which the
status began; registering a component begins a new one in any case.

The exporter is ready once the first scrape has been dispatched and no
component is unhealthy.

## Main definitions

* `Health.Registry`: What the components have reported.
* `Health.Registry.register`, `Health.Registry.update`: A component reports.
* `Health.Statement`, `Health.Registry.hear`: All that can be reported.
* `Health.Registry.report`: The state of all components.
* `Health.Registry.readiness`: Whether the exporter is ready.

## Theorems

* `Health.Registry.find?_update`: What is known of a component after a report.
-/

namespace StorageGauges

namespace Health

/-- The components of the exporter. -/
def nodeTracker : String := "node_tracker"

/-- The component that keeps the pod profiles. -/
def podCache : String := "pod_cache"

/-- The component that scrapes. -/
def scheduler : String := "scheduler"

/-- The component that sweeps. -/
def garbageCollector : String := "garbage_collector"

/-- The components that are registered at the start. -/
def components : List String :=
  [nodeTracker, podCache, scheduler, garbageCollector]

/-- What the components have reported, and whether the first scrape has been
    dispatched. -/
structure Registry where
  components : NameMap Component
  firstScrape : Bool
deriving DecidableEq, Repr, Inhabited

/-- What can be reported: that a component begins, how it is now, how it was at
    some time, or that the first scrape has been dispatched. -/
inductive Statement
  | registered (name : String)
  | healthy (name : String)
  | degraded (name message : String)
  | unhealthy (name message : String)
  | was (name : String) (component : Component)
  | firstScrape
deriving DecidableEq, Repr

namespace Registry

/-- Nobody has reported. -/
def empty : Registry :=
  { components := [], firstScrape := false }

/-- A component begins healthy. -/
def register (r : Registry) (now : Int) (name : String) : Registry :=
  { r with
    components :=
      r.components.insert name { status := .healthy, message := none, since := now } }

/-- The registry in which the named components begin healthy. -/
def withComponents (now : Int) (names : List String) : Registry :=
  names.foldl (fun r name => r.register now name) empty

/-- What is known of a component after it reports. -/
def merge (known : Option Component) (reported : Component) : Component :=
  match known with
  | some c =>
    if c.status = reported.status then { c with message := reported.message } else reported
  | none => reported

/-- A component reports. -/
def update (r : Registry) (name : String) (c : Component) : Registry :=
  { r with components := r.components.insert name (merge (r.components.find? name) c) }

/-- A component is healthy. -/
def setHealthy (r : Registry) (now : Int) (name : String) : Registry :=
  r.update name { status := .healthy, message := none, since := now }

/-- A component is degraded. -/
def setDegraded (r : Registry) (now : Int) (name message : String) : Registry :=
  r.update name { status := .degraded, message := some message, since := now }

/-- A component is unhealthy. -/
def setUnhealthy (r : Registry) (now : Int) (name message : String) : Registry :=
  r.update name { status := .unhealthy, message := some message, since := now }

/-- The first scrape has been dispatched. -/
def markReady (r : Registry) : Registry :=
  { r with firstScrape := true }

/-- Something is reported. -/
def hear (r : Registry) (now : Int) : Statement → Registry
  | .registered name => r.register now name
  | .healthy name => r.setHealthy now name
  | .degraded name message => r.setDegraded now name message
  | .unhealthy name message => r.setUnhealthy now name message
  | .was name component => r.update name component
  | .firstScrape => r.markReady

/-- The state of all components. -/
def report (r : Registry) : Report :=
  { status := worst r.components, components := r.components }

/-- The names of the unhealthy components in order. -/
def unhealthy (r : Registry) : List String :=
  NameMap.names (r.components.filter fun c => c.2.status = .unhealthy)

/-- Whether the exporter is ready. -/
def readiness (r : Registry) : Readiness :=
  if !r.firstScrape then
    { ready := false, reason := some "First scrape not yet dispatched" }
  else if r.unhealthy.isEmpty then { ready := true, reason := none }
  else
    { ready := false
      reason := some ("Unhealthy components: " ++ String.intercalate ", " r.unhealthy) }

theorem find?_update (r : Registry) (name other : String) (c : Component) :
    (r.update name c).components.find? other
      = if other = name then some (merge (r.components.find? name) c)
        else r.components.find? other :=
  NameMap.find?_insert r.components name other _

end Registry

end Health

end StorageGauges
