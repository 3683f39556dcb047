import StorageGauges.Cluster.Listing
import StorageGauges.Cluster.Node
import StorageGauges.Cluster.Pod
import StorageGauges.Cluster.Watch
import StorageGauges.DeployMode
import StorageGauges.Event
import StorageGauges.Gauge.Store
import StorageGauges.Health.Registry

/-!
# The Exporter

All that the exporter knows: which nodes it scrapes, the profiles of the pods
that run, the gauges, the health of its components, and what it has put on
record. Watches, sweeps and scrapes are functions on this state, one step
each, so that runs in which they alternate are sequences of steps.

## Main definitions

* `Exporter`: The state.
* `Options`: What the settings fix.
* `Exporter.log`: Puts an event on record.
-/

namespace StorageGauges

/-- What the settings fix. `direct` is set when kubelets are scraped without
    the API server between, `caching` when pod profiles are used. -/
structure Options where
  mode : DeployMode
  selfNode : String
  direct : Bool
  readOnlyPort : Nat
  features : Features
  captured : Pod.Captured
  caching : Bool
deriving DecidableEq, Repr

/-- Where nothing else is set. -/
def Options.standard : Options :=
  { mode := .daemonSet
    selfNode := ""
    direct := false
    readOnlyPort := 0
    features := Features.all
    captured := { containerLimits := true, volumes := true }
    caching := true }

/-- All that the exporter knows. -/
structure Exporter where
  targets : NameMap Target
  profiles : NameMap PodProfile
  store : Store
  health : Health.Registry
  records : List Record
deriving Repr, Inhabited

/-- A finished sweep: how many names were listed, and how many entries were
    dropped. -/
structure Swept where
  listed : Nat
  removed : Nat
deriving DecidableEq, Repr, Inhabited

/-- The names without those that came before. -/
def distinct (names : List String) : List String :=
  names.foldl (fun seen n => if seen.contains n then seen else seen ++ [n]) []

namespace Exporter

/-- Nothing is known yet. -/
def initial (health : Health.Registry) : Exporter :=
  { targets := [], profiles := [], store := .empty, health, records := [] }

/-- Puts an event on record. -/
def log (e : Exporter) (component : String) (event : Event) : Exporter :=
  { e with records := e.records ++ [{ component, event }] }

/-- Changes the health of a component. -/
def report (e : Exporter) (change : Health.Registry → Health.Registry) : Exporter :=
  { e with health := change e.health }

end Exporter

end StorageGauges
