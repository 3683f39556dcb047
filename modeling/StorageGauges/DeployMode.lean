import StorageGauges.Json.Record

/-!
# Deployment Modes

An exporter runs on every node and scrapes only that node, or it runs once
and scrapes all of them.

## Main definitions

* `DeployMode`: How the exporter is deployed.
* `DeployMode.ofJson?`: The mode that a document holds.
-/

namespace StorageGauges

/-- How the exporter is deployed. -/
inductive DeployMode
  | daemonSet
  | deployment
deriving DecidableEq, Repr, Inhabited

namespace DeployMode

/-- The name of a mode. -/
def name : DeployMode → String
  | daemonSet => "DaemonSet"
  | deployment => "Deployment"

/-- The mode with a name. -/
def ofName? (s : String) : Option DeployMode :=
  [daemonSet, deployment].find? fun m => m.name = s

/-- Every node of the cluster is scraped. -/
def isClusterWide : DeployMode → Bool
  | daemonSet => false
  | deployment => true

/-- The mode that a document holds. -/
def ofJson? (v : Json) : Option DeployMode :=
  (Json.tag? v).bind ofName?

end DeployMode

end StorageGauges
