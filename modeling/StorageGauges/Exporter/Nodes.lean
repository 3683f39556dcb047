import StorageGauges.Exporter.Basic

/-!
# Tracking Nodes

Which nodes are scraped. One exporter for the whole cluster follows the nodes
that are ready: a node is taken in when it is seen ready, stays while it is
not, and goes when it is deleted or absent from a listing. An exporter for one
node has that node and no other.

Deleting a node deletes its series with it, whether it was tracked or not.

A sweep has two steps, the listing and the removal of what it lacks, and
watch events can come between them.

## Main definitions

* `Exporter.applyNode`: A node was added or changed.
* `Exporter.removeNode`: A node is no longer scraped.
* `Exporter.nodeEvent`: A watch reports something.
* `Exporter.seedSelf`: An exporter for one node takes it in.
* `Exporter.removeStaleNodes`: The second step of a sweep.

## Theorems

* `Exporter.find?_targets_applyNode`: What is tracked after a change.
* `Exporter.find?_targets_removeNode`: What is tracked after a removal.
-/

namespace StorageGauges

namespace Exporter

/-- The component that reports on nodes. -/
def nodeLogger : String := Health.nodeTracker

/-- A node was added or changed. -/
def applyNode (o : Options) (e : Exporter) (n : Node) : Exporter :=
  if n.isReady then
    { e with targets := e.targets.insert n.name (n.target o.direct o.readOnlyPort) }
  else e

/-- Some nodes were added or changed. -/
def applyNodes (o : Options) (e : Exporter) (ns : List Node) : Exporter :=
  ns.foldl (applyNode o) e

/-- A node is no longer scraped, and its series go. -/
def removeNode (e : Exporter) (name cause : String) : Exporter :=
  let gone := e.store.evictNode name
  { e with targets := e.targets.erase name, store := gone.store }.log nodeLogger
    (.nodeEvicted name gone.removed cause)

/-- A watch reports something about nodes. -/
def nodeEvent (o : Options) (e : Exporter) : WatchEvent Node → Exporter
  | .applied n => e.applyNode o n
  | .deleted n => e.removeNode n.name Cause.watchDelete.word
  | .restarted ns => e.applyNodes o ns

/-- An exporter for one node takes it in. What the cluster knows of the node
    matters only when kubelets are scraped directly, and a node that cannot be
    looked up is reached through the API server. -/
def seedSelf (o : Options) (e : Exporter) (found : Option Node) : Exporter :=
  let endpoint := if o.direct then found.bind fun n => n.endpoint? o.readOnlyPort else none
  { e with targets := e.targets.insert o.selfNode { name := o.selfNode, endpoint } }

/-- The tracked nodes that a listing lacks. -/
def staleNodes (e : Exporter) (listed : List String) : List String :=
  e.targets.names.filter fun n => !listed.contains n

/-- Removes the tracked nodes that a listing lacks. -/
def removeStaleNodes (e : Exporter) (listed : List String) : Exporter :=
  (e.staleNodes listed).foldl (fun e n => e.removeNode n Cause.sweep.word) e

/-- What a sweep with this listing reports. -/
def nodeSweep (e : Exporter) (listed : List String) : Swept :=
  { listed := (distinct listed).length, removed := (e.staleNodes listed).length }

theorem find?_targets_applyNode (o : Options) (e : Exporter) (n : Node) (name : String) :
    (e.applyNode o n).targets.find? name
      = if n.isReady = true ∧ name = n.name then some (n.target o.direct o.readOnlyPort)
        else e.targets.find? name := by
  unfold applyNode
  by_cases h : n.isReady = true
  · simp [h, NameMap.find?_insert]
  · simp [h]

theorem find?_targets_removeNode (e : Exporter) (name cause other : String) :
    (e.removeNode name cause).targets.find? other
      = if other = name then none else e.targets.find? other := by
  simp [removeNode, log, NameMap.find?_erase]

end Exporter

end StorageGauges
