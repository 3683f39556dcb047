import StorageGauges.Rehearsal.Reply

/-!
# Provisions

Steps that give a rehearsal something to deal with: what the cluster holds,
how it behaves, and what nodes answer.

## Main definitions

* `Rehearsal.Provision`: The steps.
* `Rehearsal.provide`: A step is taken.
-/

namespace StorageGauges

namespace Rehearsal

/-- What a rehearsal is given to deal with. -/
inductive Provision
  | nodes (nodes : List Node)
  | pods (pods : List Pod)
  | namespaces (names : List String)
  | failures (count spared : Nat)
  | delay (delay : Nat)
  | supply (node : String) (supply : Supply)

/-- The cluster changes. -/
def changeCluster (r : Rehearsal) (f : Cluster → Cluster) : Rehearsal :=
  { r with cluster := f r.cluster }

/-- A rehearsal is given something to deal with. -/
def provide (r : Rehearsal) : Provision → Rehearsal
  | .nodes nodes => r.changeCluster fun c => { c with nodes }
  | .pods pods => r.changeCluster fun c => { c with pods }
  | .namespaces namespaces => r.changeCluster fun c => { c with namespaces }
  | .failures doomed spared => r.changeCluster fun c => { c with doomed, spared }
  | .delay delay => r.changeCluster fun c => { c with delay }
  | .supply node supply =>
    { r with source := { r.source with supplies := r.source.supplies.insert node supply } }

/-- What was asked of the nodes so far, and of the cluster since somebody
    looked last. -/
def asked (r : Rehearsal) : Reply × Rehearsal :=
  (.asked r.source.fetched r.cluster.calls, r.changeCluster fun c => { c with calls := [] })

end Rehearsal

end StorageGauges
