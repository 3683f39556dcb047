import StorageGauges.Exporter.Nodes
import StorageGauges.Exporter.Pods

/-!
# Sweeps

Watches can miss that something was deleted. From time to time the nodes and
the pods are listed, and what is known but not listed is dropped. A sweep
whose listing failed drops nothing and says so through the health of its
component; the next one that succeeds takes that back.

## Main definitions

* `Exporter.finishNodeSweep`, `Exporter.finishPodSweep`: A sweep ends with a
  listing or with an error.
-/

namespace StorageGauges

namespace Exporter

/-- The component that sweeps. -/
def sweepLogger : String := Health.garbageCollector

/-- A sweep that dropped what it had to. -/
def sweepSucceeded (e : Exporter) (now : Int) (domain : String) (swept : Swept) (elapsed : Nat) :
    Exporter :=
  (e.log sweepLogger (.swept domain swept.listed swept.removed elapsed)).report fun h =>
    h.setHealthy now sweepLogger

/-- A sweep that dropped nothing because its listing failed. -/
def sweepFailed (e : Exporter) (now : Int) (domain : String) (error : ListError) : Exporter :=
  e.report fun h => h.setDegraded now sweepLogger (domain ++ " sweep failed: " ++ error.message)

/-- A sweep of the nodes ends. -/
def finishNodeSweep (e : Exporter) (now : Int) (elapsed : Nat)
    (listing : Except ListError (List String)) : Exporter :=
  match listing with
  | .ok names => (e.removeStaleNodes names).sweepSucceeded now "node" (e.nodeSweep names) elapsed
  | .error error => e.sweepFailed now "Node" error

/-- A sweep of the pods ends. -/
def finishPodSweep (e : Exporter) (now : Int) (elapsed : Nat)
    (listing : Except ListError (List String)) : Exporter :=
  match listing with
  | .ok names => (e.removeStalePods names).sweepSucceeded now "pod" (e.podSweep names) elapsed
  | .error error => e.sweepFailed now "Pod" error

end Exporter

end StorageGauges
