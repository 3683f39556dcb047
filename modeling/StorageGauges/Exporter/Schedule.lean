import StorageGauges.Exporter.Pool
import StorageGauges.Exporter.Process
import StorageGauges.Duration

/-!
# The Schedule

On every tick the monitored namespaces are listed again and each target gets
a scrape, as far as there are idle workers. A target that finds none is left
out of this tick; nothing waits. When the namespaces cannot be listed, those
of the tick before stay in force, and before the first listing none is known
to be monitored.

The first tick waits until nodes and pods are known, but not forever: after a
time the schedule starts degraded.

## Main definitions

* `Schedule`: What fixes the ticks.
* `Schedule.pool?`: The workers, if there can be so many.
* `Part`: What a schedule is built from.
* `refreshNamespaces`: The namespaces that are monitored from a tick on.
* `Exporter.becomeReady`, `Exporter.startDegraded`: How a schedule starts.
* `waitAll`: Waiting for signals, but not forever.
-/

namespace StorageGauges

/-- What fixes the ticks. -/
structure Schedule where
  interval : Duration
  workers : Nat
  readinessTimeout : Duration
  selector : Option String
deriving DecidableEq, Repr

namespace Schedule

/-- A schedule where nothing else is set. -/
def standard : Schedule :=
  { interval := .ofSeconds 15
    workers := 10
    readinessTimeout := .ofSeconds 30
    selector := none }

/-- The most workers that a pool can have. -/
def mostWorkers : Nat := 2305843009213693951

/-- The workers: one at least, and no more than a pool can have. -/
def pool? (s : Schedule) : Option Pool :=
  if max s.workers 1 ≤ mostWorkers then some (.ofSize (max s.workers 1)) else none

end Schedule

/-- What a schedule is built from. -/
inductive Part
  | tracker
  | cluster
  | query
  | processor
deriving DecidableEq, Repr

namespace Part

/-- Every part, in the order in which they are asked for. -/
def all : List Part :=
  [tracker, cluster, query, processor]

/-- The name of a part. -/
def name : Part → String
  | tracker => "tracker"
  | cluster => "cluster"
  | query => "query"
  | processor => "processor"

/-- What is said when a part is missing. -/
def missing : Part → String
  | tracker => "Node tracker is required"
  | cluster => "Cluster API is required"
  | query => "Stats query is required"
  | processor => "Stats processor is required"

/-- The first part that is missing. -/
def firstMissing? (given : List Part) : Option Part :=
  all.find? fun p => !given.contains p

end Part

/-- The namespaces that are monitored from a tick on. Without a selector
    nothing is listed and all of them are. -/
def refreshNamespaces (selector : Option String) (previous : AllowList)
    (listing : Except ListError (List String)) : AllowList :=
  match selector with
  | none => none
  | some _ =>
    match listing with
    | .ok names => some names
    | .error _ => some (previous.getD [])

/-- The targets in the order of their names. -/
def Exporter.snapshot (e : Exporter) : List Target :=
  e.targets.map (·.2)

namespace Exporter

/-- Nodes and pods are known, and the schedule starts. -/
def becomeReady (e : Exporter) (now : Int) : Exporter :=
  e.report fun h => h.setHealthy now Health.scheduler

/-- The schedule starts although nodes or pods are not known. -/
def startDegraded (e : Exporter) (now : Int) : Exporter :=
  e.report fun h =>
    h.setDegraded now Health.scheduler "Started before initial population completed"

end Exporter

/-- How a wait for signals ended: whether all of them came, how long it took,
    and which had come by then. -/
structure Waited where
  ready : Bool
  elapsed : Nat
  signals : List Bool
deriving DecidableEq, Repr, Inhabited

/-- A signal has come when a wait ends. One that comes at the very end of the
    time is late. -/
def hasCome (elapsed : Nat) (late : Bool) (signal : Option Nat) : Bool :=
  match signal with
  | some t => t = 0 || t < elapsed || (!late && t = elapsed)
  | none => false

/-- The time at which the last of some signals comes, if all of them come. -/
def lastSignal? (signals : List (Option Nat)) : Option Nat :=
  signals.foldl
    (fun last s =>
      match last, s with
      | some a, some b => some (max a b)
      | _, _ => none)
    (some 0)

/-- Waits for signals, each given by the time at which it comes, but no longer
    than a timeout. Signals at time 0 have come before the wait. -/
def waitAll (signals : List (Option Nat)) (timeout : Nat) : Waited :=
  match (lastSignal? signals).filter fun t => t = 0 || t < timeout with
  | some last =>
    { ready := true, elapsed := last, signals := signals.map (hasCome last false) }
  | none =>
    { ready := false, elapsed := timeout, signals := signals.map (hasCome timeout true) }

end StorageGauges
