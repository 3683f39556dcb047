import StorageGauges.Gauge.Feature

/-!
# Events

What the exporter puts on record for its operators: that it started or
stopped, what it no longer watches and how many series went with that, how a
sweep ended, and which node could not be scraped in time.

## Main definitions

* `Event`: What happened.
* `Event.name`: The name under which an event is found.
* `Event.message`: The event in words.
* `Event.isWarning`: Operators should look into it.
* `Record`: An event with the component that reports it.
* `Cause`: Why series were deleted.
-/

namespace StorageGauges

/-- What happened. -/
inductive Event
  | started (version mode : String) (features : Features)
  | stopped (reason : String)
  | nodeEvicted (node : String) (series : Nat) (cause : String)
  | podEvicted (pod : String) (series : Nat) (cause : String)
  | swept (domain : String) (listed removed elapsed : Nat)
  | pollingLag (node : String) (remaining : Int) (interval : Nat)
deriving DecidableEq, Repr

namespace Event

/-- The name under which an event is found. -/
def name : Event → String
  | started .. => "exporter_started"
  | stopped .. => "exporter_shutdown"
  | nodeEvicted .. => "node_evicted"
  | podEvicted .. => "pod_evicted"
  | swept .. => "gc_sweep"
  | pollingLag .. => "polling_lag"

/-- The event in words. -/
def message : Event → String
  | started .. => "Ephemeral storage exporter started"
  | stopped .. => "Ephemeral storage exporter shutting down"
  | nodeEvicted .. => "Node removed from monitoring"
  | podEvicted .. => "Pod removed from monitoring"
  | swept .. => "Garbage collection sweep complete"
  | pollingLag .. => "Polling rate could not keep up, raise the scrape interval"

/-- Operators should look into it. -/
def isWarning : Event → Bool
  | pollingLag .. => true
  | _ => false

/-- How many series an event says were deleted. -/
def evicted : Event → Nat
  | nodeEvicted _ series _ => series
  | podEvicted _ series _ => series
  | _ => 0

end Event

/-- Why series were deleted. -/
inductive Cause
  | watchDelete
  | sweep
  | queryFailed
deriving DecidableEq, Repr

/-- A cause in one word. -/
def Cause.word : Cause → String
  | .watchDelete => "watch_delete"
  | .sweep => "gc_sweep"
  | .queryFailed => "query_failed"

/-- An event with the component that reports it. -/
structure Record where
  component : String
  event : Event
deriving DecidableEq, Repr

end StorageGauges
