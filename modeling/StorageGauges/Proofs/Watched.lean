import StorageGauges.Cluster.Watch

/-!
# What Watch Events Bring

An event either brings objects that there are, one or all of them, or it says
that one is gone. Nodes and pods are both followed through watches, and what
an event does to either depends on no more than that.

An event that brings all objects is as good as one event for each of them, so
a watch can also be told as news of single objects.

## Main definitions

* `WatchEvent.arrivals`: The objects that an event brings, in order.
* `WatchEvent.departure?`: The object that an event says is gone.
* `News`, `WatchEvent.news`: What an event says of single objects.
-/

namespace StorageGauges

/-- What is said of one object: that it is there, or that it is gone. -/
inductive News (α : Type)
  | seen (a : α)
  | gone (a : α)
deriving DecidableEq

namespace WatchEvent

variable {α : Type}

/-- The objects that an event brings, in order. -/
def arrivals : WatchEvent α → List α
  | applied a => [a]
  | deleted _ => []
  | restarted as => as

/-- The object that an event says is gone. -/
def departure? : WatchEvent α → Option α
  | applied _ => none
  | deleted a => some a
  | restarted _ => none

/-- What an event says of single objects, in order. -/
def news : WatchEvent α → List (News α)
  | applied a => [.seen a]
  | deleted a => [.gone a]
  | restarted as => as.map .seen

end WatchEvent

end StorageGauges
