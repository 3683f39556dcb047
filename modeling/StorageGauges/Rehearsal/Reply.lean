import StorageGauges.Gauge.Exposition
import StorageGauges.Probe
import StorageGauges.Rehearsal.Wait

/-!
# Replies

What a step of a rehearsal shows: a reply of its own, and what can be seen of
the exporter afterwards, with all that was put on record since somebody looked
last.

## Main definitions

* `Rehearsal.View`: What can be seen of the exporter.
* `Rehearsal.Reply`: What a step replies.
* `Rehearsal.look`: Somebody looks.
-/

namespace StorageGauges

namespace Rehearsal

/-- What can be seen of the exporter: the time, its targets, how many pod
    profiles and series it has, and what it has put on record. -/
structure View where
  now : Nat
  targets : List Target
  profiles : Nat
  series : Nat
  records : List Record
deriving DecidableEq, Repr

/-- What a step replies. -/
inductive Reply
  | done
  | truth (b : Bool)
  | count (n : Nat)
  | refused (error : ListError)
  | unreadable
  | target (t : Option Target)
  | profile (p : Option PodProfile)
  | known (mode : Option DeployMode)
  | swept (s : Swept)
  | processed (p : Processed)
  | allowed (names : AllowList)
  | dispatched (started dropped : Nat)
  | ticked (started dropped : Nat) (outcomes : List Outcome)
  | outcomes (outcomes : List Outcome)
  | asked (fetched : NameMap Nat) (calls : List Call)
  | value (x : Option Float)
  | gauges (families : List (Family × List Exposed))
  | lines (lines : List String)
  | health (report : Health.Report)
  | readiness (readiness : Health.Readiness)
  | response (response : Probe.Response)
  | ran (loops : Nat) (answers : List (Reply × View))

/-- A reply that depends on whether the cluster refused. -/
def Reply.unlessRefused {α : Type} (reply : α → Reply) : Except ListError α → Reply
  | .ok a => reply a
  | .error error => .refused error

/-- Somebody looks, and takes away what has been put on record. -/
def look (r : Rehearsal) : View × Rehearsal :=
  ({ now := r.now
     targets := r.exporter.snapshot
     profiles := r.exporter.profiles.length
     series := r.exporter.store.size
     records := r.exporter.records },
    r.change fun e => { e with records := [] })

end Rehearsal

end StorageGauges
