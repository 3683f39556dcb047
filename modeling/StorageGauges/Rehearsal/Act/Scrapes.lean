import StorageGauges.Rehearsal.Reply
import StorageGauges.Rehearsal.Tick

/-!
# Steps About Scrapes

## Main definitions

* `Rehearsal.ScrapeAct`: The steps.
* `Rehearsal.actOnScrapes`: A step is taken.
-/

namespace StorageGauges

namespace Rehearsal

/-- Something happens to scrapes: a payload is written without one, the
    monitored namespaces are listed, a tick is made or only begun, what was
    begun is waited for, time passes, or nodes and pods are waited for. -/
inductive ScrapeAct
  | write (node : String) (payload : Payload) (allowed : AllowList)
  | refresh
  | tick
  | begin
  | join
  | pass (span : Nat)
  | awaitReady

/-- Names in order, each once. -/
def inOrder (names : AllowList) : AllowList :=
  names.map fun ns => (distinct ns).mergeSort fun a b => a ≤ b

/-- A payload is written. -/
def write (r : Rehearsal) (node : String) (payload : Payload) (allowed : AllowList) :
    Reply × Rehearsal :=
  match Summary.parse? payload with
  | some summary =>
    (.processed (StorageGauges.processed summary allowed),
      r.change fun e => e.process r.setup.options node summary allowed)
  | none => (.unreadable, r)

/-- Something happens to scrapes. -/
def actOnScrapes (r : Rehearsal) : ScrapeAct → Reply × Rehearsal
  | .write node payload allowed => r.write node payload allowed
  | .refresh =>
    let r := r.refresh
    (.allowed (inOrder r.allowed), r)
  | .tick =>
    let (t, outcomes, r) := r.tick
    (.ticked t.started t.dropped outcomes, r)
  | .begin =>
    let (t, r) := r.begin
    (.dispatched t.started t.dropped, r)
  | .join =>
    let (outcomes, r) := r.join
    (.outcomes outcomes, r)
  | .pass span => (.done, r.waitFor span)
  | .awaitReady =>
    let (ready, r) := r.awaitReady
    (.truth ready, r)

end Rehearsal

end StorageGauges
