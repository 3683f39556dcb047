import StorageGauges.Rehearsal.Reply

/-!
# Steps About Gauges

Gauges can be written, read and deleted one by one. A series is named by its
family and label values; a family that has other labels has no such series, so
that reading finds nothing and writing cannot go on.

## Main definitions

* `Rehearsal.GaugeAct`: The steps.
* `Rehearsal.actOnGauges`: A step is taken.
-/

namespace StorageGauges

namespace Rehearsal

/-- Something happens to gauges: a series is written or read, series with some
    label are deleted, a family is asked for its labels or the number of its
    series, what belongs to a node or a pod is deleted, or all gauges are
    shown, as they are or as lines. -/
inductive GaugeAct
  | set (family : Family) (values : List String) (x : Float)
  | get (family : Family) (values : List String)
  | delete (family : Family) (label : Option Label) (text : String)
  | hasLabel (family : Family) (label : Option Label)
  | count (family : Family)
  | evictNode (name : String)
  | evictPod (name : String) (containers : List String)
  | expose
  | lines

/-- The store changes. -/
def changeStore (r : Rehearsal) (f : Store → Store) : Rehearsal :=
  r.change fun e => { e with store := f e.store }

/-- The store after a deletion, and how many series went. -/
def evicted (r : Rehearsal) (e : Store.Eviction) : Reply × Rehearsal :=
  (.count e.removed, r.changeStore fun _ => e.store)

/-- Something happens to gauges. -/
def actOnGauges (r : Rehearsal) : GaugeAct → Reply × Rehearsal
  | .set family values x =>
    match Series.of? family values with
    | some s => (.done, r.changeStore fun st => st.set s x)
    | none => (.done, r.fail)
  | .get family values =>
    match Series.of? family values with
    | some s => (.value (r.exporter.store.get? s), r.changeStore fun st => st.touch s)
    | none => (.value none, r)
  | .delete family (some label) text =>
    r.evicted (r.exporter.store.deleteMatching family label text)
  | .delete _ none _ => (.count 0, r)
  | .hasLabel family label => (.truth (label.any family.hasLabel), r)
  | .count family => (.count (r.exporter.store.familySize family), r)
  | .evictNode name => r.evicted (r.exporter.store.evictNode name)
  | .evictPod name containers => r.evicted (r.exporter.store.evictPod name containers)
  | .expose => (.gauges (exposed r.exporter.store), r)
  | .lines => (.lines (exposition r.exporter.store), r)

end Rehearsal

end StorageGauges
