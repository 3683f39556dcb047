import StorageGauges.Rehearsal.Learn
import StorageGauges.Rehearsal.Reply

/-!
# Steps About Nodes

## Main definitions

* `Rehearsal.NodeAct`: The steps.
* `Rehearsal.actOnNodes`: A step is taken.
-/

namespace StorageGauges

namespace Rehearsal

/-- Something happens to nodes: one is added or changed, is no longer scraped,
    or is looked up; a watch reports; the nodes are learned once or until that
    succeeds; what is not listed is dropped, without a report or with one; or
    the nodes are watched for some time. -/
inductive NodeAct
  | apply (node : Node)
  | remove (name cause : String)
  | find (name : String)
  | event (event : WatchEvent Node)
  | learn
  | know
  | collect
  | sweep
  | watch (feed : Feed Node) (span : Nat)

/-- Something happens to nodes. A node that was applied or removed is answered
    by whether it is tracked then or was tracked before. -/
def actOnNodes (r : Rehearsal) : NodeAct → Reply × Rehearsal
  | .apply node =>
    let r := r.change fun e => e.applyNode r.setup.options node
    (.truth (r.exporter.targets.contains node.name), r)
  | .remove name cause =>
    (.truth (r.exporter.targets.contains name), r.change fun e => e.removeNode name cause)
  | .find name => (.target (r.exporter.targets.find? name), r)
  | .event event => (.done, r.change fun e => e.nodeEvent r.setup.options event)
  | .learn =>
    let (count, r) := r.learnNodes
    (Reply.unlessRefused .count count, r)
  | .know => (.known (some r.setup.options.mode), r.knowNodes)
  | .collect =>
    let (swept, r) := r.collectNodes
    (Reply.unlessRefused .swept swept, r)
  | .sweep =>
    let (succeeded, r) := r.sweepNodes
    (.truth succeeded, r)
  | .watch feed span => (.done, r.watchNodes feed span)

end Rehearsal

end StorageGauges
