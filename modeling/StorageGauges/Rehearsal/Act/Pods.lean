import StorageGauges.Rehearsal.Learn
import StorageGauges.Rehearsal.Reply

/-!
# Steps About Pods

## Main definitions

* `Rehearsal.PodAct`: The steps.
* `Rehearsal.actOnPods`: A step is taken.
-/

namespace StorageGauges

namespace Rehearsal

/-- Something happens to pods: one is added or changed, is deleted, or is
    looked up; a watch reports; the pods are learned once or until that
    succeeds; what is not listed is dropped, without a report and in pages of
    some size, or with a report; or the pods are watched for some time. -/
inductive PodAct
  | apply (pod : Pod)
  | delete (pod : Pod)
  | find (name : String)
  | event (event : WatchEvent Pod)
  | learn
  | know
  | collect (batch : Nat)
  | sweep
  | watch (feed : Feed Pod) (span : Nat)

/-- Something happens to pods. A pod that was applied is answered by whether
    it has a profile of its own. -/
def actOnPods (r : Rehearsal) : PodAct → Reply × Rehearsal
  | .apply pod =>
    (.truth (pod.profile? r.setup.options.captured).isSome,
      r.change fun e => e.applyPod r.setup.options pod)
  | .delete pod => (.done, r.change fun e => e.deletePod pod)
  | .find name => (.profile (r.exporter.profiles.find? name), r)
  | .event event => (.done, r.change fun e => e.podEvent r.setup.options event)
  | .learn =>
    let (count, r) := r.learnPods
    (Reply.unlessRefused .count count, r)
  | .know => (.known none, r.knowPods)
  | .collect batch =>
    let (swept, r) := r.collectPods batch
    (Reply.unlessRefused .swept swept, r)
  | .sweep =>
    let (succeeded, r) := r.sweepPods
    (.truth succeeded, r)
  | .watch feed span => (.done, r.watchPods feed span)

end Rehearsal

end StorageGauges
