import StorageGauges.Rehearsal.Wait

/-!
# Learning and Sweeping

How the exporter learns of nodes and pods before it scrapes, and how it sweeps
them when it is told to. Learning goes on until it succeeds, with a pause
after each failure; then everyone who waits for it is told.

An exporter for one node asks for that node only when it scrapes kubelets
directly, and takes it in whatever the cluster says.

## Main definitions

* `Rehearsal.learnNodes`, `Rehearsal.learnPods`: One attempt to learn.
* `Rehearsal.knowNodes`, `Rehearsal.knowPods`: Attempts until one succeeds.
* `Rehearsal.collectNodes`, `Rehearsal.collectPods`: Drops what is no longer
  listed.
* `Rehearsal.sweepNodes`, `Rehearsal.sweepPods`: The same, with a report.
-/

namespace StorageGauges

namespace Rehearsal

/-- The exporter's own node, where it matters. -/
def findSelf (r : Rehearsal) : Option Node × Rehearsal :=
  let o := r.setup.options
  if o.direct then
    let (found, r) := r.request (.node o.selfNode) (Cluster.node o.selfNode)
    (found.toOption, r)
  else (none, r)

/-- One attempt to learn of the nodes. It replies how many are tracked. -/
def learnNodes (r : Rehearsal) : Except ListError Nat × Rehearsal :=
  let o := r.setup.options
  if o.mode.isClusterWide then
    match r.request .nodes Cluster.allNodes with
    | (.error error, r) => (.error error, r)
    | (.ok nodes, r) =>
      let r := r.change fun e => e.applyNodes o nodes
      (.ok r.exporter.targets.length, r)
  else
    let (found, r) := r.findSelf
    let r := r.change fun e => e.seedSelf o found
    (.ok r.exporter.targets.length, r)

/-- One attempt to learn of the pods. It replies how many have profiles. -/
def learnPods (r : Rehearsal) : Except ListError Nat × Rehearsal :=
  let everything : PageRequest := { limit := none, token := none }
  match r.request (.pods everything) (Cluster.page everything) with
  | (.error error, r) => (.error error, r)
  | (.ok page, r) =>
    let r := r.change fun e => e.applyPods r.setup.options page.items
    (.ok r.exporter.profiles.length, r)

/-- Attempts with pauses in between, until one succeeds. -/
def persist (attempt : Rehearsal → Except ListError Nat × Rehearsal) : Nat → Rehearsal → Rehearsal
  | 0, r => r
  | n + 1, r =>
    match attempt r with
    | (.ok _, r) => r
    | (.error _, r) => persist attempt n (r.waitFor r.setup.initRetry.milliseconds)

/-- The nodes become known. Every attempt that fails uses up a failure of the
    cluster, so there are no more attempts than that and one. -/
def knowNodes (r : Rehearsal) : Rehearsal :=
  { persist learnNodes (r.cluster.doomed + 1) r with nodesKnown := true }.announce

/-- The pods become known. -/
def knowPods (r : Rehearsal) : Rehearsal :=
  { persist learnPods (r.cluster.doomed + 1) r with podsKnown := true }.announce

/-- The names of all nodes. -/
def listNodes (r : Rehearsal) : Except ListError (List String) × Rehearsal :=
  r.request .nodes nodeNames

/-- The names of all pods from where a walk is, page by page. -/
def listPods (batch : Nat) : Nat → Walk → Rehearsal → Except ListError (List String) × Rehearsal
  | 0, walk, r => (.ok walk.names, r)
  | n + 1, walk, r =>
    match r.request (.pods (walk.request batch)) (podNames (walk.request batch)) with
    | (.error error, r) => (.error error, r)
    | (.ok page, r) =>
      match walk.turn page with
      | .next walk => listPods batch n walk r
      | .finished names => (.ok names, r)

/-- The names of all pods. A page has a pod at least, so there are no more
    pages than pods and one. -/
def listAllPods (r : Rehearsal) (batch : Nat) : Except ListError (List String) × Rehearsal :=
  listPods batch (r.cluster.pods.length + 1) .start r

/-- Drops the nodes that are no longer listed. -/
def collectNodes (r : Rehearsal) : Except ListError Swept × Rehearsal :=
  match r.listNodes with
  | (.error error, r) => (.error error, r)
  | (.ok names, r) =>
    (.ok (r.exporter.nodeSweep names), r.change fun e => e.removeStaleNodes names)

/-- Drops the pods that are no longer listed. -/
def collectPods (r : Rehearsal) (batch : Nat) : Except ListError Swept × Rehearsal :=
  match r.listAllPods batch with
  | (.error error, r) => (.error error, r)
  | (.ok names, r) =>
    (.ok (r.exporter.podSweep names), r.change fun e => e.removeStalePods names)

/-- A sweep of the nodes, and whether it succeeded. -/
def sweepNodes (r : Rehearsal) : Bool × Rehearsal :=
  let (listing, after) := r.listNodes
  (listing.isOk, after.endSweep .nodes r.now listing)

/-- A sweep of the pods, and whether it succeeded. Where profiles are not used
    there is nothing to sweep. -/
def sweepPods (r : Rehearsal) : Bool × Rehearsal :=
  if r.setup.options.caching then
    let (listing, after) := r.listAllPods r.setup.sweeping.batchSize
    (listing.isOk, after.endSweep .pods r.now listing)
  else (true, r)

/-- A watch of the nodes, for some time. -/
def watchNodes (r : Rehearsal) (feed : Feed Node) (span : Nat) : Rehearsal :=
  (r.change fun e => feed.events.foldl (Exporter.nodeEvent r.setup.options) e).waitFor span

/-- A watch of the pods, for some time. -/
def watchPods (r : Rehearsal) (feed : Feed Pod) (span : Nat) : Rehearsal :=
  (r.change fun e => feed.events.foldl (Exporter.podEvent r.setup.options) e).waitFor span

end Rehearsal

end StorageGauges
