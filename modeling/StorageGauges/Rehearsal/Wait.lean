import StorageGauges.Rehearsal.Work

/-!
# Waiting

Time moves while a step waits. A step that waits for a time lets everything be
done that is due before it, and goes on before anything that is due then. A
step that waits for something to be over lets jobs be done until it is, and
then all others that are due at the same time.

A run of jobs ends because jobs at one time are finitely many and every loop
rests for a millisecond at least. The number of jobs that a wait can take is
estimated beforehand, so the functions here are recursions on that number.

## Main definitions

* `Rehearsal.runWhile`: Jobs are done as long as a test allows it.
* `Rehearsal.workload`: As many jobs as can be due within some time.
* `Rehearsal.waitFor`: A step waits for some time.
* `Rehearsal.waitUntilOver`: A step waits until some jobs are over.
* `Rehearsal.request`: A step asks the cluster.
-/

namespace StorageGauges

namespace Rehearsal

/-- Jobs are done as long as there are any and a test allows it, but no more
    than some number of them. -/
def runWhile (test : Rehearsal → Job → Bool) : Nat → Rehearsal → Rehearsal
  | 0, r => r
  | n + 1, r =>
    match r.agenda with
    | [] => r
    | job :: _ => if test r job then runWhile test n r.next else r

/-- As many jobs as can be due within some milliseconds. A loop begins no more
    ticks than there are milliseconds, up to those by which it is behind; a
    sweep asks for no more pages than there are pods, and a tick begins no
    more scrapes than there are targets, each with one attempt for every
    millisecond and every failure. -/
def workload (r : Rehearsal) (span : Nat) : Nat :=
  let ticks := (r.agenda.length + 1) * (span + 8)
  let attempts := span + r.source.failuresLeft + 3
  ticks * (r.cluster.pods.length + 5) + ticks * (r.exporter.targets.length + 1) * attempts

/-- A step waits until a time. -/
def waitUntil (r : Rehearsal) (time : Nat) : Rehearsal :=
  if r.now < time then
    let r := runWhile (fun _ job => job.due < time) (r.workload (time - r.now)) r
    { r with now := max r.now time }
  else r

/-- A step waits for some time. -/
def waitFor (r : Rehearsal) (span : Nat) : Rehearsal :=
  r.waitUntil (r.now + span)

/-- The time in which everything on the agenda can be over that is not a loop
    at rest. -/
def span (r : Rehearsal) : Nat :=
  (r.agenda.horizon r.now - r.now)
    + (r.source.failuresLeft + 1) * (r.source.longestDelay + 1)
    + (r.cluster.pods.length + 2) * (r.cluster.delay + 1)

/-- A job that a test picks out is on the agenda. -/
def awaits (r : Rehearsal) (test : Task → Bool) : Bool :=
  r.agenda.any fun job => test job.task

/-- Jobs are done until none is left that a test picks out, and none that is
    due. -/
def settle (r : Rehearsal) (test : Task → Bool) : Rehearsal :=
  runWhile (fun r job => r.awaits test || job.due ≤ r.now) (r.workload r.span) r

/-- A step waits until no job is left that a test picks out. It does not wait
    where there is none. -/
def waitUntilOver (r : Rehearsal) (test : Task → Bool) : Rehearsal :=
  if r.awaits test then r.settle test else r

/-- A step asks the cluster, and waits for the answer. -/
def request {α : Type} (r : Rehearsal) (call : Call) (read : Cluster → Except ListError α) :
    Except ListError α × Rehearsal :=
  let asked := { r with cluster := r.cluster.called call }.waitFor r.cluster.delay
  let (result, cluster) := asked.cluster.answer read
  (result, { asked with cluster })

end Rehearsal

end StorageGauges
