import StorageGauges.Rehearsal.Act.Gauges
import StorageGauges.Rehearsal.Act.Health
import StorageGauges.Rehearsal.Act.Nodes
import StorageGauges.Rehearsal.Act.Pods
import StorageGauges.Rehearsal.Act.Provision
import StorageGauges.Rehearsal.Act.Scrapes

/-!
# Steps

All steps of a rehearsal. A run of the loops is one step, with a timeline of
steps that are taken while the loops go on, each no earlier than its time.

## Main definitions

* `Rehearsal.Step`: The steps.
* `Rehearsal.take`: A step is taken.
* `Rehearsal.answer`: A step is taken and somebody looks.
* `Rehearsal.play`: Steps are taken one after the other.
-/

namespace StorageGauges

namespace Rehearsal

/-- A step of a rehearsal. -/
inductive Step
  | provide (p : Provision)
  | asked
  | nodes (a : NodeAct)
  | pods (a : PodAct)
  | scrapes (a : ScrapeAct)
  | gauges (a : GaugeAct)
  | health (a : HealthAct)
  | run (span : Nat) (sweeping : Bool) (timeline : List (Nat × Step))

mutual

/-- A step is taken. A run shows how many loops it has. -/
def take : Step → Rehearsal → Reply × Rehearsal
  | .provide p, r => (.done, r.provide p)
  | .asked, r => r.asked
  | .nodes a, r => r.actOnNodes a
  | .pods a, r => r.actOnPods a
  | .scrapes a, r => r.actOnScrapes a
  | .gauges a, r => r.actOnGauges a
  | .health a, r => r.actOnHealth a
  | .run span sweeping timeline, r =>
    let (answers, ran) := takeAll r.now timeline (r.startLoops sweeping)
    (.ran (r.loops sweeping).length answers,
      (ran.waitUntil (r.now + span)).endLoops r.pools.length)

/-- The steps of a timeline are taken, and somebody looks after each. Times
    count from the start of the run. -/
def takeAll (start : Nat) :
    List (Nat × Step) → Rehearsal → List (Reply × View) × Rehearsal
  | [], r => ([], r)
  | (time, step) :: rest, r =>
    let (reply, r) := take step (r.waitUntil (start + time))
    let (view, r) := r.look
    let (answers, r) := takeAll start rest r
    ((reply, view) :: answers, r)

end

/-- A step is taken and somebody looks. -/
def answer (r : Rehearsal) (step : Step) : (Reply × View) × Rehearsal :=
  let (reply, r) := take step r
  let (view, r) := r.look
  ((reply, view), r)

/-- Steps are taken one after the other. Nothing is answered when one of them
    breaks the rehearsal. -/
def play (r : Rehearsal) : List Step → Option (List (Reply × View) × Rehearsal)
  | [] => if r.broken then none else some ([], r)
  | step :: rest =>
    if r.broken then none
    else
      let (answer, r) := r.answer step
      (r.play rest).map fun p => (answer :: p.1, p.2)

end Rehearsal

end StorageGauges
