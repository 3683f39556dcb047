import StorageGauges.Cluster.Listing
import StorageGauges.Exporter.Process
import StorageGauges.Exporter.Ticker
import StorageGauges.Stats.Query

/-!
# The Agenda

An exporter does several things at a time: a loop that scrapes, loops that
sweep, and the scrapes themselves. Each of them is either on the agenda, with
the time at which it goes on, or over. Jobs that are due at the same time are
done in the order in which they were put down.

A loop is told to end while it rests or while it waits for an answer from the
cluster. In the first case it is over at once, in the second it makes use of
the answer and is over then.

## Main definitions

* `Rehearsal.Scrape`: A scrape that is under way.
* `Rehearsal.ScrapeLoop`, `Rehearsal.SweepLoop`: The loops.
* `Rehearsal.Task`: What goes on when a job is due.
* `Rehearsal.Agenda`: The jobs in the order in which they are done.
* `Rehearsal.Agenda.insert`: Puts down a job.
* `Rehearsal.Agenda.wake`: Makes jobs due.
* `Rehearsal.Agenda.conclude`: Tells the loops of a run to end.

## Theorems

* `Rehearsal.Agenda.mem_insert`: Putting down a job keeps all others.
-/

namespace StorageGauges

namespace Rehearsal

/-- A scrape: of which node, for which namespaces, by a worker of which run,
    and under which ticket when somebody wants to know how it ends. -/
structure Scrape where
  node : String
  allowed : AllowList
  run : Nat
  ticket : Option Nat
deriving DecidableEq, Repr

/-- Where a loop that scrapes is: before its start, waiting until nodes and
    pods are known, resting until the next tick, or in a tick, waiting for the
    namespaces. -/
inductive ScrapeLoop.Stage
  | starting
  | waiting (deadline : Nat)
  | resting (ticker : Ticker)
  | listing (ticker : Ticker)
deriving DecidableEq, Repr

/-- A loop that scrapes. -/
structure ScrapeLoop where
  run : Nat
  allowed : AllowList
  ticked : Bool
  ending : Bool
  stage : ScrapeLoop.Stage
deriving DecidableEq, Repr

/-- What a loop sweeps. -/
inductive Domain
  | nodes
  | pods
deriving DecidableEq, Repr

/-- Where a loop that sweeps is: before its start, resting until the next
    tick, or in a sweep that began at some time, waiting for a page. -/
inductive SweepLoop.Stage
  | starting
  | resting (ticker : Ticker)
  | listing (ticker : Ticker) (since : Nat) (walk : Walk)
deriving DecidableEq, Repr

/-- A loop that sweeps. -/
structure SweepLoop where
  run : Nat
  domain : Domain
  ending : Bool
  stage : SweepLoop.Stage
deriving DecidableEq, Repr

/-- What goes on when a job is due. A scrape begins, or gets the answer to the
    attempt that it waits for. -/
inductive Task
  | scrape (s : Scrape)
  | answered (s : Scrape) (since : Nat) (answer : Answer)
  | scrapeLoop (l : ScrapeLoop)
  | sweepLoop (l : SweepLoop)

namespace Task

/-- The task is a loop of a run. -/
def isLoopOf (run : Nat) : Task → Bool
  | scrapeLoop l => l.run = run
  | sweepLoop l => l.run = run
  | _ => false

/-- The task is a scrape with a ticket. -/
def holds (ticket : Nat) : Task → Bool
  | scrape s => s.ticket = some ticket
  | answered s _ _ => s.ticket = some ticket
  | _ => false

/-- The task waits until nodes and pods are known. -/
def isWaiting : Task → Bool
  | scrapeLoop { stage := .waiting _, .. } => true
  | _ => false

/-- The scrape that a task carries on. -/
def scrape? : Task → Option Scrape
  | scrape s => some s
  | answered s _ _ => some s
  | scrapeLoop _ => none
  | sweepLoop _ => none

/-- A loop that scrapes, before its start. -/
def isStart : Task → Bool
  | scrapeLoop { stage := .starting, .. } => true
  | scrapeLoop { stage := .waiting _, .. } => true
  | _ => false

/-- What is left of the task when the loops of a run are told to end. -/
def conclude? (run : Nat) (t : Task) : Option Task :=
  if t.isLoopOf run then
    match t with
    | scrapeLoop l =>
      match l.stage with
      | .listing _ => some (scrapeLoop { l with ending := true })
      | _ => none
    | sweepLoop l =>
      match l.stage with
      | .listing .. => some (sweepLoop { l with ending := true })
      | _ => none
    | _ => some t
  else some t

end Task

/-- A task with the time at which it goes on. -/
structure Job where
  due : Nat
  task : Task

/-- The jobs in the order in which they are done. -/
abbrev Agenda := List Job

namespace Agenda

/-- Puts down a job after all that are due no later. -/
def insert (jobs : Agenda) (job : Job) : Agenda :=
  match jobs with
  | [] => [job]
  | first :: rest => if first.due ≤ job.due then first :: insert rest job else job :: first :: rest

/-- Makes the jobs that a test picks out due at a time. -/
def wake (jobs : Agenda) (now : Nat) (test : Task → Bool) : Agenda :=
  (jobs.filter fun j => test j.task).foldl
    (fun agenda j => insert agenda { j with due := now })
    (jobs.filter fun j => !test j.task)

/-- Tells the loops of a run to end. -/
def conclude (jobs : Agenda) (run : Nat) : Agenda :=
  jobs.filterMap fun j => (j.task.conclude? run).map fun t => { j with task := t }

/-- The time of the last job, or an earlier time when there is none. -/
def horizon (jobs : Agenda) (now : Nat) : Nat :=
  jobs.foldl (fun t j => max t j.due) now

theorem mem_insert (jobs : Agenda) (job other : Job) :
    other ∈ insert jobs job ↔ other = job ∨ other ∈ jobs := by
  induction jobs with
  | nil => simp [insert]
  | cons first rest ih =>
      simp only [insert]
      split
      · simp only [List.mem_cons, ih]
        constructor
        · rintro (h | h | h)
          · exact .inr (.inl h)
          · exact .inl h
          · exact .inr (.inr h)
        · rintro (h | h | h)
          · exact .inr (.inl h)
          · exact .inl h
          · exact .inr (.inr h)
      · simp

end Agenda

end Rehearsal

end StorageGauges
