import StorageGauges.Rehearsal.Wait

/-!
# What Goes On Keeps

A property that no single change breaks is not broken by any amount of waiting.
The changes are few: the cluster is asked, a tick gives targets to workers, a
sweep is over, an attempt begins, a scrape is over, something is put down for
later. All else is a matter of when they are made, and is gone through here once
for any property.

A job that is done is off the agenda by then. So what is kept while it is done is
a property of its own, which also knows the task that is in hand.

## Main definitions

* `Rehearsal.LoopsKeep`: A property that loops keep after their start.
* `Rehearsal.WorkKeeps`: A property that any job keeps.
* `Rehearsal.TimeKeeps`: A property that waiting keeps.

## Theorems

* `Rehearsal.LoopsKeep.endTick`, `Rehearsal.LoopsKeep.turnPage`: A tick and a page
  are over.
* `Rehearsal.LoopsKeep.startOrWait`: A loop starts, or waits for its start.
* `Rehearsal.WorkKeeps.perform`: A job is done.
* `Rehearsal.TimeKeeps.next`, `Rehearsal.TimeKeeps.runWhile`,
  `Rehearsal.TimeKeeps.waitUntil`: Jobs are done, and a step waits.
-/

namespace StorageGauges

namespace Rehearsal

/-- A loop that has started keeps a property: each of the changes does that it
    makes. What it puts down for later is neither a scrape nor a loop before its
    start. -/
structure LoopsKeep (P : Rehearsal → Prop) : Prop where
  cluster {r : Rehearsal} (c : Cluster) (h : P r) : P { r with cluster := c }
  fail {r : Rehearsal} (h : P r) : P r.fail
  markReady {r : Rehearsal} (h : P r) : P (r.change fun e => e.report Health.Registry.markReady)
  later {r : Rehearsal} (delay : Nat) {t : Task} (hscrape : t.scrape? = none)
    (hstart : t.isStart = false) (h : P r) : P (r.later delay t)
  dispatch {r : Rehearsal} (run : Nat) (allowed : AllowList) (ticketed : Bool) (h : P r) :
    P (r.dispatch run allowed ticketed).2
  endSweep {r : Rehearsal} (domain : Domain) (since : Nat)
    (listing : Except ListError (List String)) (h : P r) : P (r.endSweep domain since listing)

/-- A job keeps a property, if `due` is what holds while its task is in hand. -/
structure WorkKeeps (P : Rehearsal → Prop) (due : Task → Rehearsal → Prop) : Prop
    extends LoopsKeep P where
  attempt {r : Rehearsal} {t : Task} {s : Scrape} (since : Nat) (ht : t.scrape? = some s)
    (h : due t r) : P (r.attempt s since)
  endScrape {r : Rehearsal} {t : Task} {s : Scrape} (since : Nat) (answer : Option Payload)
    (ht : t.scrape? = some s) (h : due t r) : P (r.endScrape s since answer)
  loop {r : Rehearsal} {t : Task} (ht : t.scrape? = none) (h : due t r) : P r
  start {r : Rehearsal} {l : ScrapeLoop} (hl : (Task.scrapeLoop l).isStart = true)
    (h : due (.scrapeLoop l) r) (deadline : Nat) : P (r.startOrWait l deadline)

/-- Waiting keeps a property: a task can be taken in hand, and time can pass. -/
structure TimeKeeps (P : Rehearsal → Prop) (due : Task → Rehearsal → Prop) : Prop
    extends WorkKeeps P due where
  take {r : Rehearsal} {job : Job} {rest : Agenda} (hfirst : r.agenda = job :: rest) (h : P r) :
    due job.task { r with agenda := rest, now := max r.now job.due }
  pass {r : Rehearsal} (time : Nat) (h : P r) : P { r with now := max r.now time }

variable {P : Rehearsal → Prop} {due : Task → Rehearsal → Prop} {r : Rehearsal}

namespace LoopsKeep

theorem endTick (keep : LoopsKeep P) (h : P r) (l : ScrapeLoop) (ticker : Ticker)
    (listing : Except ListError (List String)) : P (r.endTick l ticker listing) := by
  have hstarted := keep.dispatch l.run
    (refreshNamespaces r.setup.schedule.selector l.allowed listing) false h
  -- The first tick makes the exporter ready, and a loop that ends puts nothing down.
  unfold Rehearsal.endTick
  dsimp only
  split <;> split
  · exact hstarted
  · exact keep.markReady hstarted
  · exact keep.later _ rfl rfl hstarted
  · exact keep.later _ rfl rfl (keep.markReady hstarted)

theorem beginTick (keep : LoopsKeep P) (h : P r) (l : ScrapeLoop) (ticker : Ticker) :
    P (r.beginTick l ticker) := by
  unfold Rehearsal.beginTick
  dsimp only
  split
  · exact keep.endTick h l _ _
  · exact keep.later _ rfl rfl (keep.cluster _ h)

theorem startTicking (keep : LoopsKeep P) (h : P r) (l : ScrapeLoop) : P (r.startTicking l) := by
  unfold Rehearsal.startTicking
  split
  · exact keep.beginTick h l _
  · exact keep.fail h

/-- A loop starts, which it reports, or waits for its start. -/
theorem startOrWait (keep : LoopsKeep P) (l : ScrapeLoop) (deadline : Nat)
    (hchange : ∀ f : Exporter → Exporter, P (r.change f))
    (hwait : ∀ delay, P (r.later delay (.scrapeLoop { l with stage := .waiting deadline }))) :
    P (r.startOrWait l deadline) := by
  unfold Rehearsal.startOrWait
  split
  · exact keep.startTicking (hchange _) l
  · split
    · exact keep.startTicking (hchange _) l
    · exact hwait _

theorem rest (keep : LoopsKeep P) (h : P r) (l : SweepLoop) (ticker : Ticker) :
    P (r.rest l ticker) := by
  unfold Rehearsal.rest
  split
  · exact h
  · exact keep.later _ rfl rfl h

theorem ask (keep : LoopsKeep P) (h : P r) (l : SweepLoop) (ticker : Ticker) (since : Nat)
    (walk : Walk) : P (r.ask l ticker since walk) :=
  keep.later _ rfl rfl (keep.cluster _ h)

theorem turnPage (keep : LoopsKeep P) (h : P r) (l : SweepLoop) (ticker : Ticker) (since : Nat)
    (walk : Walk) : P (r.turnPage l ticker since walk) := by
  have hended (cluster : Cluster) (domain : Domain) (listing : Except ListError (List String)) :
      P (({ r with cluster }.endSweep domain since listing).rest l ticker) :=
    keep.rest (keep.endSweep domain since listing (keep.cluster cluster h)) l ticker
  -- A sweep of nodes is over at once. One of pods fails, asks for another page or is complete.
  unfold Rehearsal.turnPage
  split
  · exact hended _ _ _
  · dsimp only
    split
    · exact hended _ _ _
    · split
      · exact keep.ask (keep.cluster _ h) l ticker since _
      · exact hended _ _ _

theorem sweepOn (keep : LoopsKeep P) (h : P r) (l : SweepLoop) : P (r.sweepOn l) := by
  unfold Rehearsal.sweepOn
  split
  · split
    · exact keep.rest h l _
    · exact keep.fail h
  · exact keep.ask h l _ _ _
  · exact keep.turnPage h l _ _ _

end LoopsKeep

namespace WorkKeeps

/-- The answer ends a scrape, unless it is a failure and queries are retried. -/
theorem hear (keep : WorkKeeps P due) (s : Scrape) (since : Nat) (answer : Answer)
    (h : due (.answered s since answer) r) : P (r.hear s since answer) := by
  unfold Rehearsal.hear
  split
  · exact keep.endScrape since _ rfl h
  · split
    · exact keep.attempt since rfl h
    · exact keep.endScrape since none rfl h

theorem scrapeOn (keep : WorkKeeps P due) (l : ScrapeLoop) (h : due (.scrapeLoop l) r) :
    P (r.scrapeOn l) := by
  have hloop := keep.loop rfl h
  -- Before its start a loop may have something to report, and after it has not.
  rcases l with ⟨run, allowed, ticked, ending, _ | deadline | ticker | ticker⟩
  · exact keep.start rfl h _
  · exact keep.start rfl h deadline
  · exact keep.beginTick hloop _ ticker
  · exact keep.endTick (keep.cluster _ hloop) _ ticker _

/-- A job is done. -/
theorem perform (keep : WorkKeeps P due) {t : Task} (h : due t r) : P (r.perform t) := by
  cases t with
  | scrape s => exact keep.attempt r.now rfl h
  | answered s since answer => exact keep.hear s since answer h
  | scrapeLoop l => exact keep.scrapeOn l h
  | sweepLoop l => exact keep.sweepOn (keep.loop rfl h) l

end WorkKeeps

namespace TimeKeeps

/-- The first job on the agenda is done. -/
theorem next (keep : TimeKeeps P due) (h : P r) : P r.next := by
  unfold Rehearsal.next
  split
  · exact h
  · rename_i job rest hagenda
    exact keep.perform (keep.take hagenda h)

theorem runWhile (keep : TimeKeeps P due) (h : P r) (test : Rehearsal → Job → Bool) (n : Nat) :
    P (runWhile test n r) := by
  induction n generalizing r with
  | zero => exact h
  | succ n ih =>
      unfold Rehearsal.runWhile
      split
      · exact h
      · split
        · exact ih (keep.next h)
        · exact h

theorem waitUntil (keep : TimeKeeps P due) (h : P r) (time : Nat) : P (r.waitUntil time) := by
  unfold Rehearsal.waitUntil
  split
  · exact keep.pass time (keep.runWhile h _ _)
  · exact h

theorem waitUntilOver (keep : TimeKeeps P due) (h : P r) (test : Task → Bool) :
    P (r.waitUntilOver test) := by
  unfold Rehearsal.waitUntilOver
  split
  · exact keep.runWhile h _ _
  · exact h

/-- A step asks the cluster, and waits for the answer. -/
theorem request {α : Type} (keep : TimeKeeps P due) (h : P r) (call : Call)
    (read : Cluster → Except ListError α) : P (r.request call read).2 :=
  keep.cluster _ (keep.waitUntil (keep.cluster _ h) _)

end TimeKeeps

end Rehearsal

end StorageGauges
