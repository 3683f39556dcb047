import StorageGauges.Proofs.Health.Scheduler
import StorageGauges.Rehearsal.Keeping

/-!
# A Rehearsed Start

A rehearsed loop reports of the scheduler at its start and at no other time. As
long as no loop before its start is on the agenda, all that goes on by itself
leaves what is known of the scheduler as it is, and it puts down no such loop
either. So a loop that has started leaves the status of its start behind, however
long anybody waits.

## Main definitions

* `Rehearsal.Steady`: Something is known of the scheduler, and no start is due.

## Theorems

* `Rehearsal.loopsKeep_steady`, `Rehearsal.timeKeeps_steady`: It stays so while
  loops go on that have started, and while a step waits.
* `Rehearsal.scheduler?_after_start`: How the scheduler is after the start.
-/

namespace StorageGauges

namespace Rehearsal

/-- This is known of the scheduler, and no loop is on the agenda that would
    report of it at its start. -/
def Steady (known : Option Health.Component) (r : Rehearsal) : Prop :=
  r.exporter.scheduler? = known ∧ ∀ job ∈ r.agenda, job.task.isStart = false

variable {known : Option Health.Component} {r : Rehearsal}

/-- What the exporter does matters only if it reports on the scheduler. -/
theorem Steady.change (h : r.Steady known) {f : Exporter → Exporter}
    (hf : (f r.exporter).scheduler? = r.exporter.scheduler?) : (r.change f).Steady known :=
  ⟨hf.trans h.1, h.2⟩

/-- What is put on the agenda matters only if it is a start. -/
theorem Steady.insert (h : r.Steady known) {task : Task} (htask : task.isStart = false)
    (due : Nat) : { r with agenda := r.agenda.insert { due, task } }.Steady known := by
  refine ⟨h.1, fun job hjob => ?_⟩
  rcases (Agenda.mem_insert r.agenda _ job).mp hjob with rfl | hjob
  · exact htask
  · exact h.2 job hjob

/-- So does what is to go on later. -/
theorem Steady.later (h : r.Steady known) (delay : Nat) {task : Task}
    (htask : task.isStart = false) : (r.later delay task).Steady known := by
  unfold Rehearsal.later
  split
  · refine ⟨h.1, fun job hjob => ?_⟩
    rcases List.mem_cons.mp hjob with rfl | hjob
    · exact htask
    · exact h.2 job hjob
  · exact h.insert htask _

/-- A scrape that ends reports nothing, however it ends. -/
theorem Steady.endScrape (h : r.Steady known) (s : Scrape) (since : Nat)
    (answer : Option Payload) : (r.endScrape s since answer).Steady known := by
  have hwritten := h.change (f := fun e =>
      e.finishScrape r.setup.options r.setup.schedule.interval s.node answer s.allowed
        (r.now - since))
    (Exporter.scheduler?_happen r.setup.options r.setup.schedule.interval r.exporter
      (.scrape s.node answer s.allowed (r.now - since)))
  unfold Rehearsal.endScrape keepOutcome
  dsimp only
  split <;> exact hwritten

/-- Scrapes that are dispatched are no starts. -/
theorem Steady.dispatch (h : r.Steady known) (run : Nat) (allowed : AllowList) (ticketed : Bool) :
    (r.dispatch run allowed ticketed).2.Steady known := by
  have hstarted : ∀ (targets : List Target) (r : Rehearsal), r.Steady known →
      (startScrapes run allowed ticketed r targets).Steady known := by
    -- By induction on the targets, from any state on the way.
    intro targets
    induction targets with
    | nil => exact fun r h => h
    | cons t rest ih =>
        intro r h
        exact ih _ (Steady.insert (r := { r with tickets := r.tickets + 1 }) h rfl _)
  exact hstarted _ (r.setPool run _) h

/-- A sweep reports on another component. -/
theorem Steady.endSweep (h : r.Steady known) (domain : Domain) (since : Nat)
    (listing : Except ListError (List String)) :
    (r.endSweep domain since listing).Steady known := by
  have hsweep := Exporter.scheduler?_endSweep r.exporter
    { domain, now := r.clock, elapsed := r.now - since, listing }
  cases domain with
  | nodes => exact h.change hsweep
  | pods => exact h.change hsweep

/-- A loop that has started reports nothing of the scheduler and puts down no
    start. -/
theorem loopsKeep_steady (known : Option Health.Component) : LoopsKeep (Steady known) where
  cluster _ h := h
  fail h := h
  markReady h := h.change rfl
  later delay _ _ hstart h := h.later delay hstart
  dispatch run allowed ticketed h := h.dispatch run allowed ticketed
  endSweep domain since listing h := h.endSweep domain since listing

/-- So it is with all that is done, since no start is on the agenda. -/
theorem timeKeeps_steady (known : Option Health.Component) :
    TimeKeeps (Steady known) (fun t r => r.Steady known ∧ t.isStart = false) where
  toLoopsKeep := loopsKeep_steady known
  attempt {r _ s} _ _ h :=
    Steady.later (r := { r with source := r.source.fetch s.node }) h.1 _ rfl
  endScrape since answer _ h := h.1.endScrape _ since answer
  loop _ h := h.1
  start hl h _ := absurd hl (Bool.eq_false_iff.mp h.2)
  take {r job rest} hfirst h := by
    have hjobs := h.2
    rw [hfirst] at hjobs
    rcases List.forall_mem_cons.mp hjobs with ⟨hjob, hrest⟩
    exact ⟨⟨h.1, hrest⟩, hjob⟩
  pass _ h := h

/-- A loop that starts, because what it waits for is known or because it has
    waited long enough, leaves the scheduler healthy or degraded, and so it is at
    any later time. -/
theorem scheduler?_after_start (r : Rehearsal) (l : ScrapeLoop) (deadline : Nat)
    (hother : ∀ job ∈ r.agenda, job.task.isStart = false)
    (hstarts : r.isKnown = true ∨ deadline ≤ r.now) (time : Nat) :
    ((r.startOrWait l deadline).waitUntil time).exporter.scheduler?.map
        (fun c => (c.status, c.message)) =
      some (if r.isKnown then (.healthy, none)
        else (.degraded, some "Started before initial population completed")) := by
  -- The start reports what a wait does that has ended like this.
  let w : Waited := { ready := r.isKnown, elapsed := r.now, signals := [] }
  have hsaid : (r.startOrWait l deadline).Steady (r.exporter.afterWait r.clock w).scheduler? := by
    unfold startOrWait
    split
    · rename_i hknown
      have hwell : w.ready = true := hknown
      refine (loopsKeep_steady _).startTicking
        (r := r.change fun e => e.becomeReady r.clock) ⟨?_, hother⟩ l
      rw [Exporter.afterWait, if_pos hwell]
      rfl
    · rename_i hunknown
      have hbadly : ¬ w.ready = true := hunknown
      rw [if_pos (hstarts.resolve_left hunknown)]
      refine (loopsKeep_steady _).startTicking
        (r := r.change fun e => e.startDegraded r.clock) ⟨?_, hother⟩ l
      rw [Exporter.afterWait, if_neg hbadly]
      rfl
  rw [((timeKeeps_steady _).waitUntil hsaid time).1, Exporter.scheduler?_afterWait]
  rfl

end Rehearsal

end StorageGauges
