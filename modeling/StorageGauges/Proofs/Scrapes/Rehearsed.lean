import StorageGauges.Proofs.Scrapes.Manned
import StorageGauges.Rehearsal.Keeping
import StorageGauges.Rehearsal.Step

/-!
# Workers in Rehearsals

Most of what goes on in a rehearsal starts no scrape and ends none, and leaves
the workers as they are. A tick starts some, and only the end of a scrape lets a
worker go. So the workers of every run are a staff with the scrapes that are on
the agenda, whatever the steps were, and no run ever has more scrapes under way
than workers.

## Main definitions

* `Rehearsal.Staffed`: The workers of every run have what is on the agenda.
* `Rehearsal.StaffedFor`: They also have the scrape of a task that is in hand.

## Theorems

* `Rehearsal.StaffedFor.endScrape`: A scrape is over.
* `Rehearsal.Staffed.dispatch`: A tick gives targets to workers.
* `Rehearsal.timeKeeps_staffed`: A step waits.
* `Rehearsal.staffed_take`: A step is taken.
* `Rehearsal.staffed_after_play`: The workers of every run after any steps.
-/

namespace StorageGauges

namespace Rehearsal

/-- The workers of all runs have the scrapes that are on the agenda. -/
def Staffed (p : Pool) (r : Rehearsal) : Prop :=
  r.setup.schedule.pool? = some p ∧ StaffedBy p r.pools r.agenda.scrapes

/-- They also have the one that a task in hand carries on, if it does. -/
def StaffedFor (p : Pool) (t : Task) (r : Rehearsal) : Prop :=
  r.setup.schedule.pool? = some p ∧
    StaffedBy p r.pools (t.scrape?.toList ++ r.agenda.scrapes)

variable {p : Pool} {r : Rehearsal}

/-- What changes the exporter alone changes nothing about workers. -/
theorem Staffed.change (h : r.Staffed p) (f : Exporter → Exporter) : (r.change f).Staffed p :=
  h

/-- What goes on later is on the agenda: it is next there, or it is put in its
    place. -/
theorem scrapes_later_perm (r : Rehearsal) (delay : Nat) (task : Task) :
    (r.later delay task).agenda.scrapes.Perm (task.scrape?.toList ++ r.agenda.scrapes) := by
  unfold later
  dsimp only
  -- A task that goes on at once is put in front, any other one where it is due.
  split
  · exact List.Perm.of_eq (Agenda.scrapes_cons _ _)
  · exact Agenda.scrapes_insert_perm _ _

/-- What goes on later and is no scrape has no worker. -/
theorem Staffed.later (h : r.Staffed p) (delay : Nat) {task : Task} (htask : task.scrape? = none) :
    (r.later delay task).Staffed p := by
  have hperm := scrapes_later_perm r delay task
  rw [htask] at hperm
  exact ⟨h.1, h.2.perm hperm.symm⟩

/-- A scrape that waits for its answer is still under way, under the same worker. -/
theorem StaffedFor.attempt {t : Task} {s : Scrape} (h : StaffedFor p t r)
    (ht : t.scrape? = some s) (since : Nat) : (r.attempt s since).Staffed p := by
  have hperm := scrapes_later_perm { r with source := r.source.fetch s.node }
    (r.source.attempt s.node).delay (.answered s since (r.source.attempt s.node).answer)
  rw [StaffedFor, ht] at h
  exact ⟨h.1, h.2.perm hperm.symm⟩

/-- A worker is idle again when its scrape is over, however it ends. -/
theorem StaffedFor.endScrape {t : Task} {s : Scrape} (h : StaffedFor p t r)
    (ht : t.scrape? = some s) (since : Nat) (answer : Option Payload) :
    (r.endScrape s since answer).Staffed p := by
  rw [StaffedFor, ht] at h
  have hreleased := h.2.release
    (Exporter.scrapeOutcome r.setup.schedule.interval answer s.allowed (r.now - since))
  unfold Rehearsal.endScrape keepOutcome
  dsimp only
  split <;> exact ⟨h.1, hreleased⟩

/-- Scrapes that are started are put on the agenda, with the list that they are
    to keep to. -/
theorem startScrapes_eq (run : Nat) (allowed : AllowList) (ticketed : Bool) (r : Rehearsal)
    (targets : List Target) :
    let after := startScrapes run allowed ticketed r targets
    after.setup = r.setup ∧ after.pools = r.pools ∧
      ∃ fresh : List Scrape, (∀ s ∈ fresh, s.run = run ∧ s.allowed = allowed) ∧
        fresh.map (·.node) = targets.map (·.name) ∧
        (r.agenda.scrapes ++ fresh).Perm after.agenda.scrapes := by
  -- By induction on the targets; the scrapes are put on the agenda one by one.
  induction targets generalizing r with
  | nil =>
      refine ⟨rfl, rfl, [], by simp, rfl, ?_⟩
      rw [List.append_nil]
      exact List.Perm.refl _
  | cons t rest ih =>
      let s : Scrape :=
        { node := t.name, allowed, run, ticket := if ticketed then some r.tickets else none }
      rcases ih ({ r with tickets := r.tickets + 1 }.spawn (.scrape s)) with
        ⟨hsetup, hpools, fresh, hrun, hnodes, hperm⟩
      refine ⟨hsetup, hpools, s :: fresh, List.forall_mem_cons.mpr ⟨⟨rfl, rfl⟩, hrun⟩,
        congrArg (t.name :: ·) hnodes, List.Perm.trans ?_ hperm⟩
      have hspawn := Agenda.scrapes_insert_perm r.agenda { due := r.now, task := .scrape s }
      exact List.perm_middle.trans (hspawn.symm.append_right fresh)

/-- A tick takes as many idle workers as it starts scrapes. -/
theorem Staffed.dispatch (h : r.Staffed p) (run : Nat) (allowed : AllowList) (ticketed : Bool) :
    (r.dispatch run allowed ticketed).2.Staffed p := by
  rcases startScrapes_eq run allowed ticketed
      (r.setPool run (StorageGauges.dispatch (r.poolOf run) r.exporter.snapshot).2)
      (StorageGauges.dispatch (r.poolOf run) r.exporter.snapshot).1.started with
    ⟨hsetup, hpools, fresh, hrun, hnodes, hperm⟩
  have hstarted := (h.2.dispatch run r.exporter.snapshot fresh (fun s hs => (hrun s hs).1)
    hnodes).perm hperm
  unfold Rehearsal.dispatch
  dsimp only
  unfold Staffed
  rw [hsetup, hpools]
  exact ⟨h.1, hstarted⟩

/-- What the loops do keeps the workers busy with what is on the agenda. Only a
    dispatch changes it, and that one takes the workers it needs. -/
theorem loopsKeep_staffed : LoopsKeep (Staffed p) where
  cluster _ h := h
  fail h := h
  markReady h := h
  later delay _ hscrape _ h := h.later delay hscrape
  dispatch run allowed ticketed h := h.dispatch run allowed ticketed
  endSweep domain _ _ h := by cases domain <;> exact h

/-- Whatever is done, and however long anybody waits, the workers of all runs
    have what is on the agenda. -/
theorem timeKeeps_staffed : TimeKeeps (Staffed p) (StaffedFor p) where
  toLoopsKeep := loopsKeep_staffed
  attempt since ht h := h.attempt ht since
  endScrape since answer ht h := h.endScrape ht since answer
  loop ht h := by
    rw [StaffedFor, ht] at h
    exact h
  start _ h deadline :=
    loopsKeep_staffed.startOrWait _ deadline (fun _ => h) fun delay =>
      Staffed.later h delay rfl
  take hfirst h := by
    rw [Staffed, hfirst, Agenda.scrapes_cons] at h
    exact h
  pass _ h := h

/-- Who was waiting goes on, and nobody who waits is a scrape. -/
theorem Staffed.announce (h : r.Staffed p) : r.announce.Staffed p := by
  unfold Rehearsal.announce
  split
  · exact ⟨h.1, h.2.perm (Agenda.scrapes_wake_perm r.agenda r.now Task.isWaiting).symm⟩
  · exact h

/-- Learning of nodes takes time, in which scrapes may end. -/
theorem Staffed.learnNodes (h : r.Staffed p) : r.learnNodes.2.Staffed p := by
  unfold Rehearsal.learnNodes
  dsimp only
  split
  · have hasked := timeKeeps_staffed.request h .nodes Cluster.allNodes
    generalize r.request .nodes Cluster.allNodes = asked at hasked ⊢
    rcases asked with ⟨error | nodes, after⟩
    · exact hasked
    · exact hasked.change _
  · unfold findSelf
    dsimp only
    split
    · exact Staffed.change (timeKeeps_staffed.request h _ _) _
    · exact h.change _

/-- So does learning of pods. -/
theorem Staffed.learnPods (h : r.Staffed p) : r.learnPods.2.Staffed p := by
  have hasked := timeKeeps_staffed.request h (.pods { limit := none, token := none })
    (Cluster.page { limit := none, token := none })
  unfold Rehearsal.learnPods
  dsimp only
  generalize r.request (.pods _) (Cluster.page _) = asked at hasked ⊢
  rcases asked with ⟨error | page, after⟩
  · exact hasked
  · exact hasked.change _

/-- Attempts keep the workers if one does. -/
theorem Staffed.persist (h : r.Staffed p) {attempt : Rehearsal → Except ListError Nat × Rehearsal}
    (hattempt : ∀ r : Rehearsal, r.Staffed p → (attempt r).2.Staffed p) (n : Nat) :
    (Rehearsal.persist attempt n r).Staffed p := by
  induction n generalizing r with
  | zero => exact h
  | succ n ih =>
      have htried := hattempt r h
      unfold Rehearsal.persist
      generalize attempt r = tried at htried ⊢
      rcases tried with ⟨error | count, after⟩
      · exact ih (timeKeeps_staffed.waitUntil htried _)
      · exact htried

/-- Attempts to know the nodes are made until one succeeds. -/
theorem Staffed.knowNodes (h : r.Staffed p) : r.knowNodes.Staffed p := by
  have hlearned := h.persist (fun _ => Staffed.learnNodes) (r.cluster.doomed + 1)
  unfold Rehearsal.knowNodes
  exact Staffed.announce hlearned

/-- And so are attempts to know the pods. -/
theorem Staffed.knowPods (h : r.Staffed p) : r.knowPods.Staffed p := by
  have hlearned := h.persist (fun _ => Staffed.learnPods) (r.cluster.doomed + 1)
  unfold Rehearsal.knowPods
  exact Staffed.announce hlearned

/-- A listing asks for one page after the other, and time passes with each. -/
theorem Staffed.listPods (h : r.Staffed p) (batch n : Nat) (walk : Walk) :
    (Rehearsal.listPods batch n walk r).2.Staffed p := by
  -- By induction on the number of pages that may still be asked for.
  induction n generalizing walk r with
  | zero => exact h
  | succ n ih =>
      have hasked := timeKeeps_staffed.request h (.pods (walk.request batch))
        (podNames (walk.request batch))
      unfold Rehearsal.listPods
      generalize r.request (.pods (walk.request batch)) _ = asked at hasked ⊢
      rcases asked with ⟨error | page, after⟩
      · exact hasked
      · dsimp only
        split
        · exact ih hasked _
        · exact hasked

/-- A sweep of the nodes changes the exporter when its listing is over. -/
theorem Staffed.collectNodes (h : r.Staffed p) : r.collectNodes.2.Staffed p := by
  have hlisted : r.listNodes.2.Staffed p := timeKeeps_staffed.request h .nodes nodeNames
  unfold Rehearsal.collectNodes
  generalize r.listNodes = listed at hlisted ⊢
  rcases listed with ⟨error | names, after⟩
  · exact hlisted
  · exact hlisted.change _

/-- And so does a sweep of the pods. -/
theorem Staffed.collectPods (h : r.Staffed p) (batch : Nat) :
    (r.collectPods batch).2.Staffed p := by
  have hlisted : (r.listAllPods batch).2.Staffed p := h.listPods batch _ .start
  unfold Rehearsal.collectPods
  generalize r.listAllPods batch = listed at hlisted ⊢
  rcases listed with ⟨error | names, after⟩
  · exact hlisted
  · exact hlisted.change _

theorem Staffed.sweepNodes (h : r.Staffed p) : r.sweepNodes.2.Staffed p :=
  loopsKeep_staffed.endSweep .nodes _ _ (timeKeeps_staffed.request h .nodes nodeNames)

/-- A sweep of the pods, and the report with it, changes nothing about workers. -/
theorem Staffed.sweepPods (h : r.Staffed p) : r.sweepPods.2.Staffed p := by
  unfold Rehearsal.sweepPods
  split
  · exact loopsKeep_staffed.endSweep .pods _ _
      (h.listPods r.setup.sweeping.batchSize _ .start)
  · exact h

/-- Nothing that is done about nodes takes or frees a worker by itself. -/
theorem Staffed.actOnNodes (h : r.Staffed p) (a : NodeAct) : (r.actOnNodes a).2.Staffed p := by
  cases a with
  | apply node => exact h.change _
  | remove name cause => exact h.change _
  | find name => exact h
  | event event => exact h.change _
  | learn => exact h.learnNodes
  | know => exact h.knowNodes
  | collect => exact h.collectNodes
  | sweep => exact h.sweepNodes
  | watch feed span => exact timeKeeps_staffed.waitUntil (h.change _) _

/-- Nor does anything that is done about pods. -/
theorem Staffed.actOnPods (h : r.Staffed p) (a : PodAct) : (r.actOnPods a).2.Staffed p := by
  cases a with
  | apply pod => exact h.change _
  | delete pod => exact h.change _
  | find name => exact h
  | event event => exact h.change _
  | learn => exact h.learnPods
  | know => exact h.knowPods
  | collect batch => exact h.collectPods batch
  | sweep => exact h.sweepPods
  | watch feed span => exact timeKeeps_staffed.waitUntil (h.change _) _

/-- The namespaces are asked for, which takes time. -/
theorem Staffed.refresh (h : r.Staffed p) : r.refresh.Staffed p := by
  unfold Rehearsal.refresh
  split
  · exact h
  · rename_i selector _
    exact timeKeeps_staffed.request h (.namespaces selector) Cluster.allNamespaces

/-- Waiting for scrapes lets them end, each with its worker. -/
theorem Staffed.collect (h : r.Staffed p) (tickets : List Nat) : (r.collect tickets).2.Staffed p :=
  timeKeeps_staffed.waitUntilOver h _

/-- A wait for readiness ends in time or not; the health is what it changes. -/
theorem Staffed.awaitReady (h : r.Staffed p) : r.awaitReady.2.Staffed p := by
  have hwaited := timeKeeps_staffed.waitUntil h
    (r.now + r.setup.schedule.readinessTimeout.milliseconds)
  unfold Rehearsal.awaitReady
  dsimp only
  split
  · exact h.change _
  · split
    · exact hwaited.change _
    · exact hwaited.change _

/-- Of what is done about scrapes, ticks take workers, and time frees them. -/
theorem Staffed.actOnScrapes (h : r.Staffed p) (a : ScrapeAct) :
    (r.actOnScrapes a).2.Staffed p := by
  cases a with
  | write node payload allowed =>
      unfold Rehearsal.actOnScrapes Rehearsal.write
      dsimp only
      split
      · exact h.change _
      · exact h
  | refresh => exact h.refresh
  | tick => exact (h.dispatch 0 r.allowed true).collect _
  | begin => exact h.dispatch 0 r.allowed true
  | join => exact Staffed.collect (r := { r with pending := [] }) h r.pending
  | pass span => exact timeKeeps_staffed.waitUntil h _
  | awaitReady => exact h.awaitReady

/-- A task that is no scrape needs no worker. -/
theorem Staffed.spawn (h : r.Staffed p) {task : Task} (htask : task.scrape? = none) :
    (r.spawn task).Staffed p := by
  have hperm := Agenda.scrapes_insert_perm r.agenda { due := r.now, task }
  rw [htask] at hperm
  exact ⟨h.1, h.2.perm hperm.symm⟩

/-- The loops of a run tick and sweep, and start scrapes; they are none themselves. -/
theorem scrape?_of_mem_loops {sweeping : Bool} {t : Task} (ht : t ∈ r.loops sweeping) :
    t.scrape? = none := by
  unfold Rehearsal.loops at ht
  rcases List.mem_cons.mp ht with rfl | ht
  · rfl
  · split at ht
    · split at ht
      · rcases List.mem_pair.mp ht with rfl | rfl <;> rfl
      · rw [List.mem_singleton.mp ht]
        rfl
    · exact absurd ht List.not_mem_nil

/-- A run begins with workers of its own, and none of its loops is a scrape. -/
theorem Staffed.startLoops (h : r.Staffed p) (sweeping : Bool) :
    (r.startLoops sweeping).Staffed p := by
  have hspawn : ∀ (tasks : List Task) (r : Rehearsal), r.Staffed p →
      (∀ t ∈ tasks, t.scrape? = none) → (tasks.foldl Rehearsal.spawn r).Staffed p := by
    intro tasks
    induction tasks with
    | nil => exact fun r h _ => h
    | cons t rest ih =>
        intro r h htasks
        rcases List.forall_mem_cons.mp htasks with ⟨ht, hrest⟩
        exact ih _ (h.spawn ht) hrest
  unfold Rehearsal.startLoops
  split
  · rename_i pool hpool
    rw [h.1] at hpool
    rw [← Option.some.inj hpool]
    exact hspawn _ _ ⟨h.1, h.2.newRun⟩ fun t ht => scrape?_of_mem_loops ht
  · exact h

/-- When a run is over its loops end, and the scrapes that are under way go on. -/
theorem Staffed.endLoops (h : r.Staffed p) (run : Nat) : (r.endLoops run).Staffed p := by
  have hconcluded : { r with agenda := r.agenda.conclude run }.Staffed p := by
    unfold Staffed
    rw [Agenda.scrapes_conclude]
    exact h
  exact timeKeeps_staffed.runWhile hconcluded _ _

theorem Staffed.actOnGauges (h : r.Staffed p) (a : GaugeAct) : (r.actOnGauges a).2.Staffed p := by
  unfold Rehearsal.actOnGauges
  -- Figures are read and series are set or evicted, and nobody works for that.
  split
  all_goals first | exact h | (split <;> exact h)

theorem Staffed.actOnHealth (h : r.Staffed p) (a : HealthAct) : (r.actOnHealth a).2.Staffed p := by
  cases a <;> exact h

theorem Staffed.provide (h : r.Staffed p) (given : Provision) :
    (r.provide given).Staffed p := by
  cases given <;> exact h

-- A run is a step whose timeline has steps of its own, so the induction is on
-- steps and timelines together.
mutual

/-- One step of a rehearsal, which may be a run with a timeline of its own. -/
theorem staffed_take : ∀ (step : Step) (r : Rehearsal), r.Staffed p → (take step r).2.Staffed p
  | .provide given, _, h => h.provide given
  | .asked, _, h => h
  | .nodes a, _, h => h.actOnNodes a
  | .pods a, _, h => h.actOnPods a
  | .scrapes a, _, h => h.actOnScrapes a
  | .gauges a, _, h => h.actOnGauges a
  | .health a, _, h => h.actOnHealth a
  | .run span sweeping timeline, r, h => by
    rw [take]
    have htaken := staffed_takeAll r.now timeline _ (h.startLoops sweeping)
    exact (timeKeeps_staffed.waitUntil htaken _).endLoops _

/-- The steps of a timeline, each when its time has come. -/
theorem staffed_takeAll (since : Nat) : ∀ (timeline : List (Nat × Step)) (r : Rehearsal),
    r.Staffed p → (takeAll since timeline r).2.Staffed p
  | [], _, h => h
  | (time, step) :: rest, r, h => by
    rw [takeAll]
    have hwaited := timeKeeps_staffed.waitUntil h (since + time)
    exact staffed_takeAll since rest _ ((staffed_take step _ hwaited).change _)

end

/-- A rehearsal that came to its end was staffed all along. -/
theorem Staffed.play (h : r.Staffed p) (steps : List Step) (answers : List (Reply × View))
    (after : Rehearsal) (hplay : r.play steps = some (answers, after)) : after.Staffed p := by
  induction steps generalizing r answers after with
  | nil =>
      unfold Rehearsal.play at hplay
      split at hplay
      · exact absurd hplay (by simp)
      · rw [← (Prod.mk.inj (Option.some.inj hplay)).2]
        exact h
  | cons step rest ih =>
      unfold Rehearsal.play at hplay
      split at hplay
      · exact absurd hplay (by simp)
      · rcases Option.map_eq_some_iff.mp hplay with ⟨⟨others, last⟩, hrest, heq⟩
        rw [← (Prod.mk.inj heq).2]
        exact ih ((staffed_take step r h).change _) others last hrest

/-- At the beginning no scrape is under way and every worker is idle. -/
theorem staffed_start {setup : Setup} {pool : Pool} (hpool : setup.schedule.pool? = some pool)
    {first : Rehearsal} (h : start? setup = some first) : first.Staffed pool := by
  rcases Option.map_eq_some_iff.mp h with ⟨start, hstart, rfl⟩
  rw [hpool] at hstart
  have hnone : StaffedBy pool [] [] :=
    ⟨fun s hs => absurd hs List.not_mem_nil, fun _ hrun => absurd hrun (Nat.not_lt_zero _)⟩
  rw [← Option.some.inj hstart]
  exact ⟨hpool, hnone.newRun⟩

/-- After any steps of a rehearsal the workers of every run are those of a staff
    that has done something since all of them were idle, and scrape what is
    under way for the run. So every worker of a run is idle or has a scrape of
    the run that is under way. -/
theorem staffed_after_play (setup : Setup) (pool : Pool) (hpool : setup.schedule.pool? = some pool)
    (first : Rehearsal) (hfirst : start? setup = some first) (steps : List Step)
    (answers : List (Reply × View)) (after : Rehearsal)
    (hplay : first.play steps = some (answers, after)) (run : Nat)
    (hrun : run < after.pools.length) :
    (∃ moves, Manned after.pools after.agenda.scrapes run ((Staff.ofPool pool).run moves)) ∧
      (nodesOf run after.agenda.scrapes).length + (after.poolOf run).idle =
        max 1 setup.schedule.workers := by
  have hstaffed := (staffed_start hpool hfirst).play steps answers after hplay
  rcases hstaffed.2.manned run hrun with ⟨moves, hmanned⟩
  refine ⟨⟨moves, hmanned⟩, ?_⟩
  rw [poolOf, hmanned.pool, Option.getD_some, ← hmanned.busy.length_eq, List.length_map]
  exact (Staff.accounted_schedule hpool moves).staffed

end Rehearsal

end StorageGauges
