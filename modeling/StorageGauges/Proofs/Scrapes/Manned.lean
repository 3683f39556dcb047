import Mathlib.Data.List.Perm.Basic
import StorageGauges.Proofs.Scrapes.Workers
import StorageGauges.Rehearsal.Basic

/-!
# Workers and Scrapes Under Way

A rehearsal has workers for every run of its loops, and on its agenda are the
scrapes of all runs. The workers of a run are those of a staff, and what they
have to do is what is on the agenda for the run.

A scrape that is over takes it off the agenda and makes a worker of its run idle.
A tick puts as many on the agenda as workers of the run take up. Neither concerns
the workers of other runs.

## Main definitions

* `Rehearsal.Agenda.scrapes`: The scrapes that are under way.
* `Rehearsal.Manned`: The workers of a run are a staff that has some scrapes.
* `Rehearsal.StaffedBy`: So are those of every run.

## Theorems

* `Rehearsal.Agenda.scrapes_wake_perm`, `Rehearsal.Agenda.scrapes_conclude`: What
  is under way when jobs are made due and loops are told to end.
* `Rehearsal.StaffedBy.release`: A scrape is over.
* `Rehearsal.StaffedBy.dispatch`: A tick starts scrapes.
* `Rehearsal.StaffedBy.newRun`: A run begins.
-/

namespace StorageGauges

namespace Rehearsal

/-- A task that is told to end goes on with the scrape that it had, if it had one.
    Loops may be over then, but a loop has none. -/
theorem Task.scrape?_conclude (run : Nat) (t : Task) :
    (t.conclude? run).bind scrape? = t.scrape? := by
  unfold conclude?
  split
  · cases t with
    | scrape s => rfl
    | answered s since answer => rfl
    | scrapeLoop l =>
        dsimp only
        split <;> rfl
    | sweepLoop l =>
        dsimp only
        split <;> rfl
  · rfl

namespace Agenda

/-- The scrapes that are under way. -/
def scrapes (jobs : Agenda) : List Scrape :=
  jobs.filterMap (·.task.scrape?)

/-- The first job comes first, if it is a scrape. -/
theorem scrapes_cons (job : Job) (jobs : Agenda) :
    scrapes (job :: jobs) = job.task.scrape?.toList ++ jobs.scrapes := by
  rw [scrapes, List.filterMap_cons]
  cases job.task.scrape? <;> rfl

/-- A job that is put in its place is one more. -/
theorem insert_perm (jobs : Agenda) (job : Job) : (jobs.insert job).Perm (job :: jobs) := by
  -- The new job passes those that are due before it.
  induction jobs with
  | nil => exact List.Perm.refl _
  | cons first rest ih =>
      unfold insert
      split
      · exact (ih.cons first).trans (List.Perm.swap job first rest)
      · exact List.Perm.refl _

/-- So it adds its scrape to those that are under way, if it is one. -/
theorem scrapes_insert_perm (jobs : Agenda) (job : Job) :
    (jobs.insert job).scrapes.Perm (job.task.scrape?.toList ++ jobs.scrapes) := by
  rw [← scrapes_cons]
  exact (insert_perm jobs job).filterMap _

/-- Jobs that are made due carry on what they did. -/
theorem scrapes_wake_perm (jobs : Agenda) (now : Nat) (test : Task → Bool) :
    (jobs.wake now test).scrapes.Perm jobs.scrapes := by
  have hfold : ∀ woken others : Agenda,
      (scrapes (woken.foldl (fun agenda j => insert agenda { j with due := now }) others)).Perm
        -- By induction on the jobs that are woken; each is put in among the others.
        (woken.scrapes ++ others.scrapes) := by
    intro woken
    induction woken with
    | nil => exact fun others => List.Perm.refl _
    | cons j rest ih =>
        intro others
        have hinsert := scrapes_insert_perm others { j with due := now }
        refine ((ih _).trans (hinsert.append_left (scrapes rest))).trans ?_
        rw [scrapes_cons, ← List.append_assoc]
        exact List.perm_append_comm.append_right _
  refine (hfold _ _).trans ?_
  rw [scrapes, scrapes, ← List.filterMap_append]
  exact (List.filter_append_perm _ jobs).filterMap _

/-- Only loops are told to end. -/
theorem scrapes_conclude (jobs : Agenda) (run : Nat) :
    (jobs.conclude run).scrapes = jobs.scrapes := by
  unfold conclude scrapes
  rw [List.filterMap_filterMap]
  refine List.filterMap_congr fun j _ => ?_
  rw [← Task.scrape?_conclude run j.task, Option.bind_map]
  rfl

end Agenda

/-- The nodes that are scraped for a run. -/
def nodesOf (run : Nat) (scrapes : List Scrape) : List String :=
  (scrapes.filter fun s => s.run = run).map (·.node)

/-- The order of scrapes does not matter to which nodes are scraped. -/
theorem nodesOf_perm {run : Nat} {scrapes others : List Scrape} (h : scrapes.Perm others) :
    (nodesOf run scrapes).Perm (nodesOf run others) :=
  (h.filter _).map _

theorem nodesOf_append (run : Nat) (scrapes others : List Scrape) :
    nodesOf run (scrapes ++ others) = nodesOf run scrapes ++ nodesOf run others := by
  rw [nodesOf, List.filter_append, List.map_append]
  rfl

/-- Scrapes for other runs are of no concern. -/
theorem nodesOf_eq_nil {run : Nat} {scrapes : List Scrape} (h : ∀ s ∈ scrapes, s.run ≠ run) :
    nodesOf run scrapes = [] := by
  rw [nodesOf, List.filter_eq_nil_iff.mpr fun s hs => by simpa using h s hs]
  rfl

theorem nodesOf_eq_map {run : Nat} {scrapes : List Scrape} (h : ∀ s ∈ scrapes, s.run = run) :
    nodesOf run scrapes = scrapes.map (·.node) := by
  rw [nodesOf, List.filter_eq_self.mpr fun s hs => by simpa using h s hs]

/-- The workers of a run are those of some staff between two ticks, and scrape
    what is under way for the run. -/
structure Manned (pools : List Pool) (scrapes : List Scrape) (run : Nat) (c : Staff) : Prop where
  pool : pools[run]? = some c.pool
  busy : (c.busy.map (·.target.name)).Perm (nodesOf run scrapes)
  left : c.round.left = []

/-- The workers of every run are those of a staff that has done something since
    all of them were idle, and every scrape under way is for some run. -/
structure StaffedBy (start : Pool) (pools : List Pool) (scrapes : List Scrape) : Prop where
  known : ∀ s ∈ scrapes, s.run < pools.length
  manned : ∀ run < pools.length,
    ∃ moves, Manned pools scrapes run ((Staff.ofPool start).run moves)

variable {start : Pool} {pools : List Pool} {scrapes : List Scrape}

/-- Nor does it matter to the workers in which order scrapes are on the agenda. -/
theorem StaffedBy.perm (h : StaffedBy start pools scrapes) {others : List Scrape}
    (hperm : scrapes.Perm others) : StaffedBy start pools others where
  known := fun s hs => h.known s (hperm.mem_iff.mpr hs)
  manned := fun run hrun => by
    rcases h.manned run hrun with ⟨moves, hmanned⟩
    exact ⟨moves, hmanned.pool, hmanned.busy.trans (nodesOf_perm hperm), hmanned.left⟩

/-- The worker whose scrape is over is done with it. -/
theorem Manned.putDown {s : Scrape} {run : Nat} {c : Staff}
    (h : Manned pools (s :: scrapes) run c) (hs : s.run = run) (outcome : Outcome) :
    ∃ place,
      Manned (pools.set run c.pool.release) scrapes run (c.step (.finish place outcome)) := by
  have hcons : nodesOf run (s :: scrapes) = s.node :: nodesOf run scrapes := by
    rw [nodesOf, List.filter_cons_of_pos (by simpa using hs)]
    rfl
  have hbusy := h.busy
  rw [hcons] at hbusy
  -- Scrapes of one node are alike, so it may be any of those that workers have.
  rcases List.mem_map.mp (hbusy.mem_iff.mpr List.mem_cons_self) with ⟨a, ha, hname⟩
  rcases List.getElem_of_mem ha with ⟨place, hplace, hget⟩
  have hfinish : c.step (.finish place outcome) = c.putDown a place outcome := by
    rw [Staff.step, Staff.finish, List.getElem?_eq_getElem hplace, hget]
  refine ⟨place, ?_⟩
  rw [hfinish]
  have hrun : run < pools.length := (List.getElem?_eq_some_iff.mp h.pool).1
  refine ⟨List.getElem?_set_self hrun, ?_, h.left⟩
  have hrest := (List.getElem_cons_eraseIdx_perm hplace).map (·.target.name)
  rw [List.map_cons, hget, hname] at hrest
  exact (hrest.trans hbusy).cons_inv

/-- When a scrape is over a worker of its run is idle again. -/
theorem StaffedBy.release {s : Scrape} (h : StaffedBy start pools (s :: scrapes))
    (outcome : Outcome) :
    StaffedBy start (pools.set s.run ((pools[s.run]?).getD (.ofSize 0)).release) scrapes where
  known := fun t ht => by
    rw [List.length_set]
    exact h.known t (List.mem_cons_of_mem s ht)
  manned := fun run hrun => by
    rw [List.length_set] at hrun
    rcases h.manned run hrun with ⟨moves, hmanned⟩
    by_cases hs : s.run = run
    · -- The run whose scrape is over takes one more step.
      rcases hmanned.putDown hs outcome with ⟨place, hdone⟩
      refine ⟨moves ++ [.finish place outcome], ?_⟩
      rw [hs, hmanned.pool, Staff.run_append]
      exact hdone
    · -- The workers of other runs have not changed.
      refine ⟨moves, ?_, ?_, hmanned.left⟩
      · rw [List.getElem?_set_ne hs]
        exact hmanned.pool
      · refine hmanned.busy.trans (List.Perm.of_eq ?_)
        rw [nodesOf, List.filter_cons_of_neg (by simpa using hs)]
        rfl

/-- When a tick starts scrapes the workers of its run take them up. -/
theorem Manned.dispatch {run : Nat} {c : Staff} (h : Manned pools scrapes run c)
    (targets : List Target) (fresh : List Scrape) (hrun : ∀ s ∈ fresh, s.run = run)
    (hnodes : fresh.map (·.node) = (StorageGauges.dispatch c.pool targets).1.started.map (·.name)) :
    Manned (pools.set run (StorageGauges.dispatch c.pool targets).2) (scrapes ++ fresh) run
      (c.run (.tick targets :: List.replicate targets.length .turn)) := by
  -- Between two ticks a tick with all its turns is a dispatch.
  rcases c.dispatch_tick h.left targets with ⟨⟨-, -, hleft⟩, hbusy, hdispatch⟩
  rw [hdispatch] at hnodes ⊢
  refine ⟨?_, ?_, hleft⟩
  · exact List.getElem?_set_self (List.getElem?_eq_some_iff.mp h.pool).1
  · rw [nodesOf_append, nodesOf_eq_map hrun, hnodes, hbusy, List.map_append, Round.startedTargets,
      List.map_map]
    exact h.busy.append_right _

/-- A tick of a run concerns the workers of that run. -/
theorem StaffedBy.dispatch (h : StaffedBy start pools scrapes) (run : Nat) (targets : List Target)
    (fresh : List Scrape) (hrun : ∀ s ∈ fresh, s.run = run)
    (hnodes : fresh.map (·.node) = (StorageGauges.dispatch
      ((pools[run]?).getD (.ofSize 0)) targets).1.started.map (·.name)) :
    StaffedBy start
      (pools.set run (StorageGauges.dispatch ((pools[run]?).getD (.ofSize 0)) targets).2)
      (scrapes ++ fresh) := by
  -- A tick is for a run that has begun, or there is nobody to start anything.
  by_cases hknown : run < pools.length
  · refine ⟨fun s hs => ?_, fun other hother => ?_⟩
    · rw [List.length_set]
      rcases List.mem_append.mp hs with hs | hs
      · exact h.known s hs
      · exact hrun s hs ▸ hknown
    · rw [List.length_set] at hother
      rcases h.manned other hother with ⟨moves, hmanned⟩
      by_cases hsame : run = other
      · subst hsame
        rw [hmanned.pool, Option.getD_some] at hnodes ⊢
        refine ⟨moves ++ .tick targets :: List.replicate targets.length .turn, ?_⟩
        rw [Staff.run_append]
        exact hmanned.dispatch targets fresh hrun hnodes
      · refine ⟨moves, ?_, ?_, hmanned.left⟩
        · rw [List.getElem?_set_ne hsame]
          exact hmanned.pool
        · have hothers : nodesOf other fresh = [] := nodesOf_eq_nil fun s hs => hrun s hs ▸ hsame
          rw [nodesOf_append, hothers, List.append_nil]
          exact hmanned.busy
  · -- There are no workers of such a run, and nothing is started.
    have hpool : (pools[run]?).getD (.ofSize 0) = .ofSize 0 := by
      rw [List.getElem?_eq_none (Nat.le_of_not_lt hknown), Option.getD_none]
    have hfresh : fresh = [] := by
      rw [hpool, dispatch_started] at hnodes
      exact List.map_eq_nil_iff.mp (hnodes.trans (by rw [Pool.ofSize, List.take_zero]; rfl))
    rw [List.set_eq_of_length_le (Nat.le_of_not_lt hknown), hfresh, List.append_nil]
    exact h

/-- A new run begins with all its workers idle. -/
theorem StaffedBy.newRun (h : StaffedBy start pools scrapes) :
    StaffedBy start (pools ++ [start]) scrapes := by
  refine ⟨fun s hs => ?_, fun run hrun => ?_⟩
  · rw [List.length_append]
    exact Nat.lt_add_right _ (h.known s hs)
  · rw [List.length_append, List.length_singleton] at hrun
    rcases Nat.lt_succ_iff_lt_or_eq.mp hrun with hrun | rfl
    · rcases h.manned run hrun with ⟨moves, hmanned⟩
      refine ⟨moves, ?_, hmanned.busy, hmanned.left⟩
      rw [List.getElem?_append_left hrun]
      exact hmanned.pool
    · -- No scrape that is under way can be for a run that has not begun.
      refine ⟨[], List.getElem?_concat_length, ?_, rfl⟩
      rw [nodesOf_eq_nil fun s hs => Nat.ne_of_lt (h.known s hs)]
      exact List.Perm.refl []

end Rehearsal

end StorageGauges
