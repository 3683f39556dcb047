import Mathlib.Data.List.Basic
import Mathlib.Data.List.Perm.Basic
import Mathlib.Data.List.Nodup
import StorageGauges.Exporter.Schedule
import StorageGauges.Exporter.Scrape

/-!
# Workers and Ticks

A tick gives its targets their turns one after the other. A worker that is idle
takes up the scrape of a target, and where none is the target is dropped. The
scrapes of all ticks go on side by side and any of them can be over at any
moment, between two ticks as well as between two turns of one tick.

However they come, every worker either is idle or has exactly one scrape that
is not over. A scrape that ends makes exactly one worker idle, whatever its
outcome, and ends once. What a tick starts and what it drops are together the
targets that have had their turns. If no scrape ends while a tick gives turns,
the tick starts as many scrapes as there are idle workers, and all it does is
`dispatch`. The workers of a rehearsal are such a staff, whatever its steps.

## Main definitions

* `Assignment`: A scrape that was started.
* `Round`: A tick with what has become of its targets.
* `Staff`: Workers with the scrapes that they have, and all that was started.
* `Staff.run`: Ticks, turns and ends of scrapes, in some order.
* `Staff.Accounted`: Every worker and every scrape is accounted for.

## Theorems

* `Staff.accounted_step`: Nothing that happens loses account of a worker.
* `Staff.accounted_run`: Nor does any number of things.
* `Staff.dispatch_tick`: A tick in which no scrape ends is `dispatch`.
* `staff_accounts_for_workers`: What is known after any run.
-/

namespace StorageGauges

theorem Pool.take?_eq_some {p after : Pool} (h : p.take? = some after) :
    after.size = p.size ∧ after.idle + 1 = p.idle := by
  unfold Pool.take? at h
  split at h
  · rename_i hidle
    cases h
    exact ⟨rfl, Nat.sub_add_cancel hidle⟩
  · exact absurd h (by simp)

/-- A scrape that was started: how many were started before it, and of which
    target it is. -/
structure Assignment where
  number : Nat
  target : Target
deriving DecidableEq, Repr

/-- A tick: its targets, those of them that have not had their turn, the
    scrapes that it has started, and how many targets it has dropped. -/
structure Round where
  targets : List Target
  left : List Target
  started : List Assignment
  dropped : Nat
deriving DecidableEq, Repr

namespace Round

/-- A tick before its first turn. -/
def ofTargets (targets : List Target) : Round :=
  { targets, left := targets, started := [], dropped := 0 }

/-- The targets of the scrapes that a tick has started. -/
def startedTargets (r : Round) : List Target :=
  r.started.map (·.target)

/-- Every target that has had its turn was either started, in its place among
    the others, or dropped. -/
def Accounted (r : Round) : Prop :=
  ∃ turned, r.targets = turned ++ r.left ∧ r.startedTargets.Sublist turned ∧
    r.started.length + r.dropped = turned.length

/-- Before the first turn nothing was started and nothing dropped. -/
theorem accounted_ofTargets (targets : List Target) : (ofTargets targets).Accounted :=
  ⟨[], rfl, List.Sublist.refl [], rfl⟩

/-- The target whose turn it is goes to the end of what was started. -/
theorem Accounted.start {r : Round} (h : r.Accounted) {a : Assignment} {left : List Target}
    (hleft : r.left = a.target :: left) :
    { r with left, started := r.started ++ [a] }.Accounted := by
  rcases h with ⟨turned, htargets, hsub, hlength⟩
  refine ⟨turned ++ [a.target], ?_, ?_, ?_⟩
  · rw [htargets, hleft, List.append_assoc, List.singleton_append]
  · rw [startedTargets, List.map_append]
    exact hsub.append (List.Sublist.refl [a.target])
  · rw [List.length_append, List.length_append, ← hlength]
    exact Nat.add_right_comm _ _ _

/-- Or it is counted as dropped, and what was started is as before. -/
theorem Accounted.drop {r : Round} (h : r.Accounted) {t : Target} {left : List Target}
    (hleft : r.left = t :: left) : { r with left, dropped := r.dropped + 1 }.Accounted := by
  rcases h with ⟨turned, htargets, hsub, hlength⟩
  refine ⟨turned ++ [t], ?_, hsub.trans (List.sublist_append_left turned [t]), ?_⟩
  · rw [htargets, hleft, List.append_assoc, List.singleton_append]
  · rw [List.length_append, ← hlength]
    rfl

/-- What a tick starts are some of its targets, in their order. -/
theorem Accounted.sublist {r : Round} (h : r.Accounted) :
    r.startedTargets.Sublist r.targets := by
  rcases h with ⟨turned, htargets, hsub, -⟩
  rw [htargets]
  exact hsub.trans (List.sublist_append_left turned r.left)

/-- No target is left out: it was started, was dropped or has its turn to come. -/
theorem Accounted.length {r : Round} (h : r.Accounted) :
    r.started.length + r.dropped + r.left.length = r.targets.length := by
  rcases h with ⟨turned, htargets, -, hlength⟩
  rw [htargets, List.length_append, hlength]

end Round

/-- Workers: how many are idle, the ticks so far with the latest one apart, the
    scrapes that workers have, and those that are over with how they ended. -/
structure Staff where
  pool : Pool
  round : Round
  past : List Round
  busy : List Assignment
  ended : List (Assignment × Outcome)

namespace Staff

/-- What can happen to workers. -/
inductive Move
  | tick (targets : List Target)
  | turn
  | finish (place : Nat) (outcome : Outcome)

/-- Workers before the first tick. -/
def ofPool (pool : Pool) : Staff :=
  { pool, round := .ofTargets [], past := [], busy := [], ended := [] }

variable (c : Staff)

/-- All ticks so far. -/
def rounds : List Round :=
  c.round :: c.past

/-- The scrapes that were started, whether over or not. -/
def assigned : List Assignment :=
  c.busy ++ c.ended.map (·.1)

/-- A tick begins once all targets of the one before have had their turns. -/
def tick (targets : List Target) : Staff :=
  if c.round.left = [] then { c with round := .ofTargets targets, past := c.rounds } else c

/-- The scrape of a target that is started next. -/
def nextAssignment (t : Target) : Assignment :=
  { number := c.assigned.length, target := t }

/-- A target has had its turn and a worker has taken up its scrape. -/
def takeUp (t : Target) (left : List Target) (pool : Pool) : Staff :=
  { c with
    pool
    round := { c.round with left, started := c.round.started ++ [c.nextAssignment t] }
    busy := c.busy ++ [c.nextAssignment t] }

/-- A target has had its turn and is dropped. -/
def drop (left : List Target) : Staff :=
  { c with round := { c.round with left, dropped := c.round.dropped + 1 } }

/-- A target has its turn, if one is left. -/
def turn : Staff :=
  match c.round.left with
  | [] => c
  | t :: left =>
    match c.pool.take? with
    | some pool => c.takeUp t left pool
    | none => c.drop left

/-- A worker is done with a scrape. -/
def putDown (a : Assignment) (place : Nat) (outcome : Outcome) : Staff :=
  { c with
    pool := c.pool.release
    busy := c.busy.eraseIdx place
    ended := c.ended ++ [(a, outcome)] }

/-- A scrape is over, if there is one at that place. -/
def finish (place : Nat) (outcome : Outcome) : Staff :=
  match c.busy[place]? with
  | some a => c.putDown a place outcome
  | none => c

/-- Something happens. -/
def step (c : Staff) : Move → Staff
  | .tick targets => c.tick targets
  | .turn => c.turn
  | .finish place outcome => c.finish place outcome

/-- Things happen one after the other. -/
def run (c : Staff) (moves : List Move) : Staff :=
  moves.foldl step c

/-- Every worker is idle or has a scrape. Every scrape that was started by a
    tick is with a worker or over, and none is so twice. -/
structure Accounted (size : Nat) (c : Staff) : Prop where
  size_eq : c.pool.size = size
  staffed : c.busy.length + c.pool.idle = size
  past_left : ∀ r ∈ c.past, r.left = []
  rounds_accounted : ∀ r ∈ c.rounds, r.Accounted
  started_perm : (c.rounds.flatMap (·.started)).Perm c.assigned
  numbers_perm : (c.assigned.map (·.number)).Perm (List.range c.assigned.length)

variable {c} {size : Nat}

theorem accounted_ofPool (n : Nat) : (ofPool (.ofSize n)).Accounted n where
  size_eq := rfl
  staffed := Nat.zero_add n
  past_left := fun r hr => absurd hr List.not_mem_nil
  rounds_accounted := fun r hr => by
    rw [List.mem_singleton.mp hr]
    exact Round.accounted_ofTargets []
  started_perm := List.Perm.refl []
  numbers_perm := List.Perm.refl []

/-- A tick begins a new round, if the one before is over, and does nothing to
    workers. -/
theorem Accounted.tick (h : c.Accounted size) (targets : List Target) :
    (c.tick targets).Accounted size := by
  unfold Staff.tick
  split
  · rename_i hleft
    exact
      { size_eq := h.size_eq
        staffed := h.staffed
        past_left := List.forall_mem_cons.mpr ⟨hleft, h.past_left⟩
        rounds_accounted :=
          List.forall_mem_cons.mpr ⟨Round.accounted_ofTargets targets, h.rounds_accounted⟩
        started_perm := h.started_perm
        numbers_perm := h.numbers_perm }
  · exact h

/-- What is added at the end of the first list is something more in both together. -/
theorem perm_snoc_append {α : Type} (before after : List α) (a : α) :
    ((before ++ [a]) ++ after).Perm (before ++ after ++ [a]) := by
  rw [List.append_assoc, List.append_assoc]
  exact List.perm_append_comm.append_left before

/-- A scrape that is taken up is one more that was assigned. -/
theorem assigned_takeUp_perm (c : Staff) (t : Target) (left : List Target) (pool : Pool) :
    (c.takeUp t left pool).assigned.Perm (c.assigned ++ [c.nextAssignment t]) :=
  perm_snoc_append c.busy _ _

/-- A scrape that is over was assigned before and is so still. -/
theorem assigned_putDown_perm {a : Assignment} {place : Nat} (h : c.busy[place]? = some a)
    (outcome : Outcome) : (c.putDown a place outcome).assigned.Perm c.assigned := by
  rcases List.getElem?_eq_some_iff.mp h with ⟨hplace, hget⟩
  have hbusy : c.busy.Perm (a :: c.busy.eraseIdx place) := by
    rw [← hget]
    exact (List.getElem_cons_eraseIdx_perm hplace).symm
  rw [assigned, assigned, putDown, List.map_append, ← List.append_assoc]
  refine List.perm_append_comm.trans ?_
  rw [← List.append_assoc]
  exact hbusy.symm.append_right _

/-- A scrape that is taken up makes one worker busy who was idle, and gets a number
    that no scrape has had. -/
theorem Accounted.takeUp (h : c.Accounted size) {t : Target} {left : List Target}
    (hleft : c.round.left = t :: left) {pool : Pool} (hpool : c.pool.take? = some pool) :
    (c.takeUp t left pool).Accounted size := by
  rcases Pool.take?_eq_some hpool with ⟨hsize, hidle⟩
  rcases List.forall_mem_cons.mp h.rounds_accounted with ⟨hround, hpast⟩
  have hperm := c.assigned_takeUp_perm t left pool
  exact
    { size_eq := hsize.trans h.size_eq
      staffed := by
        have hstaffed := h.staffed
        simp only [Staff.takeUp, List.length_append, List.length_singleton]
        omega
      past_left := h.past_left
      rounds_accounted :=
        List.forall_mem_cons.mpr ⟨hround.start (a := c.nextAssignment t) hleft, hpast⟩
      started_perm :=
        (perm_snoc_append _ _ _).trans ((h.started_perm.append_right _).trans hperm.symm)
      numbers_perm := by
        -- The scrape has the number that comes after all others.
        rw [hperm.length_eq, List.length_append, List.length_singleton, List.range_succ]
        refine (hperm.map _).trans ?_
        rw [List.map_append]
        exact h.numbers_perm.append_right _ }

/-- A target that is dropped concerns its own round alone. -/
theorem Accounted.drop (h : c.Accounted size) {t : Target} {left : List Target}
    (hleft : c.round.left = t :: left) : (c.drop left).Accounted size := by
  rcases List.forall_mem_cons.mp h.rounds_accounted with ⟨hround, hpast⟩
  exact
    { size_eq := h.size_eq
      staffed := h.staffed
      past_left := h.past_left
      rounds_accounted := List.forall_mem_cons.mpr ⟨hround.drop hleft, hpast⟩
      started_perm := h.started_perm
      numbers_perm := h.numbers_perm }

/-- A turn is one of the two, or there is no target left. -/
theorem Accounted.turn (h : c.Accounted size) : c.turn.Accounted size := by
  unfold Staff.turn
  split
  · -- Nothing is left for the turn.
    exact h
  · rename_i hleft
    split
    · rename_i hpool
      exact h.takeUp hleft hpool
    · exact h.drop hleft

/-- A scrape that is over makes one worker idle, whatever its outcome. -/
theorem Accounted.idle_putDown (h : c.Accounted size) {a : Assignment} {place : Nat}
    (ha : c.busy[place]? = some a) (outcome : Outcome) :
    (c.putDown a place outcome).pool.idle = c.pool.idle + 1 := by
  rcases List.getElem?_eq_some_iff.mp ha with ⟨hplace, -⟩
  have hstaffed := h.staffed
  have hsize := h.size_eq
  -- The scrape was with a worker, so not all workers were idle.
  exact Nat.min_eq_left (by omega)

/-- A scrape that is over changes its place among those that were assigned. -/
theorem Accounted.putDown (h : c.Accounted size) {a : Assignment} {place : Nat}
    (ha : c.busy[place]? = some a) (outcome : Outcome) :
    (c.putDown a place outcome).Accounted size := by
  rcases List.getElem?_eq_some_iff.mp ha with ⟨hplace, -⟩
  have hperm := assigned_putDown_perm ha outcome
  exact
    { size_eq := h.size_eq
      staffed := by
        have hstaffed := h.staffed
        have hlength := List.length_eraseIdx_add_one hplace
        rw [h.idle_putDown ha]
        simp only [Staff.putDown]
        omega
      past_left := h.past_left
      rounds_accounted := h.rounds_accounted
      started_perm := h.started_perm.trans hperm.symm
      numbers_perm := by
        rw [hperm.length_eq]
        exact (hperm.map _).trans h.numbers_perm }

/-- Whatever place is named, the books are kept. -/
theorem Accounted.finish (h : c.Accounted size) (place : Nat) (outcome : Outcome) :
    (c.finish place outcome).Accounted size := by
  unfold Staff.finish
  split
  · rename_i a ha
    exact h.putDown ha outcome
  · exact h

/-- One thing happens. -/
theorem accounted_step (h : c.Accounted size) (move : Move) : (c.step move).Accounted size := by
  cases move with
  | tick targets => exact h.tick targets
  | turn => exact h.turn
  | finish place outcome => exact h.finish place outcome

/-- Many things happen, by induction from the first on. -/
theorem accounted_run (h : c.Accounted size) (moves : List Move) :
    (c.run moves).Accounted size := by
  induction moves generalizing c with
  | nil => exact h
  | cons move rest ih => exact ih (accounted_step h move)

/-- No scrape was assigned twice, since no two have the same number. -/
theorem Accounted.nodup_assigned (h : c.Accounted size) : c.assigned.Nodup :=
  (h.numbers_perm.nodup_iff.mpr List.nodup_range).of_map _

/-- Nor do the workers of a schedule, of which there is one at least. -/
theorem accounted_schedule {s : Schedule} {pool : Pool} (h : s.pool? = some pool)
    (moves : List Move) : ((ofPool pool).run moves).Accounted (max 1 s.workers) := by
  unfold Schedule.pool? at h
  split at h
  · rw [← Option.some.inj h, Nat.max_comm]
    exact accounted_run (accounted_ofPool _) moves
  · exact absurd h (by simp)

/-- A scrape that was started is with a worker or over, and is so once. -/
theorem Accounted.count_eq_one (h : c.Accounted size) {r : Round} (hr : r ∈ c.rounds)
    {a : Assignment} (ha : a ∈ r.started) : c.busy.count a + (c.ended.map (·.1)).count a = 1 := by
  rw [← List.count_append]
  exact List.count_eq_one_of_mem h.nodup_assigned
    (h.started_perm.mem_iff.mp (List.mem_flatMap.mpr ⟨r, hr, ha⟩))

/-- As many workers are idle as there are workers and scrapes that are over,
    less the scrapes that were started. -/
theorem Accounted.idle_add_started (h : c.Accounted size) :
    c.pool.idle + (c.rounds.flatMap (·.started)).length = size + c.ended.length := by
  have hstaffed := h.staffed
  rw [h.started_perm.length_eq, assigned, List.length_append, List.length_map]
  omega

theorem run_append (c : Staff) (moves others : List Move) :
    c.run (moves ++ others) = (c.run moves).run others :=
  List.foldl_append

theorem run_cons (c : Staff) (move : Move) (moves : List Move) :
    c.run (move :: moves) = (c.step move).run moves :=
  rfl

/-- The first target is started while a worker is idle. -/
theorem dispatch_cons_of_some {pool after : Pool} {t : Target} (rest : List Target)
    (h : pool.take? = some after) :
    dispatch pool (t :: rest) =
      ({ (dispatch after rest).1 with started := t :: (dispatch after rest).1.started },
        (dispatch after rest).2) := by
  rw [dispatch, h]

/-- It is dropped when there is none, and so are all that follow. -/
theorem dispatch_cons_of_none {pool : Pool} {t : Target} (rest : List Target)
    (h : pool.take? = none) :
    dispatch pool (t :: rest) =
      ({ (dispatch pool rest).1 with dropped := (dispatch pool rest).1.dropped + 1 },
        (dispatch pool rest).2) := by
  rw [dispatch, h]

/-- As many turns as targets are left, with no scrape ending in between, are
    `dispatch`. -/
theorem dispatch_turns (c : Staff) (left : List Target) (hleft : c.round.left = left) :
    let d := c.run (List.replicate left.length .turn)
    (d.past = c.past ∧ d.round.targets = c.round.targets ∧ d.round.left = []) ∧
      d.pool = (dispatch c.pool left).2 ∧
      d.round.dropped = c.round.dropped + (dispatch c.pool left).1.dropped ∧
      ∃ fresh : List Assignment, d.busy = c.busy ++ fresh ∧
        d.round.started = c.round.started ++ fresh ∧
        fresh.map (·.target) = (dispatch c.pool left).1.started := by
  -- By induction on the targets that are left, for any workers.
  induction left generalizing c with
  | nil =>
      have hnone : ∀ l : List Assignment, l = l ++ [] := fun l => (List.append_nil l).symm
      exact ⟨⟨rfl, rfl, hleft⟩, rfl, rfl, [], hnone _, hnone _, rfl⟩
  | cons t rest ih =>
      rw [List.length_cons, List.replicate_succ, run_cons, step]
      -- Whether the first target is started depends on whether a worker is idle.
      rcases hpool : c.pool.take? with _ | pool
      · have hturn : c.turn = c.drop rest := by rw [turn, hleft, hpool]
        rw [hturn, dispatch_cons_of_none rest hpool]
        rcases ih (c.drop rest) rfl with ⟨hround, hafter, hdropped, fresh⟩
        exact ⟨hround, hafter, hdropped.trans (Nat.add_right_comm _ _ _), fresh⟩
      · have hturn : c.turn = c.takeUp t rest pool := by rw [turn, hleft, hpool]
        rw [hturn, dispatch_cons_of_some rest hpool]
        rcases ih (c.takeUp t rest pool) rfl with
          ⟨hround, hafter, hdropped, fresh, hbusy, hstarted, htargets⟩
        refine ⟨hround, hafter, hdropped, c.nextAssignment t :: fresh, ?_, ?_, ?_⟩
        · exact hbusy.trans (List.append_assoc _ _ _)
        · exact hstarted.trans (List.append_assoc _ _ _)
        · exact congrArg (t :: ·) htargets

/-- A tick during which no scrape ends is `dispatch`. -/
theorem dispatch_tick (c : Staff) (hleft : c.round.left = []) (targets : List Target) :
    let d := c.run (.tick targets :: List.replicate targets.length .turn)
    (d.past = c.rounds ∧ d.round.targets = targets ∧ d.round.left = []) ∧
      d.busy = c.busy ++ d.round.started ∧
      dispatch c.pool targets =
        ({ started := d.round.startedTargets, dropped := d.round.dropped }, d.pool) := by
  intro d
  have htick : c.step (.tick targets) =
      { c with round := .ofTargets targets, past := c.rounds } := if_pos hleft
  have hd : d = Staff.run { c with round := .ofTargets targets, past := c.rounds }
      (List.replicate targets.length .turn) := by rw [← htick, ← run_cons]
  rcases dispatch_turns { c with round := .ofTargets targets, past := c.rounds } targets rfl with
    ⟨hround, hafter, hdropped, fresh, hbusy, hstarted, htargets⟩
  rw [← hd] at hround hafter hdropped hbusy hstarted
  have hfresh : d.round.started = fresh := hstarted
  refine ⟨hround, hfresh ▸ hbusy, Prod.ext ?_ hafter.symm⟩
  rw [Round.startedTargets, hfresh, htargets, hdropped]
  exact congrArg (Dispatch.mk _) (Nat.zero_add _).symm

end Staff

/-- After any run of ticks, turns and ends of scrapes there are no more scrapes
    with workers than workers, and every other worker is idle. A tick starts
    some of its targets, none of them twice, drops others, and leaves none out,
    and if no scrape ends meanwhile it starts as many as it can. Every scrape
    that was started is with a worker or over and has made its worker idle
    again, once. -/
theorem staff_accounts_for_workers (s : Schedule) (pool : Pool) (hpool : s.pool? = some pool)
    (moves : List Staff.Move) :
    let c := (Staff.ofPool pool).run moves
    let size := max 1 s.workers
    (c.busy.length ≤ size ∧ c.busy.length + c.pool.idle = size) ∧
      (∀ r ∈ c.rounds, r.startedTargets.Sublist r.targets ∧
        ((r.targets.map (·.name)).Nodup → (r.startedTargets.map (·.name)).Nodup) ∧
        r.started.length + r.dropped + r.left.length = r.targets.length ∧
        (r ∈ c.past → r.left = [])) ∧
      (c.round.left = [] → ∀ targets,
        let d := c.run (.tick targets :: List.replicate targets.length .turn)
        d.past = c.rounds ∧ d.round.targets = targets ∧ d.round.left = [] ∧
          d.round.started.length = min c.pool.idle targets.length ∧
          dispatch c.pool targets =
            ({ started := d.round.startedTargets, dropped := d.round.dropped }, d.pool)) ∧
      (∀ r ∈ c.rounds, ∀ a ∈ r.started, c.busy.count a + (c.ended.map (·.1)).count a = 1) ∧
      c.pool.idle + (c.rounds.flatMap (·.started)).length = size + c.ended.length ∧
      ∀ place a outcome, c.busy[place]? = some a →
        let d := c.step (.finish place outcome)
        d.pool.idle = c.pool.idle + 1 ∧ d.ended = c.ended ++ [(a, outcome)] ∧ a ∉ d.busy := by
  intro c size
  have h : c.Accounted size := Staff.accounted_schedule hpool moves
  refine ⟨⟨?_, h.staffed⟩, fun r hr => ?_, fun hleft targets => ?_,
    fun r hr a ha => h.count_eq_one hr ha, h.idle_add_started, fun place a outcome ha => ?_⟩
  · have hstaffed := h.staffed
    omega
  · have haccounted := h.rounds_accounted r hr
    exact ⟨haccounted.sublist, fun hnodup => hnodup.sublist (haccounted.sublist.map _),
      haccounted.length, h.past_left r⟩
  · rcases c.dispatch_tick hleft targets with ⟨⟨hpast, htargets, hnone⟩, -, hdispatch⟩
    refine ⟨hpast, htargets, hnone, ?_, hdispatch⟩
    -- The dispatch starts the first of the targets, as many as there are idle workers.
    have hstarted := dispatch_started c.pool targets
    rw [hdispatch, Round.startedTargets] at hstarted
    rw [← List.length_take, ← hstarted, List.length_map]
  · have hfinish : c.step (.finish place outcome) = c.putDown a place outcome := by
      rw [Staff.step, Staff.finish, ha]
    rw [hfinish]
    refine ⟨h.idle_putDown ha outcome, rfl, fun hbusy => ?_⟩
    -- The scrape is over now, and no scrape is with a worker and over at once.
    refine List.disjoint_of_nodup_append (h.putDown ha outcome).nodup_assigned hbusy ?_
    rw [Staff.putDown, List.map_append]
    exact List.mem_append_right _ (List.mem_singleton_self a)

/-- Where no number of workers is set there is one, and a tick can start more
    scrapes than that if some end meanwhile. -/
theorem staff_of_one :
    let two : List Target :=
      [{ name := "east", endpoint := none }, { name := "west", endpoint := none }]
    let c := (Staff.ofPool (.ofSize 1)).run [.tick two, .turn, .finish 0 .queryFailed, .turn]
    Schedule.pool? { Schedule.standard with workers := 0 } = some (.ofSize 1) ∧
      c.busy.length + c.pool.idle = 1 ∧ c.round.startedTargets = two ∧
        ∀ r ∈ c.rounds, r.started.length + r.dropped + r.left.length = r.targets.length := by
  intro two c
  have hpool : Schedule.pool? { Schedule.standard with workers := 0 } = some (.ofSize 1) := by
    decide
  have h := staff_accounts_for_workers _ _ hpool
    [.tick two, .turn, .finish 0 .queryFailed, .turn]
  exact ⟨hpool, h.1.2, rfl, fun r hr => (h.2.1 r hr).2.2.1⟩

end StorageGauges
