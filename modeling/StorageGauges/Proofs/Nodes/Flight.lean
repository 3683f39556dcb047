import Mathlib.Data.List.Induction
import StorageGauges.Exporter.Pool
import StorageGauges.Proofs.Gauge.Written
import StorageGauges.Proofs.Nodes.Tracking

/-!
# Scrapes in Flight

A tick gives workers to targets and goes on. What a scrape does then, it does
in its own time, one thing after the other, and watch events, sweeps and other
scrapes come in between. A node can go while its scrape is under way. Nothing
tells the scrape.

A scrape that has its answer is a list of deeds here. Doing them at once is
what the exporter does when it finishes a scrape, so the deeds are that very
scrape, taken apart (`Exporter.finishScrape_eq`). What they are is settled when
the answer comes: the profiles of pods go into it, and no move changes those.

## Main definitions

* `Deed`: One thing that a scrape does.
* `Exporter.deeds`: What a scrape does, given what the node answered.
* `Flight`: A scrape that was dispatched and is not over.
* `Traffic`: The exporter, its idle workers and its flights.
* `Move`: What can come next.
* `Traffic.turn`, `Traffic.run`: A move and a run of them.
* `Flight.OwnWrites`: All that a flight has left to write is of its node.

## Theorems

* `Exporter.finishScrape_eq`: A scrape at once is its deeds in order.
* `Traffic.exporter_act`: What a flight's next deed changes.
* `Traffic.mem_flights_hear`, `Traffic.mem_flights_act`: The flights after an
  answer and after a deed.
* `Traffic.flight_of_mem_turn`: Where the flights after a move come from.
* `Traffic.ownWrites_run`: No flight ever writes for another node.
* `Traffic.dispatched_of_mem_run`: A flight's node was tracked at its tick.
-/

namespace StorageGauges

/-- One thing that a scrape does: a node that did not answer loses its series,
    a series is written, or what is left of the interval is looked at. -/
inductive Deed
  | evict
  | write (w : Write)
  | note (remaining : Int)

namespace Exporter

/-- A scrape of a node does one thing. -/
def act (interval : Duration) (node : String) (e : Exporter) : Deed → Exporter
  | .evict => e.evictUnanswered node
  | .write w => { e with store := e.store.apply w }
  | .note remaining => e.noteLag interval node remaining

/-- What a scrape does about the time that is left. -/
def closingDeeds (o : Options) (node : String) (remaining : Int) : List Deed :=
  .note remaining ::
    (whenOn o.features.adjustedPollingRate (pollingRate node) (Float.ofInt remaining)).map .write

/-- What a scrape does, given what the node answered. -/
def deeds (o : Options) (interval : Duration) (e : Exporter) (node : String)
    (answer : Option Payload) (allowed : AllowList) (elapsed : Nat) : List Deed :=
  match answer with
  | none => [.evict]
  | some payload =>
    match Summary.parse? payload with
    | none => []
    | some summary =>
      (summaryWrites o e node summary allowed).map .write
        ++ closingDeeds o node (remainingTime interval elapsed)

/-- Writing one after the other is writing all, since writes read nothing. -/
theorem foldl_act_write (interval : Duration) (node : String) (ws : List Write) (e : Exporter) :
    (ws.map Deed.write).foldl (act interval node) e = { e with store := e.store.applyAll ws } := by
  induction ws generalizing e with
  | nil => rfl
  | cons w rest ih => exact ih { e with store := e.store.apply w }

/-- A scrape that has written its payload notes a delay and writes what is left of
    the interval. -/
theorem foldl_act_closingDeeds (o : Options) (interval : Duration) (node : String)
    (remaining : Int) (e : Exporter) :
    (closingDeeds o node remaining).foldl (act interval node) e =
      (e.noteLag interval node remaining).writeRemaining o node remaining := by
  unfold closingDeeds writeRemaining whenOn
  rw [List.foldl_cons, foldl_act_write]
  -- Whether the rate is written hangs on its feature.
  cases o.features.adjustedPollingRate <;> rfl

/-- A scrape that is finished at once does its deeds in order. -/
theorem finishScrape_eq (o : Options) (interval : Duration) (e : Exporter) (node : String)
    (answer : Option Payload) (allowed : AllowList) (elapsed : Nat) :
    e.finishScrape o interval node answer allowed elapsed =
      (e.deeds o interval node answer allowed elapsed).foldl (act interval node) e := by
  cases answer with
  | none => rfl
  | some payload =>
      rw [finishScrape, deeds]
      -- A payload that could not be read ends the scrape where it is.
      cases Summary.parse? payload with
      | none => rfl
      | some summary =>
          simp only [List.foldl_append, foldl_act_write, foldl_act_closingDeeds]
          rfl

/-- No scrape adds or removes a target, also not one whose node gave no answer. -/
theorem targets_act (interval : Duration) (node : String) (e : Exporter) (deed : Deed) :
    (e.act interval node deed).targets = e.targets := by
  cases deed with
  | evict => rfl
  | write w => rfl
  | note remaining =>
      rw [act, noteLag]
      split <;> rfl

/-- What is live after a deed: an eviction leaves the series of other nodes,
    and a write adds its own. -/
theorem mem_index_act (interval : Duration) (node : String) (e : Exporter) (deed : Deed)
    (s : Series) :
    s ∈ (e.act interval node deed).store.index ↔
      (s ∈ e.store.index ∧ (deed = .evict → s.value? .nodeName ≠ some node)) ∨
        ∃ w, deed = .write w ∧ w.series = s := by
  cases deed with
  | evict =>
      have h := Store.mem_index_evictNode e.store node s
      simp only [forall_const, reduceCtorEq, false_and, exists_false, or_false]
      exact h
  | write w =>
      have h := Store.mem_index_apply e.store w s
      simp only [reduceCtorEq, false_implies, and_true, Deed.write.injEq, exists_eq_left']
      rw [or_comm, eq_comm]
      exact h
  | note remaining =>
      simp only [reduceCtorEq, false_implies, and_true, false_and, exists_false, or_false]
      rw [act, noteLag]
      split <;> rfl

/-- All that a scrape writes has the name of its own node, in the payload and after
    it. -/
theorem value?_nodeName_of_mem_deeds (o : Options) (interval : Duration) (e : Exporter)
    (node : String) (answer : Option Payload) (allowed : AllowList) (elapsed : Nat) (w : Write)
    (h : .write w ∈ e.deeds o interval node answer allowed elapsed) :
    w.series.value? .nodeName = some node := by
  unfold deeds at h
  split at h
  · exact absurd h (by simp)
  · split at h
    · exact absurd h List.not_mem_nil
    · rcases List.mem_append.mp h with hwritten | hclosing
      · rcases List.mem_map.mp hwritten with ⟨v, hv, hvw⟩
        rw [← Deed.write.inj hvw]
        exact value?_nodeName_of_mem_summaryWrites o e node _ allowed v hv
      · -- The polling rate is a series of the node by its definition.
        simp only [closingDeeds, List.mem_cons, reduceCtorEq, false_or, List.mem_map] at hclosing
        rcases hclosing with ⟨v, hv, hvw⟩
        rcases (mem_whenOn _ _ _ v).mp hv with ⟨-, rfl⟩
        rw [← Deed.write.inj hvw]
        rfl

end Exporter

/-- A scrape that was dispatched and is not over. It has nothing to do before
    its node has answered. -/
structure Flight where
  node : String
  allowed : AllowList
  deeds : Option (List Deed)

namespace Flight

/-- A scrape that was just dispatched. -/
def dispatched (allowed : AllowList) (t : Target) : Flight :=
  { node := t.name, allowed, deeds := none }

/-- All that a flight has left to write is of its node. -/
def OwnWrites (f : Flight) : Prop :=
  ∀ ds, f.deeds = some ds → ∀ w, .write w ∈ ds → w.series.value? .nodeName = some f.node

end Flight

/-- The exporter, its idle workers, and the scrapes in flight. -/
structure Traffic where
  exporter : Exporter
  pool : Pool
  flights : List Flight

/-- What can come next: a watch reports something about nodes, a sweep drops
    what its listing lacks, a tick dispatches scrapes, the node of a flight
    answers or is given up, or a flight does its next deed. -/
inductive Move
  | event (event : WatchEvent Node)
  | sweep (listing : Except ListError (List String))
  | tick (allowed : AllowList)
  | answer (i : Nat) (answer : Option Payload) (elapsed : Nat)
  | act (i : Nat)

namespace Traffic

/-- Nothing is known and nothing is in flight. -/
def initial (health : Health.Registry) (pool : Pool) : Traffic :=
  { exporter := .initial health, pool, flights := [] }

/-- A tick dispatches scrapes. -/
def dispatch (t : Traffic) (allowed : AllowList) : Traffic :=
  let (d, pool) := StorageGauges.dispatch t.pool t.exporter.snapshot
  { t with pool, flights := t.flights ++ d.started.map (.dispatched allowed) }

/-- The node of a flight answers, or is given up. -/
def hear (o : Options) (interval : Duration) (t : Traffic) (i : Nat) (answer : Option Payload)
    (elapsed : Nat) : Traffic :=
  match t.flights[i]? with
  | some ⟨node, allowed, none⟩ =>
    let deeds := t.exporter.deeds o interval node answer allowed elapsed
    { t with flights := t.flights.set i ⟨node, allowed, some deeds⟩ }
  | _ => t

/-- The node of a flight and the deed that the flight does next. -/
def next? (t : Traffic) (i : Nat) : Option (String × Deed) :=
  match t.flights[i]? with
  | some ⟨node, _, some (deed :: _)⟩ => some (node, deed)
  | _ => none

/-- A flight does its next deed. When there is none it is over, and its worker
    is idle again. -/
def act (interval : Duration) (t : Traffic) (i : Nat) : Traffic :=
  match t.flights[i]? with
  | some ⟨node, allowed, some (deed :: rest)⟩ =>
    { t with
      exporter := t.exporter.act interval node deed
      flights := t.flights.set i ⟨node, allowed, some rest⟩ }
  | some ⟨_, _, some []⟩ =>
    { t with pool := t.pool.release, flights := t.flights.eraseIdx i }
  | _ => t

/-- A move is made. A sweep whose listing failed drops nothing. -/
def turn (o : Options) (interval : Duration) (t : Traffic) : Move → Traffic
  | .event ev => { t with exporter := t.exporter.nodeEvent o ev }
  | .sweep (.ok listed) => { t with exporter := t.exporter.removeStaleNodes listed }
  | .sweep (.error _) => t
  | .tick allowed => t.dispatch allowed
  | .answer i answer elapsed => t.hear o interval i answer elapsed
  | .act i => t.act interval i

/-- Moves are made one after the other. -/
def run (o : Options) (interval : Duration) (t : Traffic) (moves : List Move) : Traffic :=
  moves.foldl (turn o interval) t

variable (o : Options) (interval : Duration) (t : Traffic)

/-- An answer changes the flight that it is for; the exporter changes with the
    deeds. -/
theorem exporter_hear (i : Nat) (answer : Option Payload) (elapsed : Nat) :
    (t.hear o interval i answer elapsed).exporter = t.exporter := by
  unfold hear
  split <;> rfl

/-- What a flight's next deed changes. A flight without one changes nothing. -/
theorem exporter_act (i : Nat) :
    (t.act interval i).exporter =
      match t.next? i with
      | some (node, deed) => t.exporter.act interval node deed
      | none => t.exporter := by
  unfold act next?
  rcases t.flights[i]? with _ | ⟨node, allowed, _ | _ | ⟨deed, rest⟩⟩ <;> rfl

/-- A deed that comes next is the first that its flight has left. -/
theorem flight_of_next? (i : Nat) (node : String) (deed : Deed)
    (h : t.next? i = some (node, deed)) :
    ∃ f ∈ t.flights, f.node = node ∧ ∃ rest, f.deeds = some (deed :: rest) := by
  unfold next? at h
  split at h
  · rename_i hi
    rcases Prod.mk.inj (Option.some.inj h) with ⟨rfl, rfl⟩
    -- The flight that is found is one of those there are.
    exact ⟨_, List.mem_of_getElem? hi, rfl, _, rfl⟩
  · exact absurd h (by simp)

/-- A flight after an answer was there before, or it is one that had none and
    has got its deeds. -/
theorem mem_flights_hear (i : Nat) (answer : Option Payload) (elapsed : Nat) (f : Flight)
    (h : f ∈ (t.hear o interval i answer elapsed).flights) :
    f ∈ t.flights ∨ (⟨f.node, f.allowed, none⟩ ∈ t.flights ∧
      f.deeds = some (t.exporter.deeds o interval f.node answer f.allowed elapsed)) := by
  unfold hear at h
  split at h
  · -- Only the flight whose node has answered is another one.
    rename_i node allowed hi
    rcases List.mem_or_eq_of_mem_set h with hold | rfl
    · exact Or.inl hold
    · exact Or.inr ⟨List.mem_of_getElem? hi, rfl⟩
  · exact Or.inl h

/-- A flight after a deed was there before, or it is one that had the deed
    left. -/
theorem mem_flights_act (i : Nat) (f : Flight) (h : f ∈ (t.act interval i).flights) :
    f ∈ t.flights ∨ ∃ deed rest, f.deeds = some rest ∧
      ⟨f.node, f.allowed, some (deed :: rest)⟩ ∈ t.flights := by
  unfold act at h
  split at h
  · -- Only the flight that acted is another one, and one that is over is gone.
    rename_i node allowed deed rest hi
    rcases List.mem_or_eq_of_mem_set h with hold | rfl
    · exact Or.inl hold
    · exact Or.inr ⟨deed, rest, rfl, List.mem_of_getElem? hi⟩
  · exact Or.inl (List.mem_of_mem_eraseIdx h)
  · exact Or.inl h

/-- The flights after an answer are those before, of which one may have got
    its deeds. -/
theorem flight_of_mem_hear (i : Nat) (answer : Option Payload) (elapsed : Nat) (f : Flight)
    (h : f ∈ (t.hear o interval i answer elapsed).flights) :
    ∃ g ∈ t.flights, f.node = g.node ∧ (g.OwnWrites → f.OwnWrites) := by
  rcases mem_flights_hear o interval t i answer elapsed f h with hold | ⟨hold, hdeeds⟩
  · exact ⟨f, hold, rfl, id⟩
  · refine ⟨_, hold, rfl, fun _ ds hds w hw => ?_⟩
    rw [← Option.some.inj (hdeeds.symm.trans hds)] at hw
    exact Exporter.value?_nodeName_of_mem_deeds o interval t.exporter f.node answer f.allowed
      elapsed w hw

/-- The flights after a deed are those before, of which one may have less left
    to do or may be over. -/
theorem flight_of_mem_act (i : Nat) (f : Flight) (h : f ∈ (t.act interval i).flights) :
    ∃ g ∈ t.flights, f.node = g.node ∧ (g.OwnWrites → f.OwnWrites) := by
  rcases mem_flights_act interval t i f h with hold | ⟨deed, rest, hdeeds, hold⟩
  · exact ⟨f, hold, rfl, id⟩
  · refine ⟨_, hold, rfl, fun hown ds hds w hw => ?_⟩
    rw [← Option.some.inj (hdeeds.symm.trans hds)] at hw
    exact hown (deed :: rest) rfl w (List.mem_cons_of_mem deed hw)

/-- A flight was there before a move, or the move is the tick that dispatched
    it from the snapshot. -/
theorem flight_of_mem_turn (move : Move) (f : Flight)
    (h : f ∈ (t.turn o interval move).flights) :
    (∃ g ∈ t.flights, f.node = g.node ∧ (g.OwnWrites → f.OwnWrites)) ∨
      ∃ allowed target, move = .tick allowed ∧ target ∈ t.exporter.snapshot ∧
        f = .dispatched allowed target := by
  cases move with
  | event ev => exact Or.inl ⟨f, h, rfl, id⟩
  | sweep listing =>
      refine Or.inl ⟨f, ?_, rfl, id⟩
      cases listing <;> exact h
  | tick allowed =>
      rcases List.mem_append.mp h with hold | hnew
      · exact Or.inl ⟨f, hold, rfl, id⟩
      · rcases List.mem_map.mp hnew with ⟨target, htarget, rfl⟩
        rw [dispatch_started] at htarget
        -- A tick starts a part of what the snapshot shows.
        exact Or.inr ⟨allowed, target, rfl, List.mem_of_mem_take htarget, rfl⟩
  | answer i answer elapsed =>
      exact Or.inl (flight_of_mem_hear o interval t i answer elapsed f h)
  | act i => exact Or.inl (flight_of_mem_act interval t i f h)

/-- No flight ever has something left to write for another node. -/
theorem ownWrites_run (moves : List Move) (h : ∀ f ∈ t.flights, f.OwnWrites) :
    ∀ f ∈ (t.run o interval moves).flights, f.OwnWrites := by
  -- By induction on the moves, from the states that they lead to.
  induction moves generalizing t with
  | nil => exact h
  | cons move rest ih =>
      refine ih (t.turn o interval move) fun f hf => ?_
      rcases flight_of_mem_turn o interval t move f hf with
        ⟨g, hg, -, hown⟩ | ⟨allowed, target, -, -, rfl⟩
      · exact hown (h g hg)
      · -- A flight that was just dispatched has nothing to write yet.
        exact fun ds hds => absurd hds (by simp [Flight.dispatched])

/-- Targets carry their names after any move. Only events and sweeps change targets. -/
theorem targetsNamed_turn (move : Move) (h : t.exporter.TargetsNamed) :
    (t.turn o interval move).exporter.TargetsNamed := by
  cases move with
  | event ev => exact h.nodeEvent o ev
  | sweep listing =>
      cases listing with
      | ok listed => exact h.removeStaleNodes listed
      | error _ => exact h
  | tick allowed => exact h
  | answer i answer elapsed =>
      rw [turn, exporter_hear]
      exact h
  | act i =>
      rw [turn, exporter_act]
      split
      · rename_i node deed _
        rw [Exporter.TargetsNamed, Exporter.targets_act]
        exact h
      · exact h

/-- By induction on the moves, each from the state that the one before has left. -/
theorem targetsNamed_run (moves : List Move) (h : t.exporter.TargetsNamed) :
    (t.run o interval moves).exporter.TargetsNamed := by
  induction moves generalizing t with
  | nil => exact h
  | cons move rest ih => exact ih _ (targetsNamed_turn o interval t move h)

/-- The node of a flight was tracked when a tick dispatched it. -/
theorem dispatched_of_mem_run (moves : List Move) (hnamed : t.exporter.TargetsNamed)
    (hnone : t.flights = []) (f : Flight) (hf : f ∈ (t.run o interval moves).flights) :
    ∃ early allowed late, moves = early ++ .tick allowed :: late ∧
      (t.run o interval early).exporter.targets.find? f.node ≠ none := by
  -- The run is taken apart at its end: either its last move dispatched the flight, or the
  -- flight was there before.
  induction moves using List.reverseRecOn generalizing f with
  | nil =>
      have hf : f ∈ t.flights := hf
      rw [hnone] at hf
      exact absurd hf List.not_mem_nil
  | append_singleton moves last ih =>
      rw [run, List.foldl_append] at hf
      rcases flight_of_mem_turn o interval _ last f hf with
        ⟨g, hg, hnode, -⟩ | ⟨allowed, target, rfl, htarget, rfl⟩
      · rcases ih g hg with ⟨early, allowed, late, rfl, htracked⟩
        refine ⟨early, allowed, late ++ [last], by simp, ?_⟩
        rw [hnode]
        exact htracked
      · exact ⟨moves, allowed, [], rfl,
          (targetsNamed_run o interval t moves hnamed).tracked target htarget⟩

end Traffic

end StorageGauges
