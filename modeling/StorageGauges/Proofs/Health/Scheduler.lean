import StorageGauges.Proofs.Scrapes.Namespaces

/-!
# How the Scheduler Is

The loop that scrapes waits for its signals once, before its first tick, and
says then how it is: healthy if all of them came in time, degraded if not. Nobody
says anything of it afterwards. No tick asks for the signals again, and whatever
else happens to the exporter reports about other components or none. So the wait
settles the status for good, and a schedule that has started degraded remains so
when the last signal comes.

A status that told how the signals are would be right at the same ticks as this
one, but for those that come after a signal that was late.

## Main definitions

* `AllCome`: All signals have come at a time.
* `Exporter.afterWait`: What a wait leaves the exporter with.
* `Scraping`: The loop that scrapes, from its first tick on.
* `Exporter.TellsSignals`: The status tells how the signals are.

## Theorems

* `allCome_iff`: All have come from the time of the last one on.
* `ready_waitAll_iff`: The waits that end well.
* `Exporter.scheduler?_happen`: No step of any component reports of the
  scheduler.
* `Scraping.scheduler?_run`: Nor does any run.
* `scheduler_as_wait_ended`: How the scheduler is at any tick.
-/

namespace StorageGauges

/-- All signals have come at a time, if each is given by the time at which it
    comes. -/
def AllCome (signals : List (Option Nat)) (time : Nat) : Prop :=
  ∀ s ∈ signals, ∃ t, s = some t ∧ t ≤ time

/-- All signals have come when the last has, and those before it have. -/
theorem allCome_snoc (signals : List (Option Nat)) (last : Option Nat) (time : Nat) :
    AllCome (signals ++ [last]) time ↔
      AllCome signals time ∧ ∃ t, last = some t ∧ t ≤ time := by
  unfold AllCome
  rw [List.forall_mem_append, List.forall_mem_singleton]

/-- The last one to come is the later of the last on the list and what came before
    it. -/
theorem lastSignal?_snoc (signals : List (Option Nat)) (last : Option Nat) :
    lastSignal? (signals ++ [last]) =
      (lastSignal? signals).bind fun a => last.map fun b => max a b := by
  unfold lastSignal?
  rw [List.foldl_append, List.foldl_cons, List.foldl_nil]
  cases signals.foldl _ (some 0) <;> cases last <;> rfl

/-- All signals have come from the time of the last one on. -/
theorem allCome_iff (signals : List (Option Nat)) (time : Nat) :
    AllCome signals time ↔ ∃ last, lastSignal? signals = some last ∧ last ≤ time := by
  -- By induction from the last signal, with the time that the others take.
  induction signals using List.reverseRecOn with
  | nil => exact iff_of_true (fun s hs => absurd hs List.not_mem_nil) ⟨0, rfl, Nat.zero_le time⟩
  | append_singleton signals last ih =>
      rw [allCome_snoc, lastSignal?_snoc, ih]
      cases lastSignal? signals with
      | none => simp
      | some a => cases last <;> simp

/-- The waits that end well: every signal comes before the time is over, or has
    come before the wait. -/
theorem ready_waitAll_iff (signals : List (Option Nat)) (timeout : Nat) :
    (waitAll signals timeout).ready = true ↔
      ∃ time, (time = 0 ∨ time < timeout) ∧ AllCome signals time := by
  have hready : (waitAll signals timeout).ready = true ↔
      ∃ last, lastSignal? signals = some last ∧ (last = 0 ∨ last < timeout) := by
    unfold waitAll
    cases lastSignal? signals with
    | none => simp
    | some last =>
        by_cases h : last = 0 ∨ last < timeout
        · rw [Option.filter_some, if_pos (by simpa using h)]
          simp [h]
        · rw [Option.filter_some, if_neg (by simpa using h)]
          simp [h]
  rw [hready]
  simp only [allCome_iff]
  constructor
  · rintro ⟨last, hlast, hearly⟩
    exact ⟨last, hearly, last, hlast, Nat.le_refl last⟩
  · rintro ⟨time, hearly, last, hlast, hle⟩
    exact ⟨last, hlast, by omega⟩

/-- A wait that ends well ends when all signals have come. -/
theorem allCome_of_ready (signals : List (Option Nat)) (timeout : Nat)
    (h : (waitAll signals timeout).ready = true) :
    AllCome signals (waitAll signals timeout).elapsed := by
  rw [allCome_iff]
  unfold waitAll at h ⊢
  -- The wait ended before its time was over, or it did not end well.
  split
  · rename_i last hlast
    exact ⟨last, (Option.filter_eq_some_iff.mp hlast).1, Nat.le_refl last⟩
  · rename_i hnone
    rw [hnone] at h
    exact absurd h (by simp)

theorem AllCome.mono {signals : List (Option Nat)} {early late : Nat} (h : AllCome signals early)
    (hle : early ≤ late) : AllCome signals late := by
  intro s hs
  rcases h s hs with ⟨t, ht, hearly⟩
  exact ⟨t, ht, Nat.le_trans hearly hle⟩

namespace Exporter

variable (o : Options) (interval : Duration) (e : Exporter)

/-- What is known of the component that scrapes. -/
def scheduler? (e : Exporter) : Option Health.Component :=
  e.health.components.find? Health.scheduler

/-- What a wait leaves the exporter with, at some time of day. -/
def afterWait (e : Exporter) (clock : Int) (w : Waited) : Exporter :=
  if w.ready then e.becomeReady clock else e.startDegraded clock

/-- The status that a wait leaves, with its message. -/
def waitStatus (w : Waited) : Health.Status × Option String :=
  if w.ready then (.healthy, none)
  else (.degraded, some "Started before initial population completed")

/-- The status tells how the signals are at a time: healthy when all of them
    have come, and degraded as long as one has not. -/
def TellsSignals (e : Exporter) (signals : List (Option Nat)) (time : Nat) : Prop :=
  (e.scheduler?.map (·.status) = some .healthy ↔ AllCome signals time) ∧
    (e.scheduler?.map (·.status) = some .degraded ↔ ¬ AllCome signals time)

/-- A wait leaves its status and message with the scheduler, whatever was known of
    it. -/
theorem scheduler?_afterWait (clock : Int) (w : Waited) :
    (e.afterWait clock w).scheduler?.map (fun c => (c.status, c.message)) =
      some (waitStatus w) := by
  have hupdate (c : Health.Component) :
      ((e.health.update Health.scheduler c).components.find? Health.scheduler).map
        (fun c => (c.status, c.message)) = some (c.status, c.message) := by
    rw [Health.Registry.find?_update, if_pos rfl, Option.map_some]
    unfold Health.Registry.merge
    split
    · split
      · rename_i hsame
        rw [hsame]
      · rfl
    · rfl
  unfold afterWait waitStatus
  split
  · exact hupdate _
  · exact hupdate _

/-- No deed of a scrape reports on any component. -/
theorem health_act (node : String) (deed : Deed) :
    (e.act interval node deed).health = e.health := by
  cases deed with
  | evict => rfl
  | write w => rfl
  | note remaining =>
      rw [act, noteLag]
      split <;> rfl

/-- Nor does a whole scrape. -/
theorem health_finishScrape (node : String) (answer : Option Payload) (allowed : AllowList)
    (elapsed : Nat) :
    (e.finishScrape o interval node answer allowed elapsed).health = e.health := by
  rw [finishScrape_eq]
  exact foldl_keeps Exporter.health _ e _ fun x deed _ => health_act interval x node deed

/-- Nor does anything that is heard of nodes. -/
theorem health_hearNode (r : Report Node) : (e.hearNode o r).health = e.health := by
  cases r with
  | news said =>
      cases said with
      | seen n =>
          rw [hearNode, applyNode]
          split <;> rfl
      | gone n => rfl
  | listed names => exact health_removeStaleNodes e names

/-- Nor does anything that is heard of pods. -/
theorem health_hearPodReport (r : Report Pod) : (e.hearPodReport o r).health = e.health := by
  cases r with
  | news said =>
      cases said with
      | seen p =>
          rw [hearPodReport, hearPod, applyPod]
          split <;> rfl
      | gone p => rfl
  | listed names => exact health_removeStalePods e names

/-- A sweep reports of the component that sweeps, which is another one. -/
theorem scheduler?_endSweep (ended : EndedSweep) :
    (e.endSweep ended).scheduler? = e.scheduler? := by
  have hother : Health.scheduler ≠ sweepLogger := by decide
  unfold scheduler?
  rw [health_endSweep, Health.Registry.find?_update, if_neg hother]

/-- No step of any component reports of the one that scrapes. -/
theorem scheduler?_happen (h : Occurrence) :
    (e.happen o interval h).scheduler? = e.scheduler? := by
  have hhealth {x : Exporter} (hx : x.health = e.health) : x.scheduler? = e.scheduler? := by
    rw [scheduler?, hx, scheduler?]
  -- Only a sweep reports anything, and of another component.
  cases h with
  | nodes step =>
      rw [happen, nodeStep_eq_foldl_reports]
      exact hhealth (foldl_keeps Exporter.health _ e _ fun x r _ => health_hearNode o x r)
  | pods step =>
      rw [happen, cacheStep_eq_foldl_reports]
      exact hhealth (foldl_keeps Exporter.health _ e _ fun x r _ => health_hearPodReport o x r)
  | sweep ended => exact scheduler?_endSweep e ended
  | scrape node answer allowed elapsed =>
      exact hhealth (health_finishScrape o interval e node answer allowed elapsed)
  | deed node deed => exact hhealth (health_act interval e node deed)

end Exporter

/-- The loop that scrapes, and whether it has ticked. -/
structure Scraping where
  loop : Monitoring
  ticked : Bool

namespace Scraping

/-- The loop has ended its wait, and no tick has come. -/
def begun (e : Exporter) (pool : Pool) : Scraping :=
  { loop := .begun e pool, ticked := false }

/-- The exporter. -/
def exporter (r : Scraping) : Exporter :=
  r.loop.traffic.exporter

/-- The exporter is ready from the first tick on. -/
def noteTick (r : Scraping) : Scraping :=
  if r.ticked then r
  else
    { loop :=
        { r.loop with
          traffic.exporter := r.exporter.report Health.Registry.markReady }
      ticked := true }

/-- Something comes. -/
def turn (o : Options) (s : Schedule) (r : Scraping) (t : Turn) : Scraping :=
  let turned := { r with loop := r.loop.turn o s t }
  match t with
  | .tick _ => turned.noteTick
  | _ => turned

/-- One comes after the other. -/
def run (o : Options) (s : Schedule) (r : Scraping) (turns : List Turn) : Scraping :=
  turns.foldl (turn o s) r

variable (o : Options) (s : Schedule) (r : Scraping)

/-- The first tick makes the exporter ready and says nothing of the scheduler. -/
theorem scheduler?_noteTick : r.noteTick.exporter.scheduler? = r.exporter.scheduler? := by
  unfold noteTick
  split <;> rfl

/-- No turn of the loop reports on the scheduler. -/
theorem scheduler?_turn (t : Turn) :
    (r.turn o s t).exporter.scheduler? = r.exporter.scheduler? := by
  cases t with
  | tick listing => exact scheduler?_noteTick { r with loop := r.loop.turn o s (.tick listing) }
  | answer i answer elapsed =>
      exact congrArg Exporter.scheduler? (Traffic.exporter_hear o s.interval _ i answer elapsed)
  | act i =>
      have hact := Traffic.exporter_act s.interval r.loop.traffic i
      show (r.loop.traffic.act s.interval i).exporter.scheduler? = _
      rw [hact]
      split
      · exact Exporter.scheduler?_happen o s.interval _ (.deed _ _)
      · rfl
  | other occurrence => exact Exporter.scheduler?_happen o s.interval _ occurrence

/-- No run reports of the component that scrapes. -/
theorem scheduler?_run (turns : List Turn) :
    (r.run o s turns).exporter.scheduler? = r.exporter.scheduler? :=
  foldl_keeps (fun x => x.exporter.scheduler?) (turn o s) r turns fun x t _ =>
    scheduler?_turn o s x t

end Scraping

/-- After a wait for any signals and any run from then on:

    The wait has ended well exactly if every signal came before its time was
    over, or before the wait.

    The scheduler is healthy if the wait has ended well, and degraded otherwise,
    whatever has come since.

    So at a tick its status tells how the signals are exactly if the wait has
    ended well or some signal has not come yet. -/
theorem scheduler_as_wait_ended (o : Options) (s : Schedule) (e : Exporter) (pool : Pool)
    (clock : Int) (signals : List (Option Nat)) (timeout : Nat) (turns : List Turn) :
    let w := waitAll signals timeout
    let after := ((Scraping.begun (e.afterWait clock w) pool).run o s turns).exporter
    (w.ready = true ↔ ∃ time, (time = 0 ∨ time < timeout) ∧ AllCome signals time) ∧
      after.scheduler?.map (fun c => (c.status, c.message)) = some (Exporter.waitStatus w) ∧
      ∀ time, w.elapsed ≤ time →
        (after.TellsSignals signals time ↔ w.ready = true ∨ ¬ AllCome signals time) := by
  intro w after
  -- What the wait says is the last word about the scheduler.
  have hstatus : after.scheduler?.map (fun c => (c.status, c.message)) =
      some (Exporter.waitStatus w) := by
    -- The run after the wait reports nothing of the scheduler.
    rw [Scraping.scheduler?_run]
    exact e.scheduler?_afterWait clock w
  refine ⟨ready_waitAll_iff signals timeout, hstatus, fun time htime => ?_⟩
  have hword : after.scheduler?.map (·.status) = some (Exporter.waitStatus w).1 := by
    rcases Option.map_eq_some_iff.mp hstatus with ⟨c, hc, hboth⟩
    rw [hc, Option.map_some, ← hboth]
  unfold Exporter.TellsSignals
  rw [hword]
  unfold Exporter.waitStatus
  -- Some signal had not come in time, and that is what the status says ever after.
  cases hready : w.ready with
  | true =>
      -- All signals had come when the wait ended.
      have hall : AllCome signals time := (allCome_of_ready signals timeout hready).mono htime
      simp [hall]
  | false => simp

/-- A signal that comes after the wait does not help: on a later tick all signals
    have come, and the scheduler is degraded. -/
theorem scheduler_remains_degraded :
    let w := waitAll [some 500] 100
    let after := ((Scraping.begun (begunExporter.afterWait 0 w) (.ofSize 1)).run .standard .standard
      [.tick (.ok []), .tick (.ok [])]).exporter
    AllCome [some 500] 1000 ∧ after.scheduler?.map (·.status) = some .degraded ∧
      ¬ after.TellsSignals [some 500] 1000 := by
  intro w after
  have hall : AllCome [some 500] 1000 := by
    intro s hs
    exact ⟨500, List.mem_singleton.mp hs, by decide⟩
  have hdegraded : after.scheduler?.map (·.status) = some .degraded := by decide
  exact ⟨hall, hdegraded, fun htells => htells.2.mp hdegraded hall⟩

end StorageGauges
