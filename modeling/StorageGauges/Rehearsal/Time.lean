import StorageGauges.Rehearsal.Keeping

/-!
# Time Does Not Go Back

Only taking the next job from the agenda moves the time of a rehearsal, and it
moves it to when the job is due. What a job does then takes no time, so a wait
ends no earlier than it began.

## Theorems

* `Rehearsal.now_perform`: Work takes no time.
* `Rehearsal.now_le_next`, `Rehearsal.now_le_runWhile`: No job is done earlier
  than now.
* `Rehearsal.le_now_waitUntil`: A wait for a time lasts until that time.
-/

namespace StorageGauges

namespace Rehearsal

theorem now_startScrapes (run : Nat) (allowed : AllowList) (ticketed : Bool) (r : Rehearsal)
    (targets : List Target) : (startScrapes run allowed ticketed r targets).now = r.now := by
  induction targets generalizing r with
  | nil => rfl
  | cons t rest ih => exact ih _

theorem now_dispatch (r : Rehearsal) (run : Nat) (allowed : AllowList) (ticketed : Bool) :
    (r.dispatch run allowed ticketed).2.now = r.now :=
  now_startScrapes run allowed ticketed _ _

theorem now_endScrape (r : Rehearsal) (s : Scrape) (since : Nat) (answer : Option Payload) :
    (r.endScrape s since answer).now = r.now := by
  unfold endScrape keepOutcome
  dsimp only
  split <;> rfl

/-- Whatever holds of the time holds after the work of a loop. -/
theorem loopsKeep_now (Q : Nat → Prop) : LoopsKeep fun r => Q r.now where
  cluster _ h := h
  fail h := h
  markReady h := h
  later _ _ _ _ h := h
  dispatch run allowed ticketed h := by rwa [now_dispatch]
  endSweep domain _ _ h := by cases domain <;> exact h

/-- So it does after any work, for that of a scrape takes none either. -/
theorem workKeeps_now (Q : Nat → Prop) :
    WorkKeeps (fun r => Q r.now) (fun _ r => Q r.now) where
  toLoopsKeep := loopsKeep_now Q
  attempt _ _ h := h
  endScrape since answer _ h := by rwa [now_endScrape]
  loop _ h := h
  start _ h deadline := (loopsKeep_now Q).startOrWait _ deadline (fun _ => h) fun _ => h

/-- What comes later than some time is kept by time itself. -/
theorem timeKeeps_now (time : Nat) :
    TimeKeeps (fun r => time ≤ r.now) (fun _ r => time ≤ r.now) where
  toWorkKeeps := workKeeps_now (time ≤ ·)
  take _ h := Nat.le_trans h (Nat.le_max_left _ _)
  pass _ h := Nat.le_trans h (Nat.le_max_left _ _)

/-- Work takes no time. -/
theorem now_perform (r : Rehearsal) (t : Task) : (r.perform t).now = r.now :=
  (workKeeps_now (· = r.now)).perform (t := t) rfl

theorem now_le_next (r : Rehearsal) : r.now ≤ r.next.now :=
  (timeKeeps_now r.now).next (Nat.le_refl _)

theorem now_le_runWhile (test : Rehearsal → Job → Bool) (n : Nat) (r : Rehearsal) :
    r.now ≤ (runWhile test n r).now :=
  (timeKeeps_now r.now).runWhile (Nat.le_refl _) test n

/-- A wait for a time lasts until that time, also if it has come already. -/
theorem le_now_waitUntil (r : Rehearsal) (time : Nat) : time ≤ (r.waitUntil time).now := by
  unfold waitUntil
  split
  · exact Nat.le_max_right _ _
  · omega

end Rehearsal

end StorageGauges
