import StorageGauges.Proofs.Settings.Accepted
import StorageGauges.Rehearsal.Tick

/-!
# Starting with Accepted Settings

Accepted settings have to work. What an exporter starts with is a pool of
workers and a ticker for each of its loops, and none of them can be had from
every number: a ticker needs a period, and a pool is not larger than the most
workers there can be. The check of the settings refuses every interval that
would leave a loop without a period, and nothing else stops a ticker, since
spans that are too long are cut. It does not look at the number of workers, so
the settings that are accepted and cannot be started with are those that ask for
more workers than a pool can have.

## Main definitions

* `Launch`: What the loops start with.
* `Settings.launch?`: What they start with under some settings.
* `Settings.askingFor`, `Settings.withWorkers`: An environment that asks for a
  number of workers, and what it sets.

## Theorems

* `Settings.launch?_eq_none_iff`: The settings that cannot be started with.
* `Settings.refused_of_launch?_eq_none`: They are refused, as long as there are
  not too many workers.
* `Rehearsal.startTicking_of_launch?`, `Rehearsal.sweepOn_of_launch?`,
  `Rehearsal.startLoops_of_launch?`: Rehearsed loops start with just that.
* `Settings.accepted_launch`: What accepted settings start with.
-/

namespace StorageGauges

/-- What the loops start with: the workers, the ticker of the scrapes, and that
    of the sweeps where there are any. -/
structure Launch where
  pool : Pool
  scrapes : Ticker
  sweeps : Option Ticker
deriving DecidableEq, Repr

/-- Seconds beyond the longest span are cut, and what is left is no less than
    a second. -/
theorem Duration.milliseconds_ofSeconds_eq (n : Nat) :
    (ofSeconds n).milliseconds = 1000 * min n greatestWord := by
  have hword : ofSeconds n = ofSeconds (min n greatestWord) := by
    unfold ofSeconds
    rw [Nat.min_assoc, Nat.min_self]
  rw [hword, milliseconds_ofSeconds _ (Nat.min_le_right _ _)]

/-- Nothing is missing if every part was given. -/
theorem Part.firstMissing?_eq_none_iff (given : List Part) :
    Part.firstMissing? given = none ↔ ∀ p : Part, p ∈ given := by
  have hall (p : Part) : p ∈ Part.all := by cases p <;> decide
  unfold Part.firstMissing?
  simp [hall]

theorem Ticker.period_of_start? {interval : Duration} {now : Nat} {t : Ticker}
    (h : start? interval now = some t) : t.period = interval.milliseconds := by
  unfold start? at h
  split at h
  · rw [← Option.some.inj h]
  · exact absurd h (by simp)

namespace Settings

variable (s : Settings) (now : Nat)

/-- The ticker of the sweeps, if they can have one. Without sweeps they need
    none. -/
def sweepTicker? : Option (Option Ticker) :=
  if s.sweeps then (Ticker.start? s.sweeping.interval now).map some else some none

/-- What the loops start with at some time, if each of them can start. -/
def launch? : Option Launch := do
  let pool ← s.schedule.pool?
  let scrapes ← Ticker.start? s.schedule.interval now
  let sweeps ← s.sweepTicker? now
  some { pool, scrapes, sweeps }

/-- There is a pool unless more workers are asked for than it can have. -/
theorem pool?_schedule :
    s.schedule.pool? =
      if s.workers ≤ Schedule.mostWorkers then some (.ofSize (max 1 s.workers)) else none := by
  -- One worker at least is made sure of twice, which matters only for none.
  have hsize : max s.schedule.workers 1 = max 1 s.workers := by
    show max (max s.workers 1) 1 = max 1 s.workers
    omega
  unfold Schedule.pool?
  rw [hsize]
  by_cases hfits : s.workers ≤ Schedule.mostWorkers
  · rw [if_pos hfits, if_pos (Nat.max_le.mpr ⟨by decide, hfits⟩)]
  · rw [if_neg hfits, if_neg fun h => hfits (Nat.max_le.mp h).2]

theorem milliseconds_schedule :
    s.schedule.interval.milliseconds = 1000 * min s.scrapeInterval greatestWord := by
  have hinterval : s.schedule.interval = .ofSeconds s.scrapeInterval := rfl
  rw [hinterval, Duration.milliseconds_ofSeconds_eq]

theorem milliseconds_sweeping :
    s.sweeping.interval.milliseconds = 1000 * min (60 * s.sweepInterval) greatestWord := by
  have hinterval : s.sweeping.interval = .ofSeconds (s.sweepInterval * 60) := rfl
  rw [hinterval, Duration.milliseconds_ofSeconds_eq, Nat.mul_comm s.sweepInterval]

/-- Scrapes cannot be started without an interval. -/
theorem start?_schedule_eq_none_iff :
    Ticker.start? s.schedule.interval now = none ↔ s.scrapeInterval = 0 := by
  rw [Ticker.start?_eq_none_iff, milliseconds_schedule]
  unfold greatestWord
  omega

/-- Neither can sweeps, where there are to be any. -/
theorem sweepTicker?_eq_none_iff :
    s.sweepTicker? now = none ↔ s.sweeps = true ∧ s.sweepInterval = 0 := by
  have hstart : Ticker.start? s.sweeping.interval now = none ↔ s.sweepInterval = 0 := by
    rw [Ticker.start?_eq_none_iff, milliseconds_sweeping]
    unfold greatestWord
    omega
  unfold sweepTicker?
  split <;> rename_i hsweeps <;> simp [hsweeps, hstart]

theorem launch?_eq_some_iff (l : Launch) :
    s.launch? now = some l ↔
      s.schedule.pool? = some l.pool ∧ Ticker.start? s.schedule.interval now = some l.scrapes ∧
        s.sweepTicker? now = some l.sweeps := by
  simp only [launch?, Option.bind_eq_bind, Option.bind_eq_some_iff, Option.some.injEq]
  constructor
  · rintro ⟨pool, hpool, scrapes, hscrapes, sweeps, hsweeps, rfl⟩
    exact ⟨hpool, hscrapes, hsweeps⟩
  · rintro ⟨hpool, hscrapes, hsweeps⟩
    exact ⟨l.pool, hpool, l.scrapes, hscrapes, l.sweeps, hsweeps, rfl⟩

/-- The loops cannot start for too many workers or for the lack of an interval. -/
theorem launch?_eq_none_iff :
    s.launch? now = none ↔
      Schedule.mostWorkers < s.workers ∨ s.scrapeInterval = 0 ∨
        (s.sweeps = true ∧ s.sweepInterval = 0) := by
  rw [← start?_schedule_eq_none_iff s now, ← sweepTicker?_eq_none_iff s now, launch?,
    pool?_schedule]
  by_cases hfits : s.workers ≤ Schedule.mostWorkers
  · rw [if_pos hfits]
    have hnot : ¬ Schedule.mostWorkers < s.workers := Nat.not_lt.mpr hfits
    cases Ticker.start? s.schedule.interval now <;> cases s.sweepTicker? now <;> simp [hnot]
  · rw [if_neg hfits]
    simp [Nat.lt_of_not_le hfits]

variable {s now}

/-- Settings that cannot be started with are refused for their intervals. -/
theorem refused_of_launch?_eq_none {env : Environment} (hs : IsIn env s)
    (hfits : s.workers ≤ Schedule.mostWorkers) (h : s.launch? now = none) :
    ∃ e, ofEnvironment env = .error e := by
  cases hread : ofEnvironment env with
  | error e => exact ⟨e, rfl⟩
  | ok t =>
      rcases ofEnvironment_eq_ok_iff.mp hread with ⟨ht, hsound⟩
      have heq : t = s :=
        Option.some.inj ((convert?_eq_some_iff.mpr ht).symm.trans (convert?_eq_some_iff.mpr hs))
      rw [heq] at hsound
      rcases (fault?_eq_none_iff s).mp hsound with ⟨mode, _, _, hscrape, hsweep⟩
      rcases (launch?_eq_none_iff s now).mp h with hworkers | hzero | hzero
      · exact absurd hworkers (Nat.not_lt.mpr hfits)
      · exact absurd hzero hscrape
      · exact absurd hzero hsweep

/-- Accepted seconds are never cut. -/
theorem period_scrapes {env : Environment} (hs : IsIn env s) {l : Launch}
    (h : s.launch? now = some l) : l.scrapes.period = 1000 * s.scrapeInterval := by
  -- What is read as a word of 64 bits is no longer than the longest span.
  have hword : s.scrapeInterval ≤ greatestWord :=
    Environment.le_of_read?_natural (by decide) hs.scrapeInterval
  rw [Ticker.period_of_start? ((launch?_eq_some_iff s now l).mp h).2.1, milliseconds_schedule,
    Nat.min_eq_left hword]

/-- Accepted minutes are cut once they are seconds. -/
theorem period_sweeps {l : Launch} (h : s.launch? now = some l) :
    l.sweeps.map (·.period) =
      if s.sweeps then some (1000 * min (60 * s.sweepInterval) greatestWord) else none := by
  have hticker := ((launch?_eq_some_iff s now l).mp h).2.2
  unfold sweepTicker? at hticker
  split at hticker
  · rename_i hsweeps
    rcases Option.map_eq_some_iff.mp hticker with ⟨t, ht, heq⟩
    rw [if_pos hsweeps, ← heq, Option.map_some, Ticker.period_of_start? ht, milliseconds_sweeping]
  · rename_i hsweeps
    rw [if_neg hsweeps, ← Option.some.inj hticker]
    rfl

end Settings

namespace Rehearsal

variable {s : Settings} {r : Rehearsal} {l : Launch}

/-- The scraping loop ticks with the ticker that it starts with. -/
theorem startTicking_of_launch? (hschedule : r.setup.schedule = s.schedule)
    (h : s.launch? r.now = some l) (loop : ScrapeLoop) :
    r.startTicking loop = r.beginTick loop l.scrapes := by
  unfold startTicking
  rw [hschedule, ((Settings.launch?_eq_some_iff s r.now l).mp h).2.1]

/-- So does a sweeping loop, which takes its first tick for nothing. -/
theorem sweepOn_of_launch? (hsweeping : r.setup.sweeping = s.sweeping) (hsweeps : s.sweeps = true)
    (h : s.launch? r.now = some l) (loop : SweepLoop) (hstarting : loop.stage = .starting) :
    ∃ t, l.sweeps = some t ∧ r.sweepOn loop = r.rest loop (t.next r.now) := by
  have hticker := ((Settings.launch?_eq_some_iff s r.now l).mp h).2.2
  rw [Settings.sweepTicker?, if_pos hsweeps] at hticker
  rcases Option.map_eq_some_iff.mp hticker with ⟨t, ht, heq⟩
  have hstart : Ticker.start? r.setup.sweeping.interval r.now = some t := by rw [hsweeping, ht]
  refine ⟨t, heq.symm, ?_⟩
  unfold sweepOn
  simp only [hstarting, hstart]

/-- A run begins with the workers that it starts with. -/
theorem startLoops_of_launch? (hschedule : r.setup.schedule = s.schedule)
    (h : s.launch? r.now = some l) (sweeping : Bool) :
    r.startLoops sweeping =
      (r.loops sweeping).foldl spawn { r with pools := r.pools ++ [l.pool] } := by
  unfold startLoops
  rw [hschedule, ((Settings.launch?_eq_some_iff s r.now l).mp h).1]

end Rehearsal

namespace Settings

/-- Accepted settings that ask for no more workers than a pool can have start
    every loop at any time: with as many workers as they say and one at least,
    with scrapes every so many seconds, and with sweeps every so many minutes if
    there are to be any. If they ask for more there is no pool, although they
    were accepted. Settings that cannot be started with for any other reason are
    refused. -/
theorem accepted_launch (env : Environment) (s : Settings) (h : ofEnvironment env = .ok s)
    (given : List Part) (hgiven : ∀ p : Part, p ∈ given) (now : Nat) :
    Part.firstMissing? given = none ∧
      env.read? "max_node_concurrency" (Value.natural? greatestWord) 10 = some s.workers ∧
      (s.workers ≤ Schedule.mostWorkers →
        ∃ l, s.launch? now = some l ∧ l.pool = .ofSize (max 1 s.workers) ∧
          l.scrapes.period = 1000 * s.scrapeInterval ∧
          l.sweeps.map (·.period) =
            if s.sweeps then some (1000 * min (60 * s.sweepInterval) greatestWord) else none) ∧
      (Schedule.mostWorkers < s.workers → s.schedule.pool? = none) := by
  rcases ofEnvironment_eq_ok_iff.mp h with ⟨hs, _⟩
  refine ⟨(Part.firstMissing?_eq_none_iff given).mpr hgiven, hs.workers, fun hfits => ?_, ?_⟩
  · cases hlaunch : s.launch? now with
    | none =>
        -- What cannot start now has a fault, and these settings have none.
        rcases refused_of_launch?_eq_none hs hfits hlaunch with ⟨e, he⟩
        rw [h] at he
        exact absurd he (by simp)
    | some l =>
        have hpool := ((launch?_eq_some_iff s now l).mp hlaunch).1
        rw [pool?_schedule, if_pos hfits, Option.some.injEq] at hpool
        exact ⟨l, rfl, hpool.symm, period_scrapes hs hlaunch, period_sweeps hlaunch⟩
  · intro hmany
    rw [pool?_schedule, if_neg (Nat.not_le.mpr hmany)]

/-- Settings for one node that sweeps and has some workers. -/
def withWorkers (workers : Nat) : Settings :=
  { ofNode "local" with workers, sweeps := true }

/-- An environment that asks for so many workers. -/
def askingFor (workers : String) : Environment :=
  [("CURRENT_NODE_NAME", "local"), ("GC_ENABLED", "true"), ("MAX_NODE_CONCURRENCY", workers)]

/-- Whoever asks for no workers is given one. -/
theorem accepted_launch_idle :
    ∃ l, (withWorkers 0).launch? 7 = some l ∧ l.pool = .ofSize 1 ∧ l.scrapes.period = 15000 ∧
      l.sweeps.map (·.period) = some 300000 :=
  (accepted_launch (askingFor "0") (withWorkers 0) (ofEnvironment_of_convert? (by decide +kernel))
    Part.all (fun p => by cases p <;> decide) 7).2.2.1 (by decide)

/-- Settings that ask for more workers than a pool can have are accepted, and
    the exporter cannot be started with them. -/
theorem accepted_not_launched :
    ofEnvironment (askingFor "9223372036854775807") = .ok (withWorkers 9223372036854775807) ∧
      (withWorkers 9223372036854775807).schedule.pool? = none ∧
      (withWorkers 9223372036854775807).launch? 0 = none :=
  ⟨ofEnvironment_of_convert? (by decide +kernel), by decide, by decide⟩

end Settings

end StorageGauges
