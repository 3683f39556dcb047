import StorageGauges.Proofs.Scrapes.Exits
import StorageGauges.Proofs.Settings.Startup

/-!
# What Is Left of an Interval

A scrape that was written ends with a subtraction: the milliseconds of the
interval less those that it took. Both numbers are cut to words of 64 bits with
a sign, and so is their difference. Cutting is remainders all the way, so the
outcome is the true difference cut once (`remainingTime_eq_bmod`), and it is the
true difference exactly as long as that fits a word.

The settings do not see to it. They accept every interval that fits a word of
seconds, and a thousand times such an interval need not fit one of milliseconds.
From 9223372036854776 seconds on the interval itself is cut. What comes of that
one is negative, so that every scrape is put on record as one that could not keep
up, however little time it took.

Below that nothing is cut, and the sign of the difference tells whether the scrape
took its whole interval. One number goes everywhere in any case: it is returned,
it is what the gauge shows, and it is on the record.

## Main definitions

* `FitsWord`: A number fits a word with a sign.
* `Duration.LeavesWhole`: The subtraction cuts nothing.
* `Settings.every`, `Settings.askingEvery`: Settings with some interval, and an
  environment that asks for it.

## Theorems

* `bmod_eq_self_iff`: The numbers that are not cut.
* `remainingTime_eq_bmod`, `remainingTime_eq_iff`: What is left, and when it is
  the true difference.
* `Duration.leavesWhole_iff`: When nothing is cut.
* `Duration.LeavesWhole.nonpos_iff`: Then the sign tells who was too slow.
* `Settings.bounds_scrapeInterval`: The intervals that are accepted.
* `accepted_remaining`: What is left of an accepted interval.
* `accepted_remaining_cut`: An accepted interval that is cut.
-/

namespace StorageGauges

/-- A number fits a word of 64 bits with a sign. -/
def FitsWord (n : Int) : Prop :=
  -2 ^ 63 ≤ n ∧ n < 2 ^ 63

instance (n : Int) : Decidable (FitsWord n) :=
  inferInstanceAs (Decidable (_ ∧ _))

/-- Cutting a number to a word changes it unless it fits one. -/
theorem bmod_eq_self_iff (n : Int) : n.bmod (2 ^ 64) = n ↔ FitsWord n := by
  -- The range of a word is the one that cutting leaves as it is.
  rw [Int.bmod_eq_iff (by decide), FitsWord]
  constructor
  · rintro ⟨hlow, hhigh, -⟩
    constructor <;> omega
  · intro hfits
    refine ⟨?_, ?_, ?_⟩
    · omega
    · omega
    · rw [Int.sub_self]
      exact Int.dvd_zero _

/-- A count becomes a word with a sign by being cut to 64 bits. -/
theorem toInt_word (n : Nat) : (Int64.ofNat n).toInt = (n : Int).bmod (2 ^ 64) :=
  Int64.toInt_ofNat'

/-- A count is cut unless it is below the greatest word with a sign. -/
theorem toInt_word_eq_iff (n : Nat) : (Int64.ofNat n).toInt = n ↔ n < 2 ^ 63 := by
  rw [toInt_word, bmod_eq_self_iff, FitsWord]
  omega

section Remaining

variable (interval : Duration) (elapsed : Nat)

/-- What is left is the true difference, cut once. -/
theorem remainingTime_eq_bmod :
    remainingTime interval elapsed = ((interval.milliseconds : Int) - elapsed).bmod (2 ^ 64) := by
  rw [remainingTime, Int64.toInt_sub, toInt_word, toInt_word, Int.bmod_sub_bmod,
    Int.sub_bmod_bmod]

/-- What is left is right exactly if the difference fits, whether or not the two
    numbers did. Errors in these can cancel out. -/
theorem remainingTime_eq_iff :
    remainingTime interval elapsed = (interval.milliseconds : Int) - elapsed ↔
      FitsWord ((interval.milliseconds : Int) - elapsed) := by
  rw [remainingTime_eq_bmod, bmod_eq_self_iff]

namespace Duration

/-- Nothing is cut on the way to what is left: not the interval, not the time
    that was taken, and not their difference. -/
structure LeavesWhole : Prop where
  length : (Int64.ofNat interval.milliseconds).toInt = interval.milliseconds
  taken : (Int64.ofNat elapsed).toInt = elapsed
  difference : remainingTime interval elapsed = (interval.milliseconds : Int) - elapsed

/-- Two words without a minus sign differ by a word, so it is enough that both
    numbers are such words. -/
theorem leavesWhole_iff :
    interval.LeavesWhole elapsed ↔ interval.milliseconds < 2 ^ 63 ∧ elapsed < 2 ^ 63 := by
  constructor
  · intro hwhole
    exact ⟨(toInt_word_eq_iff _).mp hwhole.length, (toInt_word_eq_iff _).mp hwhole.taken⟩
  · rintro ⟨hinterval, helapsed⟩
    -- The difference of two numbers that are not negative and fit is not too far below
    -- zero.
    have hfits : FitsWord ((interval.milliseconds : Int) - elapsed) := by
      constructor <;> omega
    exact
      { length := (toInt_word_eq_iff _).mpr hinterval
        taken := (toInt_word_eq_iff _).mpr helapsed
        difference := (remainingTime_eq_iff interval elapsed).mpr hfits }

variable {interval elapsed}

/-- Nothing is left exactly if the whole interval was taken. -/
theorem LeavesWhole.nonpos_iff (h : interval.LeavesWhole elapsed) :
    remainingTime interval elapsed ≤ 0 ↔ interval.milliseconds ≤ elapsed := by
  rw [h.difference]
  omega

end Duration

end Remaining

namespace Settings

variable {env : Environment} {s : Settings}

/-- The intervals that are accepted are the seconds that fit a word, none of
    them zero. -/
theorem bounds_scrapeInterval (h : ofEnvironment env = .ok s) :
    1 ≤ s.scrapeInterval ∧ s.scrapeInterval ≤ greatestWord := by
  have hin := (ofEnvironment_eq_ok_iff.mp h).1
  exact ⟨scrapeInterval_pos env s h,
    Environment.le_of_read?_natural (by decide) hin.scrapeInterval⟩

/-- An accepted interval is not cut when it becomes a duration. -/
theorem milliseconds_accepted (h : ofEnvironment env = .ok s) :
    s.schedule.interval.milliseconds = 1000 * s.scrapeInterval := by
  rw [milliseconds_schedule, Nat.min_eq_left (bounds_scrapeInterval h).2]

theorem seconds_accepted (h : ofEnvironment env = .ok s) :
    s.schedule.interval.seconds = s.scrapeInterval :=
  Duration.seconds_ofSeconds s.scrapeInterval (bounds_scrapeInterval h).2

/-- Settings for one node with some interval. -/
def every (seconds : Nat) : Settings :=
  { ofNode "local" with scrapeInterval := seconds }

/-- An environment that asks for some interval. -/
def askingEvery (seconds : String) : Environment :=
  [("CURRENT_NODE_NAME", "local"), ("SCRAPE_INTERVAL", seconds)]

end Settings

/-- What is left of an accepted interval after a scrape that was written: one
    number is returned, is what the gauge shows, and is on the record of a scrape
    that could not keep up, if there is one. It is the interval less the time
    taken exactly as long as this difference fits a word with a sign. Nothing at
    all is cut on the way exactly if the interval has no more than
    9223372036854775 seconds and the time taken fits such a word; then a scrape
    is put on record exactly if it took its whole interval. -/
theorem accepted_remaining (env : Settings.Environment) (s : Settings)
    (h : Settings.ofEnvironment env = .ok s) (o : Options) (e : Exporter) (node : String)
    (payload : Payload) (summary : Summary) (hread : Summary.parse? payload = some summary)
    (allowed : AllowList) (elapsed : Nat) :
    let interval := s.schedule.interval
    let difference : Int := 1000 * s.scrapeInterval - elapsed
    let remaining := remainingTime interval elapsed
    let late := e.finishScrape o interval node (some payload) allowed elapsed
    let lag : Record :=
      { component := Health.scheduler, event := .pollingLag node remaining s.scrapeInterval }
    (1 ≤ s.scrapeInterval ∧ s.scrapeInterval ≤ greatestWord ∧
      interval.milliseconds = 1000 * s.scrapeInterval) ∧
    Exporter.scrapeOutcome interval (some payload) allowed elapsed =
      .recorded (processed summary allowed).written remaining ∧
    (o.features.adjustedPollingRate = true →
      late.store.get? (pollingRate node) = some (Float.ofInt remaining)) ∧
    late.records = e.records ++ (if remaining ≤ 0 then [lag] else []) ∧
    (remaining = difference ↔ FitsWord difference) ∧
    (interval.LeavesWhole elapsed ↔ s.scrapeInterval ≤ 9223372036854775 ∧ elapsed < 2 ^ 63) ∧
    (s.scrapeInterval ≤ 9223372036854775 → elapsed < 2 ^ 63 →
      remaining = difference ∧ (remaining ≤ 0 ↔ 1000 * s.scrapeInterval ≤ elapsed)) := by
  intro interval difference remaining late lag
  rcases Settings.bounds_scrapeInterval h with ⟨hpos, hword⟩
  have hms : interval.milliseconds = 1000 * s.scrapeInterval := Settings.milliseconds_accepted h
  have hdifference : difference = (interval.milliseconds : Int) - elapsed := by
    show (1000 * s.scrapeInterval : Int) - elapsed = (interval.milliseconds : Int) - elapsed
    rw [hms]
    omega
  -- In whole seconds the greatest interval is the greatest word over a thousand.
  have hwhole : interval.LeavesWhole elapsed ↔
      s.scrapeInterval ≤ 9223372036854775 ∧ elapsed < 2 ^ 63 := by
    rw [Duration.leavesWhole_iff, hms]
    omega
  -- What the scrape leaves is known for any interval; here it is one of whole seconds.
  rcases e.finishScrape_written o interval node allowed elapsed hread with
    ⟨hindex, hshown, -, hrecords⟩
  rw [Settings.seconds_accepted h] at hrecords
  -- The series is live once it is shown, and it shares its own gauge.
  have hgauge : o.features.adjustedPollingRate = true →
      late.store.get? (pollingRate node) = some (Float.ofInt remaining) := fun hon =>
    hshown hon _ ((hindex _).mpr (Or.inr ⟨hon, rfl⟩)) (Series.sharesGauge_self _)
  refine ⟨⟨hpos, hword, hms⟩, ?_, hgauge, hrecords, ?_, hwhole, ?_⟩
  · simp only [Exporter.scrapeOutcome, hread, remaining]
  · rw [hdifference]
    exact remainingTime_eq_iff interval elapsed
  · intro hinterval helapsed
    have hleaves := hwhole.mpr ⟨hinterval, helapsed⟩
    refine ⟨hleaves.difference.trans hdifference.symm, ?_⟩
    rw [← hms]
    exact hleaves.nonpos_iff

/-- What a scrape of a node without pods leaves of an exporter that shows
    everything. -/
def Settings.lateAfter (s : Settings) (elapsed : Nat) : Exporter :=
  Exporter.finishScrape { s.options with features := .all } s.schedule.interval
    (.initial (.withComponents 0 [])) "local" (some [0x7B, 0x7D]) none elapsed

/-- A scrape that took twenty seconds of fifteen. -/
theorem accepted_remaining_late :
    Settings.ofEnvironment (Settings.askingEvery "15") = .ok (Settings.every 15) ∧
      Summary.parse? [0x7B, 0x7D] = some ⟨"", []⟩ ∧
      remainingTime (Settings.every 15).schedule.interval 20000 = -5000 ∧
      ((Settings.every 15).lateAfter 20000).store.get? (pollingRate "local") =
        some (Float.ofInt (-5000)) ∧
      ((Settings.every 15).lateAfter 20000).records =
        [{ component := Health.scheduler, event := .pollingLag "local" (-5000) 15 }] := by
  have haccepted : Settings.ofEnvironment (Settings.askingEvery "15") = .ok (Settings.every 15) :=
    Settings.ofEnvironment_of_convert? (by decide +kernel)
  rcases accepted_remaining (Settings.askingEvery "15") (Settings.every 15) haccepted
      { (Settings.every 15).options with features := .all } (.initial (.withComponents 0 []))
      "local" [0x7B, 0x7D] ⟨"", []⟩ parse?_noPods none 20000 with
    ⟨-, -, hgauge, hrecords, -, -, hexact⟩
  have hremaining : remainingTime (Settings.every 15).schedule.interval 20000 = -5000 :=
    (hexact (by decide) (by decide)).1
  rw [hremaining] at hgauge hrecords
  exact ⟨haccepted, parse?_noPods, hremaining, hgauge rfl, hrecords⟩

/-- An accepted interval that is cut: a scrape that took no time at all is put on
    record as one that could not keep up. -/
theorem accepted_remaining_cut :
    Settings.ofEnvironment (Settings.askingEvery "9223372036854776") =
        .ok (Settings.every 9223372036854776) ∧
      (Settings.every 9223372036854776).schedule.interval.milliseconds = 9223372036854776000 ∧
      Exporter.scrapeOutcome (Settings.every 9223372036854776).schedule.interval
          (some [0x7B, 0x7D]) none 0 = .recorded 0 (-9223372036854775616) ∧
      ((Settings.every 9223372036854776).lateAfter 0).store.get? (pollingRate "local") =
        some (-9223372036854775616.0) ∧
      ((Settings.every 9223372036854776).lateAfter 0).records =
        [{ component := Health.scheduler
           event := .pollingLag "local" (-9223372036854775616) 9223372036854776 }] :=
  ⟨Settings.ofEnvironment_of_convert? (by decide +kernel), by decide +kernel, by decide +kernel,
    by decide +kernel, by decide +kernel⟩

end StorageGauges
