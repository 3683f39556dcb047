import StorageGauges.Exporter.Nodes
import StorageGauges.Exporter.Process
import StorageGauges.Stats.Query

/-!
# Scrapes

A scrape queries one node and writes what it answers. It ends in one of three
ways. A node that does not answer loses its series, and stays a target. A
payload that cannot be read changes nothing. Any other payload is written, and
with it how much of the interval was left.

What is left is counted in words of 64 bits, as the record and the gauge show
it.

## Main definitions

* `Outcome`: How a scrape ended.
* `remainingTime`: What is left of the interval.
* `Exporter.finishScrape`: A scrape ends.
* `Exporter.scrapeOutcome`: How it ended.
-/

namespace StorageGauges

/-- How a scrape ended. -/
inductive Outcome
  | recorded (written : Nat) (remaining : Int)
  | queryFailed
  | parseFailed
deriving DecidableEq, Repr

/-- The milliseconds that are left of an interval. -/
def remainingTime (interval : Duration) (elapsed : Nat) : Int :=
  (Int64.ofNat interval.milliseconds - Int64.ofNat elapsed).toInt

/-- The series of a node that shows what was left. -/
def pollingRate (node : String) : Series :=
  .ofNode .adjustedPollingRate node

namespace Exporter

/-- The component that reports on scrapes. -/
def scrapeLogger : String := Health.scheduler

/-- The series of a node that did not answer go. -/
def evictUnanswered (e : Exporter) (node : String) : Exporter :=
  let gone := e.store.evictNode node
  { e with store := gone.store }.log scrapeLogger
    (.nodeEvicted node gone.removed Cause.queryFailed.word)

/-- A scrape that took its whole interval is put on record. -/
def noteLag (interval : Duration) (e : Exporter) (node : String) (remaining : Int) : Exporter :=
  if remaining ≤ 0 then
    e.log scrapeLogger (.pollingLag node remaining interval.seconds)
  else e

/-- What was left of the interval is exposed. -/
def writeRemaining (o : Options) (e : Exporter) (node : String) (remaining : Int) : Exporter :=
  if o.features.adjustedPollingRate then
    { e with store := e.store.set (pollingRate node) (Float.ofInt remaining) }
  else e

/-- How a scrape ends, given what the node answered. -/
def scrapeOutcome (interval : Duration) (answer : Option Payload) (allowed : AllowList)
    (elapsed : Nat) : Outcome :=
  match answer with
  | none => .queryFailed
  | some payload =>
    match Summary.parse? payload with
    | none => .parseFailed
    | some summary =>
      .recorded (processed summary allowed).written (remainingTime interval elapsed)

/-- A scrape ends. -/
def finishScrape (o : Options) (interval : Duration) (e : Exporter) (node : String)
    (answer : Option Payload) (allowed : AllowList) (elapsed : Nat) : Exporter :=
  match answer with
  | none => e.evictUnanswered node
  | some payload =>
    match Summary.parse? payload with
    | none => e
    | some summary =>
      let remaining := remainingTime interval elapsed
      ((e.process o node summary allowed).noteLag interval node remaining).writeRemaining o node
        remaining

end Exporter

end StorageGauges
