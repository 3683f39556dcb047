import StorageGauges.Rehearsal.Wait

/-!
# Ticks and Runs

A tick gives every target to an idle worker and waits until all of its scrapes
are over; it can also be split into the dispatch and the wait. A run starts
the loops, lets something happen at given times, and at its end tells the
loops to end and waits for them. Scrapes that are under way then go on.

## Main definitions

* `Rehearsal.refresh`: The monitored namespaces are listed.
* `Rehearsal.begin`: Targets are given to workers, and nobody waits.
* `Rehearsal.tick`: Targets are given to workers, and their scrapes end.
* `Rehearsal.join`: All scrapes that were begun before end.
* `Rehearsal.awaitReady`: A step waits until nodes and pods are known.
* `Rehearsal.startLoops`, `Rehearsal.endLoops`: A run begins and ends.
-/

namespace StorageGauges

namespace Rehearsal

/-- The monitored namespaces are listed for later ticks, where there is a
    selector. -/
def refresh (r : Rehearsal) : Rehearsal :=
  match r.setup.schedule.selector with
  | none => { r with allowed := none }
  | some selector =>
    let (listing, r) := r.request (.namespaces selector) Cluster.allNamespaces
    { r with allowed := refreshNamespaces (some selector) r.allowed listing }

/-- Waits until the scrapes under some tickets are over, and takes away how
    they ended. -/
def collect (r : Rehearsal) (tickets : List Nat) : List Outcome × Rehearsal :=
  let r := r.waitUntilOver fun t => tickets.any t.holds
  let (mine, others) := r.outcomes.partition fun o => tickets.contains o.1
  (mine.map (·.2), { r with outcomes := others })

/-- Targets are given to workers, and nobody waits. -/
def begin (r : Rehearsal) : Ticked × Rehearsal :=
  let (t, r) := r.dispatch 0 r.allowed true
  (t, { r with pending := r.pending ++ t.tickets })

/-- Targets are given to workers, and their scrapes end. -/
def tick (r : Rehearsal) : Ticked × List Outcome × Rehearsal :=
  let (t, r) := r.dispatch 0 r.allowed true
  (t, r.collect t.tickets)

/-- All scrapes that were begun before end. -/
def join (r : Rehearsal) : List Outcome × Rehearsal :=
  { r with pending := [] }.collect r.pending

/-- A step waits until nodes and pods are known, or long enough. -/
def awaitReady (r : Rehearsal) : Bool × Rehearsal :=
  let r := if r.isKnown then r else r.waitFor r.setup.schedule.readinessTimeout.milliseconds
  if r.isKnown then (true, r.change fun e => e.becomeReady r.clock)
  else (false, r.change fun e => e.startDegraded r.clock)

/-- A loop that scrapes, before its start. -/
def newScrapeLoop (run : Nat) : Task :=
  .scrapeLoop { run, allowed := none, ticked := false, ending := false, stage := .starting }

/-- A loop that sweeps, before its start. -/
def newSweepLoop (run : Nat) (domain : Domain) : Task :=
  .sweepLoop { run, domain, ending := false, stage := .starting }

/-- The loops of a run. Pods are swept only where their profiles are used. -/
def loops (r : Rehearsal) (sweeping : Bool) : List Task :=
  let run := r.pools.length
  let sweeps :=
    if r.setup.options.caching then [newSweepLoop run .nodes, newSweepLoop run .pods]
    else [newSweepLoop run .nodes]
  newScrapeLoop run :: (if sweeping then sweeps else [])

/-- A run begins, with workers of its own. -/
def startLoops (r : Rehearsal) (sweeping : Bool) : Rehearsal :=
  match r.setup.schedule.pool? with
  | some pool => (r.loops sweeping).foldl spawn { r with pools := r.pools ++ [pool] }
  | none => r.fail

/-- The loops of a run are told to end, and do. That takes its turn after all
    that is due. -/
def endLoops (r : Rehearsal) (run : Nat) : Rehearsal :=
  { r with agenda := r.agenda.conclude run }.settle (Task.isLoopOf run)

end Rehearsal

end StorageGauges
