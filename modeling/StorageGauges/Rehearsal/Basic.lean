import StorageGauges.Exporter.Schedule
import StorageGauges.Exporter.Scrape
import StorageGauges.Exporter.Sweep
import StorageGauges.Rehearsal.Agenda
import StorageGauges.Rehearsal.Cluster
import StorageGauges.Rehearsal.Source
import StorageGauges.Settings.Basic

/-!
# Rehearsals

An exporter with a cluster and nodes to rehearse with. Time is counted in
milliseconds and moves only while everything waits, so a rehearsal is a
function of its steps, and hours of sweeping take no longer than the work in
them.

A rehearsal breaks when the exporter would: when a loop has to tick at an
interval of no time, or when a gauge is written under labels that it does not
have. Nothing that happens afterwards means anything.

## Main definitions

* `Setup`: What a rehearsal starts from.
* `Rehearsal`: An exporter with what it deals with.
* `Rehearsal.start?`: The beginning.
* `Rehearsal.later`: Puts down what goes on after a delay.
* `Rehearsal.dispatch`: A tick gives targets to workers.
-/

namespace StorageGauges

/-- What a rehearsal starts from. `retries` is set when queries go on until
    they succeed, and `clock` is the time of day in seconds. -/
structure Setup where
  options : Options
  schedule : Schedule
  sweeping : Sweeping
  initRetry : Duration
  components : List String
  retries : Bool
  clock : Int
deriving Repr

/-- An exporter with what it deals with: the cluster, the nodes' answers, the
    time and what is to be done. Every run of the loops has its own workers;
    those with number 0 belong to single ticks. The outcomes of scrapes with
    tickets are kept until somebody asks for them; pending are the tickets that
    were given out and not asked about. -/
structure Rehearsal where
  setup : Setup
  exporter : Exporter
  cluster : Rehearsal.Cluster
  source : Rehearsal.Source
  now : Nat
  agenda : Rehearsal.Agenda
  pools : List Pool
  tickets : Nat
  pending : List Nat
  outcomes : List (Nat × Outcome)
  allowed : AllowList
  nodesKnown : Bool
  podsKnown : Bool
  broken : Bool

namespace Rehearsal

/-- The beginning, if there can be so many workers. -/
def start? (s : Setup) : Option Rehearsal :=
  s.schedule.pool?.map fun pool =>
    { setup := s
      exporter := .initial (Health.Registry.withComponents s.clock s.components)
      cluster := .empty
      source := .empty
      now := 0
      agenda := []
      pools := [pool]
      tickets := 0
      pending := []
      outcomes := []
      allowed := none
      nodesKnown := false
      podsKnown := false
      broken := false }

/-- The time of day in seconds. -/
def clock (r : Rehearsal) : Int :=
  r.setup.clock + r.now / 1000

/-- Something happens to the exporter. -/
def change (r : Rehearsal) (f : Exporter → Exporter) : Rehearsal :=
  { r with exporter := f r.exporter }

/-- The exporter does what it cannot do. -/
def fail (r : Rehearsal) : Rehearsal :=
  { r with broken := true }

/-- Puts down what goes on after a delay. Without a delay nothing else comes
    in between. -/
def later (r : Rehearsal) (delay : Nat) (task : Task) : Rehearsal :=
  { r with
    agenda :=
      if delay = 0 then { due := r.now, task } :: r.agenda
      else r.agenda.insert { due := r.now + delay, task } }

/-- Puts down what goes on when its turn comes. -/
def spawn (r : Rehearsal) (task : Task) : Rehearsal :=
  { r with agenda := r.agenda.insert { due := r.now, task } }

/-- What scraping waits for is known: the nodes, and the pods where their
    profiles are used. -/
def isKnown (r : Rehearsal) : Bool :=
  let needsPods := r.setup.options.caching && r.setup.options.features.needsPodProfiles
  r.nodesKnown && (r.podsKnown || !needsPods)

/-- Loops that wait for it go on when what they wait for is known. -/
def announce (r : Rehearsal) : Rehearsal :=
  if r.isKnown then { r with agenda := r.agenda.wake r.now Task.isWaiting } else r

/-- The workers of a run. -/
def poolOf (r : Rehearsal) (run : Nat) : Pool :=
  (r.pools[run]?).getD (.ofSize 0)

/-- Changes the workers of a run. -/
def setPool (r : Rehearsal) (run : Nat) (pool : Pool) : Rehearsal :=
  { r with pools := r.pools.set run pool }

/-- How targets were given to workers: how many were, with the tickets of
    their scrapes, and how many were dropped. -/
structure Ticked where
  started : Nat
  dropped : Nat
  tickets : List Nat
deriving DecidableEq, Repr

/-- Starts scrapes, under tickets when they are to be asked about. -/
def startScrapes (run : Nat) (allowed : AllowList) (ticketed : Bool) (r : Rehearsal)
    (targets : List Target) : Rehearsal :=
  targets.foldl
    (fun r t =>
      let ticket := if ticketed then some r.tickets else none
      { r with tickets := r.tickets + 1 }.spawn (.scrape { node := t.name, allowed, run, ticket }))
    r

/-- A tick gives targets to the workers of a run. -/
def dispatch (r : Rehearsal) (run : Nat) (allowed : AllowList) (ticketed : Bool) :
    Ticked × Rehearsal :=
  let (d, pool) := StorageGauges.dispatch (r.poolOf run) r.exporter.snapshot
  let tickets := if ticketed then List.range' r.tickets d.started.length else []
  ({ started := d.started.length, dropped := d.dropped, tickets },
    startScrapes run allowed ticketed (r.setPool run pool) d.started)

end Rehearsal

end StorageGauges
