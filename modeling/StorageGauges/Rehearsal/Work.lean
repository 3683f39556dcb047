import StorageGauges.Rehearsal.Basic

/-!
# What Goes On

One job at a time: a scrape fetches and writes, the scraping loop ticks, and
the sweeping loops sweep. Each job does what can be done at its time and puts
down what goes on later.

A scrape counts its time from when it begins, not from the tick that started
it. Where queries are retried a failed attempt is followed by the next one at
once. A worker is idle again when its scrape is over, however it ends.

## Main definitions

* `Rehearsal.perform`: A job is done.
* `Rehearsal.endScrape`: A scrape is over.
* `Rehearsal.beginTick`, `Rehearsal.endTick`: A tick of the scraping loop.
* `Rehearsal.endSweep`: A sweep is over.
* `Rehearsal.next`: The first job on the agenda is done.
-/

namespace StorageGauges

namespace Rehearsal

/-- An attempt of a scrape begins. -/
def attempt (r : Rehearsal) (s : Scrape) (since : Nat) : Rehearsal :=
  let attempt := r.source.attempt s.node
  { r with source := r.source.fetch s.node }.later attempt.delay
    (.answered s since attempt.answer)

/-- How a scrape ended is kept for those who ask. -/
def keepOutcome (r : Rehearsal) (s : Scrape) (outcome : Outcome) : Rehearsal :=
  match s.ticket with
  | some ticket => { r with outcomes := r.outcomes ++ [(ticket, outcome)] }
  | none => r

/-- A scrape is over. -/
def endScrape (r : Rehearsal) (s : Scrape) (since : Nat) (answer : Option Payload) : Rehearsal :=
  let interval := r.setup.schedule.interval
  let elapsed := r.now - since
  let outcome := Exporter.scrapeOutcome interval answer s.allowed elapsed
  let written := r.change fun e =>
    e.finishScrape r.setup.options interval s.node answer s.allowed elapsed
  (written.setPool s.run (r.poolOf s.run).release).keepOutcome s outcome

/-- A scrape gets an answer. -/
def hear (r : Rehearsal) (s : Scrape) (since : Nat) (answer : Answer) : Rehearsal :=
  match answer with
  | .ok payload => r.endScrape s since (some payload)
  | .error _ => if r.setup.retries then r.attempt s since else r.endScrape s since none

/-- A tick of the scraping loop ends: targets get their scrapes, and after the
    first tick the exporter is ready. -/
def endTick (r : Rehearsal) (l : ScrapeLoop) (ticker : Ticker)
    (listing : Except ListError (List String)) : Rehearsal :=
  let allowed := refreshNamespaces r.setup.schedule.selector l.allowed listing
  let (_, r) := r.dispatch l.run allowed false
  let r := if l.ticked then r else r.change fun e => e.report Health.Registry.markReady
  if l.ending then r
  else
    r.later (ticker.due - r.now)
      (.scrapeLoop { l with allowed, ticked := true, stage := .resting ticker })

/-- A tick of the scraping loop begins: the monitored namespaces are asked
    for, where there is a selector. -/
def beginTick (r : Rehearsal) (l : ScrapeLoop) (ticker : Ticker) : Rehearsal :=
  let ticker := ticker.next r.now
  match r.setup.schedule.selector with
  | none => r.endTick l ticker (.ok [])
  | some selector =>
    { r with cluster := r.cluster.called (.namespaces selector) }.later r.cluster.delay
      (.scrapeLoop { l with stage := .listing ticker })

/-- The scraping loop starts to tick. -/
def startTicking (r : Rehearsal) (l : ScrapeLoop) : Rehearsal :=
  match Ticker.start? r.setup.schedule.interval r.now with
  | some ticker => r.beginTick l ticker
  | none => r.fail

/-- The scraping loop starts when what it waits for is known, or when it has
    waited long enough. -/
def startOrWait (r : Rehearsal) (l : ScrapeLoop) (deadline : Nat) : Rehearsal :=
  if r.isKnown then (r.change fun e => e.becomeReady r.clock).startTicking l
  else if deadline ≤ r.now then (r.change fun e => e.startDegraded r.clock).startTicking l
  else r.later (deadline - r.now) (.scrapeLoop { l with stage := .waiting deadline })

/-- The scraping loop goes on. -/
def scrapeOn (r : Rehearsal) (l : ScrapeLoop) : Rehearsal :=
  match l.stage with
  | .starting => r.startOrWait l (r.now + r.setup.schedule.readinessTimeout.milliseconds)
  | .waiting deadline => r.startOrWait l deadline
  | .resting ticker => r.beginTick l ticker
  | .listing ticker =>
    let (listing, cluster) := r.cluster.answer Cluster.allNamespaces
    { r with cluster }.endTick l ticker listing

/-- A sweeping loop asks for a page. All nodes are one page. -/
def ask (r : Rehearsal) (l : SweepLoop) (ticker : Ticker) (since : Nat) (walk : Walk) :
    Rehearsal :=
  let call :=
    match l.domain with
    | .nodes => .nodes
    | .pods => .pods (walk.request r.setup.sweeping.batchSize)
  { r with cluster := r.cluster.called call }.later r.cluster.delay
    (.sweepLoop { l with stage := .listing ticker since walk })

/-- A sweeping loop rests until the next tick, or is over. -/
def rest (r : Rehearsal) (l : SweepLoop) (ticker : Ticker) : Rehearsal :=
  if l.ending then r
  else r.later (ticker.due - r.now) (.sweepLoop { l with stage := .resting ticker })

/-- A sweep is over. -/
def endSweep (r : Rehearsal) (domain : Domain) (since : Nat)
    (listing : Except ListError (List String)) : Rehearsal :=
  match domain with
  | .nodes => r.change fun e => e.finishNodeSweep r.clock (r.now - since) listing
  | .pods => r.change fun e => e.finishPodSweep r.clock (r.now - since) listing

/-- The names on the page that a sweep of nodes asked for. -/
def nodeNames (c : Cluster) : Except ListError (List String) :=
  c.allNodes.map fun ns => ns.map (·.name)

/-- The names on a page of pods. -/
def podNames (request : PageRequest) (c : Cluster) : Except ListError (Page String) :=
  (c.page request).map fun p => { items := p.items.map (·.name), next := p.next }

/-- A sweeping loop gets a page. -/
def turnPage (r : Rehearsal) (l : SweepLoop) (ticker : Ticker) (since : Nat) (walk : Walk) :
    Rehearsal :=
  match l.domain with
  | .nodes =>
    let (listing, cluster) := r.cluster.answer nodeNames
    ({ r with cluster }.endSweep l.domain since listing).rest l ticker
  | .pods =>
    let (page, cluster) :=
      r.cluster.answer (podNames (walk.request r.setup.sweeping.batchSize))
    let r := { r with cluster }
    match page with
    | .error error => (r.endSweep l.domain since (.error error)).rest l ticker
    | .ok page =>
      match walk.turn page with
      | .next walk => r.ask l ticker since walk
      | .finished names => (r.endSweep l.domain since (.ok names)).rest l ticker

/-- A sweeping loop goes on. It does not sweep at its first tick, which comes
    right after everything was listed. -/
def sweepOn (r : Rehearsal) (l : SweepLoop) : Rehearsal :=
  match l.stage with
  | .starting =>
    match Ticker.start? r.setup.sweeping.interval r.now with
    | some ticker => r.rest l (ticker.next r.now)
    | none => r.fail
  | .resting ticker => r.ask l (ticker.next r.now) r.now .start
  | .listing ticker since walk => r.turnPage l ticker since walk

/-- A task goes on. -/
def perform (r : Rehearsal) : Task → Rehearsal
  | .scrape s => r.attempt s r.now
  | .answered s since answer => r.hear s since answer
  | .scrapeLoop l => r.scrapeOn l
  | .sweepLoop l => r.sweepOn l

/-- The first job on the agenda is done, as soon as it is due. -/
def next (r : Rehearsal) : Rehearsal :=
  match r.agenda with
  | [] => r
  | job :: rest => { r with agenda := rest, now := max r.now job.due }.perform job.task

end Rehearsal

end StorageGauges
