import StorageGauges.Proofs.Health.Collector
import StorageGauges.Proofs.Nodes.Flight
import StorageGauges.Proofs.Nodes.LastReady
import StorageGauges.Proofs.Pods.LastSeen

/-!
# What Happens to an Exporter

An exporter is told of nodes and of pods, its sweeps end and so do its scrapes,
in any order and as often as may be. A scrape can also be under way while other
things happen, and then its deeds come one by one. All of these together make a
run, about which the most general laws are stated: what no step of any component
breaks.

## Main definitions

* `Occurrence`: A step of some component.
* `Exporter.happen`, `Exporter.live`: A step and a run.

## Theorems

* `Exporter.scrape_eq_deeds`: A scrape at once is its deeds one by one.
-/

namespace StorageGauges

/-- What can happen to an exporter: it learns of nodes or of pods, a sweep ends
    and is reported, a scrape ends, or a scrape that is under way does one
    thing. -/
inductive Occurrence
  | nodes (step : NodeStep)
  | pods (step : CacheStep)
  | sweep (ended : EndedSweep)
  | scrape (node : String) (answer : Option Payload) (allowed : AllowList) (elapsed : Nat)
  | deed (node : String) (deed : Deed)

namespace Exporter

/-- Something happens. -/
def happen (o : Options) (interval : Duration) (e : Exporter) : Occurrence → Exporter
  | .nodes step => e.nodeStep o step
  | .pods step => e.cacheStep o step
  | .sweep ended => e.endSweep ended
  | .scrape node answer allowed elapsed =>
    e.finishScrape o interval node answer allowed elapsed
  | .deed node deed => e.act interval node deed

/-- One thing happens after the other. -/
def live (o : Options) (interval : Duration) (e : Exporter) (occurrences : List Occurrence) :
    Exporter :=
  occurrences.foldl (happen o interval) e

variable (o : Options) (interval : Duration) (e : Exporter)

/-- A scrape that ends at once does its deeds one by one. -/
theorem scrape_eq_deeds (node : String) (answer : Option Payload) (allowed : AllowList)
    (elapsed : Nat) :
    e.happen o interval (.scrape node answer allowed elapsed) =
      e.live o interval
        ((e.deeds o interval node answer allowed elapsed).map fun d => .deed node d) := by
  rw [happen, finishScrape_eq, live, List.foldl_map]
  rfl

end Exporter

end StorageGauges
