import Mathlib.Data.List.Basic
import StorageGauges.Exporter.Sweep
import StorageGauges.Proofs.Nodes.Tracking
import StorageGauges.Proofs.Pods.Cache
import StorageGauges.Rehearsal.Work

/-!
# How the Collector Is

Nodes and pods are swept independently of each other, and a sweep of either
says of the one component that sweeps how it is. What is said replaces what was
said before, so the status is that of the sweep that ended last, whatever it
swept, with the error of that sweep or none.

The status tells of both kinds as long as their last sweeps ended alike: well,
and the collector is healthy, or badly, and it is degraded. Where they ended
differently the later one counts. A failure of one kind is seen until a sweep of
either kind succeeds.

## Main definitions

* `EndedSweep`: A sweep with how its listing went.
* `Exporter.endSweeps`: Sweeps end one after the other.
* `EndedSweep.lastOf?`: The last sweep of a kind.
* `Exporter.collector?`: What is known of the collector.

## Theorems

* `Exporter.health_endSweep`: A sweep of either kind reports to one component.
* `Exporter.collector?_endSweep`: What is known after one sweep.
* `EndedSweep.lastOf?_of_getLast?`: The last sweep of all is the last of its kind.
* `Rehearsal.exporter_endSweep`: Rehearsed sweeps end like this.
* `collector_follows_lastSweep`: How the collector is after any sweeps.
-/

namespace StorageGauges

/-- A sweep that has ended: of what, when, after how long, and with what
    listing. -/
structure EndedSweep where
  domain : Rehearsal.Domain
  now : Int
  elapsed : Nat
  listing : Except ListError (List String)

namespace EndedSweep

/-- The listing succeeded. -/
def succeeded (s : EndedSweep) : Bool :=
  s.listing.isOk

/-- The status that a sweep reports. -/
def status (s : EndedSweep) : Health.Status :=
  if s.succeeded then .healthy else .degraded

/-- The message that a sweep reports, if its listing failed. -/
def message? (s : EndedSweep) : Option String :=
  match s.listing, s.domain with
  | .ok _, _ => none
  | .error error, .nodes => some ("Node sweep failed: " ++ error.message)
  | .error error, .pods => some ("Pod sweep failed: " ++ error.message)

/-- The last sweep of a kind. -/
def lastOf? (domain : Rehearsal.Domain) (sweeps : List EndedSweep) : Option EndedSweep :=
  (sweeps.filter fun s => s.domain = domain).getLast?

/-- The last sweep of all is the last one of its kind. -/
theorem lastOf?_of_getLast? (sweeps : List EndedSweep) (last : EndedSweep)
    (h : sweeps.getLast? = some last) : lastOf? last.domain sweeps = some last := by
  rcases List.getLast?_eq_some_iff.mp h with ⟨before, rfl⟩
  have hlast : ([last].filter fun s => s.domain = last.domain) = [last] :=
    List.filter_eq_self.mpr fun s hs => by rw [List.mem_singleton.mp hs, decide_eq_true rfl]
  rw [lastOf?, List.filter_append, hlast, List.getLast?_concat]

end EndedSweep

namespace Exporter

variable (e : Exporter)

/-- A sweep ends. -/
def endSweep (e : Exporter) (s : EndedSweep) : Exporter :=
  match s.domain with
  | .nodes => e.finishNodeSweep s.now s.elapsed s.listing
  | .pods => e.finishPodSweep s.now s.elapsed s.listing

/-- Sweeps end one after the other. -/
def endSweeps (e : Exporter) (sweeps : List EndedSweep) : Exporter :=
  sweeps.foldl endSweep e

/-- What is known of the component that sweeps. -/
def collector? (e : Exporter) : Option Health.Component :=
  e.health.components.find? sweepLogger

/-- Its status, if it has one. -/
def collectorStatus? (e : Exporter) : Option Health.Status :=
  e.collector?.map (·.status)

/-- The removal of nodes is put on record and not reported as a status. -/
theorem health_removeStaleNodes (listed : List String) :
    (e.removeStaleNodes listed).health = e.health :=
  health_removeNodes e _ _

/-- Nor is the eviction of pods. -/
theorem health_removeStalePods (listed : List String) :
    (e.removeStalePods listed).health = e.health :=
  health_evictEntries { e with profiles := e.profiles.keep listed.contains } _

/-- A sweep of either kind reports to the one component that sweeps. -/
theorem health_endSweep (s : EndedSweep) :
    (e.endSweep s).health =
      e.health.update sweepLogger
        { status := s.status, message := s.message?, since := s.now } := by
  rcases s with ⟨domain, now, elapsed, error | names⟩
  · -- A listing that failed is reported, and nothing was removed.
    cases domain <;> rfl
  · have hreport : ∀ x : Exporter, x.health = e.health →
        x.health.setHealthy now sweepLogger = e.health.setHealthy now sweepLogger :=
      fun x hx => by rw [hx]
    cases domain with
    | nodes => exact hreport _ (health_removeStaleNodes e names)
    | pods => exact hreport _ (health_removeStalePods e names)

/-- What is known of the collector after a sweep has the status and the message
    of the sweep. -/
theorem collector?_endSweep (s : EndedSweep) :
    ∃ c, (e.endSweep s).collector? = some c ∧ c.status = s.status ∧ c.message = s.message? := by
  have hcollector := Health.Registry.find?_update e.health sweepLogger sweepLogger
    { status := s.status, message := s.message?, since := s.now }
  rw [if_pos rfl, ← health_endSweep] at hcollector
  refine ⟨_, hcollector, ?_⟩
  · unfold Health.Registry.merge
    split
    · -- The time may be that of an earlier sweep; status and message are those of this
      -- one.
      split
      · rename_i hsame
        exact ⟨hsame, rfl⟩
      · exact ⟨rfl, rfl⟩
    · exact ⟨rfl, rfl⟩

/-- After some sweeps the collector has the status and the message of the last
    one. -/
theorem collector?_endSweeps (sweeps : List EndedSweep) (last : EndedSweep)
    (h : sweeps.getLast? = some last) :
    ∃ c, (e.endSweeps sweeps).collector? = some c ∧ c.status = last.status ∧
      c.message = last.message? := by
  rcases List.getLast?_eq_some_iff.mp h with ⟨before, rfl⟩
  rw [endSweeps, List.foldl_append]
  exact collector?_endSweep _ last

end Exporter

namespace Rehearsal

/-- A rehearsed sweep ends at the time of the rehearsal. -/
theorem exporter_endSweep (r : Rehearsal) (domain : Domain) (since : Nat)
    (listing : Except ListError (List String)) :
    (r.endSweep domain since listing).exporter =
      r.exporter.endSweep { domain, now := r.clock, elapsed := r.now - since, listing } := by
  cases domain <;> rfl

end Rehearsal

/-- There are just two statuses that a sweep can report. -/
theorem EndedSweep.status_eq_iff (s : EndedSweep) :
    (s.status = .healthy ↔ s.succeeded = true) ∧ (s.status = .degraded ↔ s.succeeded = false) := by
  unfold status
  cases s.succeeded <;> decide

/-- Where the collector was healthy before some sweeps, it is so after them
    exactly if the last one succeeded, and it is degraded exactly if one failed
    and none has succeeded since, of whatever kind these were. It has the message
    of the last one. If the last sweeps of both kinds ended alike, the collector
    is as both of them say. -/
theorem collector_follows_lastSweep (e : Exporter) (hstart : e.collectorStatus? = some .healthy)
    (sweeps : List EndedSweep) :
    ((e.endSweeps sweeps).collectorStatus? = some .healthy ↔
        ∀ last, sweeps.getLast? = some last → last.succeeded = true) ∧
      ((e.endSweeps sweeps).collectorStatus? = some .degraded ↔
        ∃ before failed after, sweeps = before ++ failed :: after ∧ failed.succeeded = false ∧
          ∀ later ∈ after, later.succeeded = false) ∧
      (∀ last, sweeps.getLast? = some last →
        (e.endSweeps sweeps).collector?.bind (·.message) = last.message?) ∧
      ∀ outcome, sweeps ≠ [] →
        (∀ domain s, EndedSweep.lastOf? domain sweeps = some s → s.succeeded = outcome) →
          (e.endSweeps sweeps).collectorStatus? =
            some (if outcome then .healthy else .degraded) := by
  cases hlast : sweeps.getLast? with
  | none =>
      -- No sweep has ended, and the collector is as it was.
      rw [List.getLast?_eq_none_iff] at hlast
      subst hlast
      have hnone : (e.endSweeps []).collectorStatus? = some .healthy := hstart
      rw [hnone]
      refine ⟨iff_of_true rfl (by simp), iff_of_false (by simp) ?_, by simp, by simp⟩
      rintro ⟨before, failed, after, heq, -⟩
      exact absurd heq (by simp)
  | some last =>
      rcases e.collector?_endSweeps sweeps last hlast with ⟨c, hc, hstatus, hmessage⟩
      have hknown : (e.endSweeps sweeps).collectorStatus? = some last.status := by
        rw [Exporter.collectorStatus?, hc, Option.map_some, hstatus]
      rw [hknown, hc]
      simp only [Option.some.injEq, forall_eq', Option.bind_some]
      refine ⟨last.status_eq_iff.1, ?_, hmessage, fun outcome _ houtcome => ?_⟩
      · rw [last.status_eq_iff.2]
        constructor
        · intro hfailed
          rcases List.getLast?_eq_some_iff.mp hlast with ⟨before, rfl⟩
          exact ⟨before, last, [], rfl, hfailed, by simp⟩
        · rintro ⟨before, failed, after, rfl, hfailed, hafter⟩
          -- The last sweep is the one that failed, or came after it.
          rw [List.getLast?_append_cons] at hlast
          rcases List.mem_cons.mp (List.mem_of_getLast? hlast) with rfl | hlater
          · exact hfailed
          · exact hafter last hlater
      · have hlastOf := EndedSweep.lastOf?_of_getLast? sweeps last hlast
        rw [EndedSweep.status, houtcome last.domain last hlastOf]

/-- An exporter whose components have just begun. -/
def begunExporter : Exporter :=
  .initial (.withComponents 0 Health.components)

/-- A sweep of the nodes that could not list them. -/
def failedNodeSweep : EndedSweep :=
  { domain := .nodes, now := 60, elapsed := 0, listing := .error ⟨"refused"⟩ }

/-- A sweep of the pods that found none. -/
def emptyPodSweep : EndedSweep :=
  { domain := .pods, now := 61, elapsed := 0, listing := .ok [] }

/-- When the sweep that failed comes last the collector is degraded. -/
theorem collector_of_failedNodeSweep :
    begunExporter.collectorStatus? = some .healthy ∧
      (begunExporter.endSweeps [emptyPodSweep, failedNodeSweep]).collectorStatus? =
        some .degraded := by
  have hstart : begunExporter.collectorStatus? = some .healthy := by decide
  refine ⟨hstart, ?_⟩
  exact (collector_follows_lastSweep begunExporter hstart _).2.1.mpr
    ⟨[emptyPodSweep], failedNodeSweep, [], rfl, rfl, by simp⟩

/-- When the other one comes last the collector is healthy, although the last
    sweep of the nodes failed. -/
theorem collector_forgets_failure :
    ¬ ∀ sweeps : List EndedSweep,
      (begunExporter.endSweeps sweeps).collectorStatus? = some .healthy ↔
        ∀ domain s, EndedSweep.lastOf? domain sweeps = some s → s.succeeded = true := by
  intro h
  have hhealthy : (begunExporter.endSweeps [failedNodeSweep, emptyPodSweep]).collectorStatus? =
      some .healthy := by decide
  have hfailed := (h [failedNodeSweep, emptyPodSweep]).mp hhealthy .nodes failedNodeSweep rfl
  exact absurd hfailed (by decide)

end StorageGauges
