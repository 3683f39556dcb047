import StorageGauges.Exporter.Process
import StorageGauges.Proofs.Gauge.Written
import StorageGauges.Proofs.Pods.Cache
import StorageGauges.Proofs.Run

/-!
# What Pod Sweeps Leave

A sweep of the pods compares a listing with the cache and never looks at the
series. A scrape writes series whether or not their pod is cached, and never
puts anything into the cache. So a series can belong to a pod that has no
entry, and then no sweep ever takes it, listed or not.

For every run it is told here which series of unlisted pods are live right
after a sweep: those that a scrape wrote while their pod had no entry, with no
running pod of that name seen since and none deleted. Anything else that
carries an unlisted name is gone.

The listing of a sweep is any list of names. It need not be what the cluster
holds when the sweep drops entries, so sweeps whose listing was taken long
before are runs of this kind too.

## Main definitions

* `PodStep`: A watch event, a payload that is written, or a sweep.
* `Exporter.podStep`, `Exporter.podRun`: A step and a run.
* `PodStep.BringsRunning`, `PodStep.Deletes`: What a step says of a pod.
* `Exporter.Loose`: A live series of a pod without an entry.
* `Exporter.WritesUncached`: A step that writes for a pod without an entry.
* `Exporter.WrittenUncached`: A run that did, and nothing has settled it since.

## Theorems

* `Exporter.loose_of_podEvent`, `Exporter.loose_podEvent`: What events do to
  loose series.
* `Exporter.loose_removeStalePods`: Sweeps do nothing to them.
* `Exporter.podStep_loosens`: Only a scrape makes a series loose.
* `Exporter.unsettled_of_loose`: What a step was not when a series is loose after.
* `Exporter.loose_podStep`: Steps that keep a series loose.
* `Exporter.loose_podRun_iff`: The loose series of a run.
* `Exporter.mem_index_podSweep_iff`: A sweep leaves the loose series.
-/

namespace StorageGauges

/-- A step of a run: a watch reports something about pods, a payload of some
    node is written, or a sweep drops what its listing lacks. -/
inductive PodStep
  | event (event : WatchEvent Pod)
  | scrape (node : String) (summary : Summary) (allowed : AllowList)
  | sweep (listing : Except ListError (List String))

namespace PodStep

/-- The step brings a running pod of some name. -/
def BringsRunning (name : String) : PodStep → Prop
  | event ev => ∃ p ∈ ev.arrivals, p.isRunning = true ∧ p.name = name
  | scrape .. => False
  | sweep _ => False

/-- The step says that a pod of some name was deleted. -/
def Deletes (name : String) : PodStep → Prop
  | event ev => ∃ p, ev.departure? = some p ∧ p.name = name
  | scrape .. => False
  | sweep _ => False

end PodStep

namespace Exporter

/-- A step is taken. A sweep whose listing failed drops nothing. -/
def podStep (o : Options) (e : Exporter) : PodStep → Exporter
  | .event ev => e.podEvent o ev
  | .scrape node summary allowed => e.process o node summary allowed
  | .sweep (.ok listed) => e.removeStalePods listed
  | .sweep (.error _) => e

/-- Steps are taken one after the other. -/
def podRun (o : Options) (e : Exporter) (steps : List PodStep) : Exporter :=
  steps.foldl (podStep o) e

/-- A live series of a pod that has no entry in the cache. -/
structure Loose (e : Exporter) (s : Series) (name : String) : Prop where
  live : s ∈ e.store.index
  uncached : e.profiles.find? name = none

/-- The step writes a series of a pod that has no entry. -/
def WritesUncached (o : Options) (e : Exporter) (s : Series) (name : String) (step : PodStep) :
    Prop :=
  ∃ node summary allowed, step = .scrape node summary allowed ∧ e.profiles.find? name = none ∧
    ∃ w ∈ summaryWrites o e node summary allowed, w.series = s

/-- The run wrote a series while its pod had no entry, and has seen neither a
    running pod of that name nor a deletion since. -/
def WrittenUncached (o : Options) (e : Exporter) (steps : List PodStep) (s : Series)
    (name : String) : Prop :=
  Since (podStep o) (fun x step => x.WritesUncached o s name step)
    (fun _ step => step.BringsRunning name ∨ step.Deletes name) e steps

variable (o : Options) (e : Exporter) (s : Series) (name : String)

/-- A series that a sweep leaves, of a pod that the sweep's listing lacks, was
    loose before. -/
theorem loose_of_removeStalePods (hs : s.value? .podName = some name) (listed : List String)
    (hlive : s ∈ (e.removeStalePods listed).store.index)
    (h : name ∉ listed ∨ (e.removeStalePods listed).profiles.find? name = none) :
    e.Loose s name := by
  refine ⟨((mem_index_removeStalePods e listed s).mp hlive).1, ?_⟩
  by_cases hlisted : name ∈ listed
  · rw [find?_profiles_removeStalePods, if_pos hlisted] at h
    exact h.resolve_left (not_not_intro hlisted)
  · -- A cached pod that is not listed loses its series with its entry.
    by_contra hcached
    exact not_mem_index_removeStalePods e listed s name hs hcached hlisted hlive

/-- No event makes a series loose. -/
theorem loose_of_podEvent (hs : s.value? .podName = some name) (ev : WatchEvent Pod)
    (h : (e.podEvent o ev).Loose s name) : e.Loose s name := by
  rcases h with ⟨hlive, huncached⟩
  rw [podEvent_eq] at hlive huncached
  cases hgone : ev.departure? with
  | none =>
      simp only [hgone] at hlive huncached
      rw [store_applyPods] at hlive
      rw [find?_profiles_applyPods_eq_none_iff] at huncached
      exact ⟨hlive, huncached.1⟩
  | some p =>
      simp only [hgone] at hlive huncached
      rw [mem_index_deletePod] at hlive
      -- The series is still live, so it is another pod that was deleted.
      have hname : name ≠ p.name := fun heq => hlive.2.1 (heq ▸ hs)
      rw [find?_profiles_deletePod, if_neg hname] at huncached
      exact ⟨hlive.1, huncached⟩

/-- An event that neither brings a running pod nor says that it is gone leaves
    its loose series, if they name no container. -/
theorem loose_podEvent (hs : s.value? .podName = some name)
    (hcontainer : s.value? .container = none) (ev : WatchEvent Pod) (h : e.Loose s name)
    (hbrings : ∀ p ∈ ev.arrivals, ¬ (p.isRunning = true ∧ p.name = name))
    (hdeletes : ∀ p, ev.departure? = some p → p.name ≠ name) :
    (e.podEvent o ev).Loose s name := by
  rcases h with ⟨hlive, huncached⟩
  rw [podEvent_eq]
  cases hgone : ev.departure? with
  | none =>
      refine ⟨?_, ?_⟩
      · rw [store_applyPods]
        exact hlive
      · rw [find?_profiles_applyPods_eq_none_iff]
        exact ⟨huncached, hbrings⟩
  | some p =>
      have hname : name ≠ p.name := fun heq => hdeletes p hgone heq.symm
      refine ⟨?_, ?_⟩
      · -- A series without a container is out of reach of all names of containers.
        rw [mem_index_deletePod, hs, hcontainer]
        refine ⟨hlive, fun heq => hname (Option.some.inj heq), fun c _ => ?_⟩
        simp only [ne_eq, reduceCtorEq, not_false_eq_true]
      · rw [find?_profiles_deletePod, if_neg hname]
        exact huncached

/-- A sweep leaves every loose series that names no container: a pod without
    an entry is not among those that are dropped. -/
theorem loose_removeStalePods (hs : s.value? .podName = some name)
    (hcontainer : s.value? .container = none) (listed : List String) (h : e.Loose s name) :
    (e.removeStalePods listed).Loose s name := by
  rcases h with ⟨hlive, huncached⟩
  refine ⟨?_, ?_⟩
  · rw [mem_index_removeStalePods, hs, hcontainer]
    refine ⟨hlive, fun entry hentry _ => ⟨fun heq => ?_, fun c _ => ?_⟩⟩
    · have hmem : name ∈ e.profiles.names := by
        rw [Option.some.inj heq]
        exact List.mem_map.mpr ⟨entry, hentry, rfl⟩
      exact (NameMap.mem_names_iff e.profiles name).mp hmem huncached
    · simp only [ne_eq, reduceCtorEq, not_false_eq_true]
  · rw [find?_profiles_removeStalePods, huncached]
    exact ite_self none

/-- Only a scrape makes a series loose, by writing it while its pod has no
    entry. -/
theorem podStep_loosens (hs : s.value? .podName = some name) (step : PodStep)
    (hbefore : ¬ e.Loose s name) (hafter : (e.podStep o step).Loose s name) :
    e.WritesUncached o s name step := by
  rcases hafter with ⟨hlive, huncached⟩
  cases step with
  | event ev => exact absurd (loose_of_podEvent o e s name hs ev ⟨hlive, huncached⟩) hbefore
  | scrape node summary allowed =>
      refine ⟨node, summary, allowed, rfl, huncached, ?_⟩
      -- A scrape leaves the cache as it is, so the series was loose before, or it is new.
      rcases (Store.mem_index_applyAll _ _ s).mp hlive with hold | hnew
      · exact absurd ⟨hold, huncached⟩ hbefore
      · exact hnew
  | sweep listing =>
      refine absurd ?_ hbefore
      cases listing with
      | ok listed => exact loose_of_removeStalePods e s name hs listed hlive (Or.inr huncached)
      | error _ => exact ⟨hlive, huncached⟩

/-- After a step that brings a running pod the pod has an entry, and after its
    deletion none of its series is live. -/
theorem unsettled_of_loose (hs : s.value? .podName = some name) (step : PodStep)
    (hafter : (e.podStep o step).Loose s name) :
    ¬ step.BringsRunning name ∧ ¬ step.Deletes name := by
  rcases hafter with ⟨hlive, huncached⟩
  cases step with
  | event ev =>
      simp only [podStep] at hlive huncached
      constructor
      · rintro ⟨p, hp, hrunning, rfl⟩
        exact find?_profiles_podEvent_ne_none o e ev p hp hrunning huncached
      · rintro ⟨p, hgone, hname⟩
        -- The deletion took all that has the name of the pod.
        rw [podEvent_eq, hgone, mem_index_deletePod] at hlive
        exact hlive.2.1 (hname ▸ hs)
  | scrape node summary allowed => exact ⟨id, id⟩
  | sweep listing => exact ⟨id, id⟩

/-- A loose series that names no container stays loose until a running pod of
    its name is seen or its pod is deleted. -/
theorem loose_podStep (hs : s.value? .podName = some name)
    (hcontainer : s.value? .container = none) (step : PodStep) (h : e.Loose s name)
    (hbrings : ¬ step.BringsRunning name) (hdeletes : ¬ step.Deletes name) :
    (e.podStep o step).Loose s name := by
  cases step with
  | event ev =>
      refine loose_podEvent o e s name hs hcontainer ev h ?_ ?_
      · exact fun p hp hrunning => hbrings ⟨p, hp, hrunning⟩
      · exact fun p hgone hname => hdeletes ⟨p, hgone, hname⟩
  | scrape node summary allowed =>
      exact ⟨(Store.mem_index_applyAll _ _ s).mpr (Or.inl h.live), h.uncached⟩
  | sweep listing =>
      cases listing with
      | error _ => exact h
      | ok listed => exact loose_removeStalePods e s name hs hcontainer listed h

/-- A write for a pod without an entry makes a loose series, and one that names
    no container. -/
theorem loose_of_writesUncached (hs : s.value? .podName = some name) (step : PodStep)
    (h : e.WritesUncached o s name step) :
    (e.podStep o step).Loose s name ∧ s.value? .container = none := by
  rcases h with ⟨node, summary, allowed, rfl, huncached, w, hw, rfl⟩
  exact ⟨⟨(Store.mem_index_applyAll _ _ _).mpr (Or.inr ⟨w, hw, rfl⟩), huncached⟩,
    value?_container_of_mem_summaryWrites o e node summary allowed w name hw hs huncached⟩

/-- What was written while its pod had no entry names no container, however long ago
    that was. So no sweep of another pod reaches it. -/
theorem value?_container_of_writtenUncached (hs : s.value? .podName = some name)
    (steps : List PodStep) (h : WrittenUncached o e steps s name) :
    s.value? .container = none := by
  rcases h with ⟨before, step, after, -, hwrites, -⟩
  exact (loose_of_writesUncached o _ s name hs step hwrites).2

/-- The loose series of a run that starts without series are those that it
    wrote while their pod had no entry. -/
theorem loose_podRun_iff (hempty : e.store.index = []) (hs : s.value? .podName = some name)
    (steps : List PodStep) :
    (e.podRun o steps).Loose s name ↔ WrittenUncached o e steps s name := by
  constructor
  · -- From the end of the run back to what made the series loose.
    refine since_of_holds (podStep o) _ _ e (fun x => x.Loose s name) steps ?_ ?_
    · intro hloose
      have hlive := hloose.live
      rw [hempty] at hlive
      exact absurd hlive List.not_mem_nil
    · intro before step hafter
      by_cases hbefore : (before.foldl (podStep o) e).Loose s name
      · have hstep := unsettled_of_loose o _ s name hs step hafter
        exact Or.inr ⟨hbefore, not_or.mpr hstep⟩
      · exact Or.inl (podStep_loosens o _ s name hs step hbefore hafter)
  · intro h
    have hcontainer := value?_container_of_writtenUncached o e s name hs steps h
    -- And forward from there, since it is known to name no container.
    refine holds_of_since (podStep o) _ _ e (fun x => x.Loose s name) steps ?_ ?_ h
    · exact fun x step hwrites => (loose_of_writesUncached o x s name hs step hwrites).1
    · intro x step hloose hends
      rw [not_or] at hends
      exact loose_podStep o x s name hs hcontainer step hloose hends.1 hends.2

/-- A sweep leaves exactly the loose ones among the series of a pod that its
    listing lacks. -/
theorem mem_index_podSweep_iff (hempty : e.store.index = [])
    (hs : s.value? .podName = some name) (steps : List PodStep) (listed : List String)
    (hlisted : name ∉ listed) :
    s ∈ ((e.podRun o steps).podStep o (.sweep (.ok listed))).store.index ↔
      (e.podRun o steps).Loose s name := by
  constructor
  · exact fun hlive => loose_of_removeStalePods _ s name hs listed hlive (Or.inl hlisted)
  · intro h
    have hwritten := (loose_podRun_iff o e s name hempty hs steps).mp h
    have hcontainer := value?_container_of_writtenUncached o e s name hs steps hwritten
    exact (loose_removeStalePods _ s name hs hcontainer listed h).live

end Exporter

/-- Right after a sweep a series of a pod that the listing lacks is live
    exactly if a scrape wrote it while its pod had no entry, and neither a
    running pod of its name nor a deletion has been seen since. -/
theorem live_after_podSweep_iff (o : Options) (health : Health.Registry) (steps : List PodStep)
    (listed : List String) (s : Series) (name : String) (hs : s.value? .podName = some name)
    (hlisted : name ∉ listed) :
    s ∈ (((Exporter.initial health).podRun o steps).podStep o (.sweep (.ok listed))).store.index ↔
      Exporter.WrittenUncached o (Exporter.initial health) steps s name := by
  -- A sweep is a last step, and it leaves what was loose before it.
  rw [Exporter.mem_index_podSweep_iff o _ s name rfl hs steps listed hlisted]
  exact Exporter.loose_podRun_iff o _ s name rfl hs steps

/-- A payload of a node on which one pod uses nothing. -/
def idlePod : Summary :=
  { nodeName := "node"
    pods := [{ name := "web", ns := "default", storage := .zero, volumes := [] }] }

/-- A pod that is scraped before it is seen running has a series that was
    written while the pod had no entry. -/
theorem writtenUncached_idlePod :
    Exporter.WrittenUncached .standard (Exporter.initial .empty) [.scrape "node" idlePod none]
      (.ofPod .podUsage "web" "default" "node") "web" :=
  (live_after_podSweep_iff .standard .empty [.scrape "node" idlePod none] []
    (.ofPod .podUsage "web" "default" "node") "web" rfl (by decide)).mp (by decide)

/-- The smallest run that leaves a series of a pod that was not listed. -/
theorem podSweep_leaves_uncached :
    ¬ ∀ (steps : List PodStep) (listed : List String) (s : Series) (name : String),
      s ∈ (((Exporter.initial .empty).podRun .standard steps).podStep .standard
        (.sweep (.ok listed))).store.index →
      s.value? .podName = some name → name ∈ listed := by
  intro h
  have hlive : Series.ofPod .podUsage "web" "default" "node" ∈
      (((Exporter.initial .empty).podRun .standard [.scrape "node" idlePod none]).podStep .standard
        (.sweep (.ok []))).store.index := by decide
  exact absurd (h _ _ _ "web" hlive rfl) List.not_mem_nil

end StorageGauges
