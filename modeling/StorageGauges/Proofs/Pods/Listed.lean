import StorageGauges.Proofs.Gauge.Eviction
import StorageGauges.Proofs.Pods.Unswept

/-!
# What Pod Sweeps Take

The eviction of a pod deletes by label, family by family: first what has the
pod's name, then, one container after the other, what has a container's name.
All of it together is one deletion of the series that the entry reaches
(`Exporter.reaches`). A sweep evicts one entry after the other, and that is one
deletion again, whatever the order.

The names of containers are not particular to a pod. A series of a pod that
was listed is reached by the entry of an unlisted one if a container of the
latter has the name that the series carries. This is the only way in which a
sweep takes anything of a pod that was listed. The entries of listed pods stay
as they are.

What is read of the series that stay is what was read before, provided that
their gauges are their own: a gauge that a series shares with another goes
with either.

## Main definitions

* `Exporter.reaches`: A series goes with an entry.

## Theorems

* `Exporter.store_evictEntries`: The eviction of some entries is one deletion.
* `Exporter.store_removeStalePods`: So is a sweep.
* `Exporter.mem_index_removeStalePods_of_listed`: What a sweep takes of the
  pods that were listed.
* `Exporter.get?_removeStalePods`: The values of what it leaves.
-/

namespace StorageGauges

namespace Exporter

/-- A series goes when an entry is evicted: it has the name of the pod or of one
    of the containers in the profile. -/
def reaches (entry : String × PodProfile) (s : Series) : Bool :=
  s.matchesLabel .podName entry.1 || entry.2.containerNames.any (s.matchesLabel .container)

variable (e : Exporter)

/-- The eviction of some entries is one deletion. -/
theorem store_evictEntries (entries : List (String × PodProfile)) :
    (e.evictEntries entries).store =
      e.store.remove fun s => entries.any fun entry => reaches entry s := by
  induction entries generalizing e with
  | nil => exact (Store.remove_none e.store).symm
  | cons entry rest ih =>
      -- An eviction is told to the log as well, which the store does not see.
      have hrest := ih (e.evictPod entry.1 entry.2.containerNames .sweep)
      have hfirst : (e.evictPod entry.1 entry.2.containerNames .sweep).store =
          e.store.remove (reaches entry) :=
        congrArg Store.Eviction.store (e.store.evictPod_eq entry.1 entry.2.containerNames)
      rw [evictEntries] at hrest
      rw [evictEntries, List.foldl_cons, hrest, hfirst, Store.remove_remove]
      simp only [List.any_cons]

/-- A sweep deletes what the entries that its listing lacks reach. -/
theorem store_removeStalePods (listed : List String) :
    (e.removeStalePods listed).store =
      e.store.remove fun s => (e.stalePods listed).any fun entry => reaches entry s :=
  store_evictEntries { e with profiles := e.profiles.keep listed.contains } (e.stalePods listed)

/-- What survives of series that carry no name of an unlisted pod: those that
    carry no name of a container of an unlisted pod either. -/
theorem mem_index_removeStalePods_of_listed (listed : List String) (s : Series)
    (hs : ∀ name, s.value? .podName = some name → name ∈ listed) :
    s ∈ (e.removeStalePods listed).store.index ↔
      s ∈ e.store.index ∧ ∀ entry ∈ e.profiles, entry.1 ∉ listed →
        ∀ c ∈ entry.2.containerNames, s.value? .container ≠ some c := by
  -- Of what makes a series go only the containers are left.
  rw [mem_index_removeStalePods]
  refine and_congr_right fun _ => forall_congr' fun entry => ?_
  refine forall_congr' fun _ => forall_congr' fun hlisted => and_iff_right ?_
  -- The name of an entry that goes is not listed, so the series has another.
  exact fun hname => hlisted (hs entry.1 hname)

/-- A series that survives a sweep has its value, if its gauge is its own. -/
theorem get?_removeStalePods (listed : List String) (s : Series)
    (hlive : s ∈ (e.removeStalePods listed).store.index)
    (halone : ∀ t ∈ e.store.index, t.sharesGauge s = true → t = s) :
    (e.removeStalePods listed).store.get? s = e.store.get? s := by
  rw [store_removeStalePods] at hlive ⊢
  refine Store.get?_remove_of_apart _ _ s fun t ht htest => ?_
  rw [← Bool.not_eq_true]
  intro hshares
  -- What goes would be `s` itself, and `s` stays.
  have hts := halone t ht hshares
  have hstays := ((Store.mem_index_remove _ _ s).mp hlive).2
  rw [← hts, htest] at hstays
  exact absurd hstays (by simp only [Bool.true_eq_false, not_false_eq_true])

end Exporter

/-- After a sweep every pod that was listed has the entry it had. Of the series
    that carry no name of an unlisted pod those are still live that carry no
    name of a container in the profile of an unlisted one, and they have the
    value they had, unless another live series shares the gauge. -/
theorem podSweep_spares_listed (e : Exporter) (listed : List String) (s : Series)
    (hs : ∀ name, s.value? .podName = some name → name ∈ listed) :
    (∀ name ∈ listed,
        (e.removeStalePods listed).profiles.find? name = e.profiles.find? name) ∧
      (s ∈ (e.removeStalePods listed).store.index ↔
        s ∈ e.store.index ∧ ∀ entry ∈ e.profiles, entry.1 ∉ listed →
          ∀ c ∈ entry.2.containerNames, s.value? .container ≠ some c) ∧
      (s ∈ (e.removeStalePods listed).store.index →
        (∀ t ∈ e.store.index, t.sharesGauge s = true → t = s) →
          (e.removeStalePods listed).store.get? s = e.store.get? s) := by
  refine ⟨fun name hname => ?_, ?_, ?_⟩
  · rw [Exporter.find?_profiles_removeStalePods, if_pos hname]
  · exact Exporter.mem_index_removeStalePods_of_listed e listed s hs
  · exact Exporter.get?_removeStalePods e listed s

/-- A running pod with a container `app`, into which a temporary volume may be
    mounted. -/
def appPod (name : String) (mounts : List Pod.VolumeMount) : Pod :=
  { name
    ns := "default"
    phase := some Pod.runningPhase
    containers := [{ name := "app", limit := none, mounts }]
    volumes := [{ name := "cache", sizeLimit := none }] }

/-- A payload in which one pod uses some of its volume. -/
def cachingPod : Summary :=
  { nodeName := "node"
    pods :=
      [{ name := "web", ns := "default", storage := .zero,
         volumes := [{ name := "cache", available := 0.0, capacity := 0.0, used := 7.0 }] }] }

/-- Two pods have a container of the same name. One of them is scraped. -/
def namesakes : List PodStep :=
  [.event (.applied (appPod "old" [])),
    .event (.applied (appPod "web" [{ volume := "cache", path := "/cache" }])),
    .scrape "node" cachingPod none]

/-- When the other one is no longer listed, the usage of the pod that was
    scraped is still shown, with its value. -/
theorem podSweep_spares_usage :
    Series.ofPod .podUsage "web" "default" "node" ∈
        (((Exporter.initial .empty).podRun .standard namesakes).removeStalePods
          ["web"]).store.index ∧
      (((Exporter.initial .empty).podRun .standard namesakes).removeStalePods
          ["web"]).store.get? (.ofPod .podUsage "web" "default" "node") =
        ((Exporter.initial .empty).podRun .standard namesakes).store.get?
          (.ofPod .podUsage "web" "default" "node") := by
  have hspared := podSweep_spares_listed ((Exporter.initial .empty).podRun .standard namesakes)
    ["web"] (.ofPod .podUsage "web" "default" "node")
    (fun name hname => List.mem_singleton.mpr (Option.some.inj hname).symm)
  have hlive := hspared.2.1.mpr (by decide)
  exact ⟨hlive, hspared.2.2 hlive (by decide)⟩

/-- The figures of its container's volume are not: the other pod's container
    has the same name. -/
theorem podSweep_takes_namesake :
    ¬ ∀ (steps : List PodStep) (listed : List String) (s : Series) (name : String),
      s ∈ ((Exporter.initial .empty).podRun .standard steps).store.index →
      s.value? .podName = some name → name ∈ listed →
      s ∈ (((Exporter.initial .empty).podRun .standard steps).podStep .standard
        (.sweep (.ok listed))).store.index := by
  intro h
  have hgone : Series.ofVolume .containerVolumeUsage "web" "default" "node" "app" "cache" "/cache" ∉
      (((Exporter.initial .empty).podRun .standard namesakes).podStep .standard
        (.sweep (.ok ["web"]))).store.index := by decide
  exact hgone (h namesakes ["web"] _ "web" (by decide) rfl List.mem_cons_self)

end StorageGauges
