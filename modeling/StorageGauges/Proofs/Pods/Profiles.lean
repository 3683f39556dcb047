import StorageGauges.Proofs.Gauge.Written
import StorageGauges.Proofs.Pods.Cache
import StorageGauges.Proofs.Run

/-!
# Whose Limits a Sample Is Measured Against

A payload names pods by name and namespace. The cache keeps profiles by the
name alone, so where pods of two namespaces have one name they have one entry,
and the entry is that of the pod that was seen last. The samples of both are
written by it.

What the cache has after any number of watch events is told here from the
events: the profile of the last running pod of a name, unless a pod of that
name was deleted after that. A pod that is seen when it does not run counts
for nothing, neither for its own entry nor for that of another. From this
follows what a scrape writes for the containers of a sample and their volumes.

## Main definitions

* `LastRunning`: The last running pod of some kind that events bring.
* `Family.ofContainers`: The families whose series belong to containers.
* `Exporter.hearPod`: What news of one pod does.

## Theorems

* `Exporter.podEvents_eq_foldl_news`: Events are news of one pod after the other.
* `find?_profiles_iff_lastRunning`: What is cached after some events.
* `mem_sampleWrites_ofContainers_iff`: What a sample writes of containers.
* `mem_sampleWrites_podEvents_iff`: The same, from the events before it.
-/

namespace StorageGauges

/-- The pod is the last running one of some kind that events bring, and what
    they say after it is this. -/
structure LastRunning (kind : Pod → Prop) (events : List (WatchEvent Pod)) (p : Pod)
    (after : List (News Pod)) : Prop where
  seen : ∃ before, events.flatMap WatchEvent.news = before ++ .seen p :: after
  running : p.isRunning = true
  ofKind : kind p
  last : ∀ q, .seen q ∈ after → q.isRunning = true → ¬ kind q

namespace News

/-- The news make or replace the entry of a name, or drop it. -/
def Settles (name : String) : News Pod → Prop
  | seen p => p.isRunning = true ∧ p.name = name
  | gone p => p.name = name

end News

/-- The last running pod of a name that was not deleted since, as the step of a
    run that nothing has ended. -/
theorem lastRunning_iff_since (events : List (WatchEvent Pod)) (name : String) (p : Pod) :
    (∃ after, LastRunning (·.name = name) events p after ∧
        ∀ q, .gone q ∈ after → q.name ≠ name) ↔
      Since (fun _ _ => ()) (fun _ n => n = News.seen p ∧ n.Settles name)
        (fun _ n => n.Settles name) () (events.flatMap WatchEvent.news) := by
  rw [since_iff_last]
  constructor
  · rintro ⟨after, ⟨⟨before, hseen⟩, hrunning, hname, hlast⟩, hkept⟩
    refine ⟨before, .seen p, after, hseen, ⟨rfl, hrunning, hname⟩, fun later hlater => ?_⟩
    -- What was seen since did not run, and what went had another name.
    cases later with
    | seen q => exact fun h => hlast q hlater h.1 h.2
    | gone q => exact hkept q hlater
  · rintro ⟨before, step, after, hseen, ⟨rfl, hrunning, hname⟩, hends⟩
    refine ⟨after, ⟨⟨before, hseen⟩, hrunning, hname, fun q hq hrun hkind => ?_⟩, fun q hq => ?_⟩
    · exact hends _ hq ⟨hrun, hkind⟩
    · exact hends _ hq

namespace Exporter

variable (o : Options)

/-- News of one pod come. -/
def hearPod (e : Exporter) : News Pod → Exporter
  | .seen p => e.applyPod o p
  | .gone p => e.deletePod p

/-- An event is the news that it brings, one after the other. -/
theorem podEvent_eq_foldl_news (e : Exporter) (event : WatchEvent Pod) :
    e.podEvent o event = event.news.foldl (hearPod o) e := by
  cases event with
  | applied p => rfl
  | deleted p => rfl
  | restarted ps =>
      -- A restart brings the pods of its listing one by one.
      rw [WatchEvent.news, List.foldl_map]
      rfl

/-- So a run of events is a run of news, in which only their order matters. -/
theorem podEvents_eq_foldl_news (e : Exporter) (events : List (WatchEvent Pod)) :
    events.foldl (podEvent o) e = (events.flatMap WatchEvent.news).foldl (hearPod o) e := by
  induction events generalizing e with
  | nil => rfl
  | cons event rest ih =>
      rw [List.foldl_cons, ih, List.flatMap_cons, List.foldl_append, podEvent_eq_foldl_news]

/-- News that settle a name decide what is cached for it, and no other news
    matter to it. -/
theorem find?_profiles_hearPod (e : Exporter) (n : News Pod) (name : String)
    (profile : PodProfile) :
    (e.hearPod o n).profiles.find? name = some profile ↔
      (∃ p, (n = .seen p ∧ n.Settles name) ∧ p.profile? o.captured = some profile) ∨
        (e.profiles.find? name = some profile ∧ ¬ n.Settles name) := by
  cases n with
  | seen p =>
      rw [hearPod, find?_profiles_applyPod, News.Settles]
      by_cases hname : p.name = name
      · rw [if_pos hname.symm]
        by_cases hrunning : p.isRunning = true
        · -- The pod's own profile replaces whatever there was.
          have hprofile : p.profile? o.captured ≠ none :=
            fun hnone => absurd hrunning (Bool.eq_false_iff.mp
              ((profile?_eq_none_iff p o.captured).mp hnone))
          rw [Option.or_of_isSome (Option.isSome_iff_ne_none.mpr hprofile)]
          simp [hname, hrunning]
        · -- A pod that does not run leaves the entry of an earlier one.
          rw [(profile?_eq_none_iff p o.captured).mpr (Bool.eq_false_iff.mpr hrunning),
            Option.none_or]
          simp [hrunning]
      · rw [if_neg (Ne.symm hname)]
        simp [hname]
  | gone p =>
      rw [hearPod, find?_profiles_deletePod, News.Settles]
      -- A pod that is gone takes the entry of its name, and no other.
      by_cases hname : p.name = name
      · simp [hname]
      · simp [hname, Ne.symm hname]

/-- The profile that is cached for a name after some news. -/
theorem find?_profiles_foldl_hearPod (e : Exporter) (news : List (News Pod)) (name : String)
    (profile : PodProfile) (hnone : e.profiles.find? name = none) :
    (news.foldl (hearPod o) e).profiles.find? name = some profile ↔
      ∃ p, Since (fun _ _ => ()) (fun _ n => n = News.seen p ∧ n.Settles name)
          (fun _ n => n.Settles name) () news ∧ p.profile? o.captured = some profile := by
  induction news using List.reverseRecOn with
  | nil =>
      rw [List.foldl_nil, hnone]
      refine iff_of_false (by simp only [reduceCtorEq, not_false_eq_true]) ?_
      rintro ⟨p, hsince, -⟩
      exact not_since_nil _ _ _ () hsince
  | append_singleton news last ih =>
      -- The last news make the entry, or leave what the news before them made.
      rw [List.foldl_append, List.foldl_cons, List.foldl_nil, find?_profiles_hearPod, ih]
      simp only [since_snoc_iff]
      constructor
      · rintro (⟨p, hmakes, hp⟩ | ⟨⟨p, hsince, hp⟩, hends⟩)
        · exact ⟨p, Or.inl hmakes, hp⟩
        · exact ⟨p, Or.inr ⟨hsince, hends⟩, hp⟩
      · rintro ⟨p, hmakes | ⟨hsince, hends⟩, hp⟩
        · exact Or.inl ⟨p, hmakes, hp⟩
        · exact Or.inr ⟨⟨p, hsince, hp⟩, hends⟩

end Exporter

/-- What is cached after some events is the profile of the last running pod of
    the name, unless one of that name was deleted since. -/
theorem find?_profiles_iff_lastRunning (o : Options) (health : Health.Registry)
    (events : List (WatchEvent Pod)) (name : String) (profile : PodProfile) :
    (events.foldl (Exporter.podEvent o) (.initial health)).profiles.find? name = some profile ↔
      ∃ p after, LastRunning (·.name = name) events p after ∧
        (∀ q, .gone q ∈ after → q.name ≠ name) ∧ p.profile? o.captured = some profile := by
  rw [Exporter.podEvents_eq_foldl_news]
  rw [Exporter.find?_profiles_foldl_hearPod o (.initial health) _ name profile rfl]
  simp only [← lastRunning_iff_since]
  constructor
  · rintro ⟨p, ⟨after, hlast, hkept⟩, hprofile⟩
    exact ⟨p, after, hlast, hkept, hprofile⟩
  · rintro ⟨p, after, hlast, hkept, hprofile⟩
    exact ⟨p, ⟨after, hlast, hkept⟩, hprofile⟩

namespace Family

/-- The families whose series belong to containers. They are written by
    profiles and by nothing else. -/
def ofContainers : List Family :=
  [containerLimitPercentage, containerVolumeUsage, containerVolumeLimitPercentage]

/-- These families are the ones with a label for the container. -/
theorem mem_ofContainers_iff (f : Family) : f ∈ ofContainers ↔ Label.container ∈ f.labels := by
  cases f <;> decide

end Family

/-- Whether a write is of a container can be told from its labels. -/
theorem Write.Labelled.mem_ofContainers_iff {w : Write} {node : String}
    {pod container : Option String} (h : w.Labelled node pod container) :
    w.series.family ∈ Family.ofContainers ↔ container.isSome = true := by
  rw [Family.mem_ofContainers_iff, ← Series.value?_isSome_iff, h.container]

/-- What a sample writes of containers is what the cached profile makes of it. -/
theorem mem_sampleWrites_ofContainers_iff (o : Options) (e : Exporter) (node : String)
    (s : PodSample) (w : Write) :
    (w ∈ sampleWrites o e node s ∧ w.series.family ∈ Family.ofContainers) ↔
      ∃ profile, e.profileOf o s.name = some profile ∧
        ∃ c ∈ profile.containers, w ∈ containerWrites o.features node s c := by
  constructor
  · rintro ⟨hw, hfamily⟩
    simp only [sampleWrites, List.mem_append] at hw
    rcases hw with (hw | hw) | hw
    · -- What is written for the node, and for the pod, has no container.
      have hlabels := labelled_of_mem_nodeWrites o.features node s w hw
      exact absurd (hlabels.mem_ofContainers_iff.mp hfamily) Bool.false_ne_true
    · have hlabels := labelled_of_mem_podWrites o.features node s w hw
      exact absurd (hlabels.mem_ofContainers_iff.mp hfamily) Bool.false_ne_true
    · unfold profileWrites at hw
      split at hw
      · rename_i profile hprofile
        exact ⟨profile, hprofile, List.mem_flatMap.mp hw⟩
      · exact absurd hw List.not_mem_nil
  · rintro ⟨profile, hprofile, c, hc, hw⟩
    have hlabels := labelled_of_mem_containerWrites o.features node s c w hw
    refine ⟨?_, hlabels.mem_ofContainers_iff.mpr rfl⟩
    rw [sampleWrites, hprofile]
    exact List.mem_append_right _ (List.mem_flatMap.mpr ⟨c, hc, hw⟩)

/-- A sample is written with the cached profile, if some family needs one and there
    is a cache. -/
theorem profileOf_eq_some_iff (o : Options) (e : Exporter) (pod : String) (profile : PodProfile) :
    e.profileOf o pod = some profile ↔
      (o.features.needsPodProfiles && o.caching) = true ∧ e.profiles.find? pod = some profile := by
  unfold Exporter.profileOf
  split
  · rename_i hon
    exact (and_iff_right hon).symm
  · rename_i hoff
    exact iff_of_false (by simp only [reduceCtorEq, not_false_eq_true]) fun h => hoff h.1

/-- The containers of a profile are those of the pod, each cut down to what is
    captured. -/
theorem mem_containers_profile?_iff (p : Pod) (what : Pod.Captured) (hrunning : p.isRunning = true)
    (test : ContainerProfile → Prop) :
    (∃ profile, p.profile? what = some profile ∧ ∃ c ∈ profile.containers, test c) ↔
      ∃ c ∈ p.containers, test (p.containerProfile what c) := by
  rw [Pod.profile?, if_pos hrunning]
  constructor
  · rintro ⟨profile, hprofile, c, hc, htest⟩
    rw [← Option.some.inj hprofile] at hc
    rcases List.mem_map.mp hc with ⟨container, hcontainer, rfl⟩
    exact ⟨container, hcontainer, htest⟩
  · rintro ⟨container, hcontainer, htest⟩
    exact ⟨_, rfl, _, List.mem_map_of_mem hcontainer, htest⟩

/-- What a sample writes of containers after some events comes of the containers
    of the last running pod of its name, unless one of that name was deleted
    since. -/
theorem mem_sampleWrites_podEvents_iff (o : Options) (health : Health.Registry)
    (events : List (WatchEvent Pod)) (node : String) (s : PodSample) (w : Write) :
    (w ∈ sampleWrites o (events.foldl (Exporter.podEvent o) (.initial health)) node s ∧
        w.series.family ∈ Family.ofContainers) ↔
      (o.features.needsPodProfiles && o.caching) = true ∧
        ∃ p after, LastRunning (·.name = s.name) events p after ∧
          (∀ q, .gone q ∈ after → q.name ≠ s.name) ∧
            ∃ c ∈ p.containers,
              w ∈ containerWrites o.features node s (p.containerProfile o.captured c) := by
  rw [mem_sampleWrites_ofContainers_iff]
  -- The cache is what the events have made of it, and the rest is about one profile.
  simp only [profileOf_eq_some_iff, find?_profiles_iff_lastRunning]
  constructor
  · rintro ⟨profile, ⟨hon, p, after, hlast, hkept, hprofile⟩, hw⟩
    refine ⟨hon, p, after, hlast, hkept, ?_⟩
    exact (mem_containers_profile?_iff p o.captured hlast.running _).mp ⟨profile, hprofile, hw⟩
  · rintro ⟨hon, p, after, hlast, hkept, hw⟩
    -- The pod ran when it was seen, so there is a profile of it.
    rcases (mem_containers_profile?_iff p o.captured hlast.running
        (w ∈ containerWrites o.features node s ·)).mpr hw with ⟨profile, hprofile, hw⟩
    exact ⟨profile, ⟨hon, p, after, hlast, hkept, hprofile⟩, hw⟩

/-- What a scrape after some events writes of containers: for each sample that
    is not skipped, what comes of the containers of the last running pod of its
    name, in whatever namespace, unless one of that name was deleted since. -/
theorem mem_summaryWrites_ofContainers_iff (o : Options) (health : Health.Registry)
    (events : List (WatchEvent Pod)) (node : String) (summary : Summary) (allowed : AllowList)
    (w : Write) :
    (w ∈ summaryWrites o (events.foldl (Exporter.podEvent o) (.initial health)) node summary
        allowed ∧ w.series.family ∈ Family.ofContainers) ↔
      (o.features.needsPodProfiles && o.caching) = true ∧
        ∃ s ∈ summary.pods, s.isSkipped allowed = false ∧
          ∃ p after, LastRunning (·.name = s.name) events p after ∧
            (∀ q, .gone q ∈ after → q.name ≠ s.name) ∧
              ∃ c ∈ p.containers,
                w ∈ containerWrites o.features node s (p.containerProfile o.captured c) := by
  rw [mem_summaryWrites_iff]
  constructor
  · -- The sample that brought the write is the one that is meant on the other side.
    rintro ⟨⟨s, hs, hskipped, hw⟩, hfamily⟩
    rcases (mem_sampleWrites_podEvents_iff o health events node s w).mp ⟨hw, hfamily⟩ with
      ⟨hon, hlast⟩
    exact ⟨hon, s, hs, hskipped, hlast⟩
  · rintro ⟨hon, s, hs, hskipped, hlast⟩
    rcases (mem_sampleWrites_podEvents_iff o health events node s w).mpr ⟨hon, hlast⟩ with
      ⟨hw, hfamily⟩
    exact ⟨⟨s, hs, hskipped, hw⟩, hfamily⟩

/-- A running pod with one container, into which a temporary volume may be
    mounted. -/
def webPod (ns : String) (mounts : List Pod.VolumeMount) : Pod :=
  { name := "web"
    ns
    phase := some Pod.runningPhase
    containers := [{ name := "app", limit := none, mounts }]
    volumes := [{ name := "cache", sizeLimit := none }] }

/-- Pods of one name in two namespaces. Only the second mounts a volume. -/
def blueAndGreen : List (WatchEvent Pod) :=
  [.applied (webPod "blue" []),
    .applied (webPod "green" [{ volume := "cache", path := "/cache" }])]

/-- A payload with a sample of the pod that mounts nothing. -/
def blueSample : PodSample :=
  { name := "web", ns := "blue", storage := .zero,
    volumes := [{ name := "cache", available := 0.0, capacity := 0.0, used := 7.0 }] }

/-- A sample is not always written by the profile of the last running pod of
    its name and namespace. -/
theorem sample_written_by_namesake :
    ¬ ∀ (events : List (WatchEvent Pod)) (node : String) (summary : Summary) (w : Write),
      w ∈ summaryWrites .standard (events.foldl (Exporter.podEvent .standard) (.initial .empty))
        node summary none → w.series.family ∈ Family.ofContainers →
      ∃ s ∈ summary.pods, ∃ p after,
        LastRunning (fun q => q.name = s.name ∧ q.ns = s.ns) events p after ∧
          ∃ c ∈ p.containers, w ∈ containerWrites Options.standard.features node s
            (p.containerProfile Options.standard.captured c) := by
  intro h
  have hwritten :
      { series := .ofVolume .containerVolumeUsage "web" "blue" "node" "app" "cache" "/cache",
        value := 7.0 } ∈
        summaryWrites .standard
          (blueAndGreen.foldl (Exporter.podEvent .standard) (.initial .empty)) "node"
          { nodeName := "node", pods := [blueSample] } none :=
    List.mem_of_getElem? (i := 5) rfl
  rcases h blueAndGreen "node" { nodeName := "node", pods := [blueSample] } _ hwritten (by decide)
    with ⟨s, hs, p, after, hlast, c, hc, hw⟩
  rw [List.mem_singleton.mp hs] at hlast hw
  -- Of the two pods only the first has the namespace of the sample.
  have hp : p = webPod "blue" [] := by
    rcases hlast.seen with ⟨before, hseen⟩
    have hmem : News.seen p ∈ blueAndGreen.flatMap WatchEvent.news := by
      rw [hseen]
      exact List.mem_append_right before List.mem_cons_self
    have hns : p.ns = "blue" := hlast.ofKind.2
    rcases List.mem_cons.mp hmem with heq | hmem
    · exact News.seen.inj heq
    · rw [News.seen.inj (List.mem_singleton.mp hmem)] at hns
      exact absurd hns (by decide)
  rw [hp] at hc hw
  -- It mounts nothing, so only its limit is written.
  have hfamilies : (containerWrites Options.standard.features "node" blueSample
      ((webPod "blue" []).containerProfile Options.standard.captured c)).map (·.series.family) =
      [.containerLimitPercentage] := by
    rw [List.mem_singleton.mp hc]
    rfl
  have hfamily := List.mem_map_of_mem (f := (·.series.family)) hw
  rw [hfamilies] at hfamily
  exact absurd hfamily (by decide)

end StorageGauges
