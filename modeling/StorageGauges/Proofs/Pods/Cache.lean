import StorageGauges.Exporter.Pods
import StorageGauges.Proofs.Gauge.Index
import StorageGauges.Proofs.Run
import StorageGauges.Proofs.Watched

/-!
# The Cache of Profiles Step by Step

What watch events and sweeps do to the two things that belong to a pod: its
entry in the cache and its live series. An object of a running pod makes or
replaces the entry and touches no series. A deletion drops the entry and the
series, and a sweep does so for every entry that its listing lacks.

An eviction takes two kinds of series: those with the pod's name, and those
with the name of one of its containers, whatever pod these belong to.

## Main definitions

* `Exporter.evictEntries`: The series of dropped entries go.

## Theorems

* `Exporter.podEvent_eq`: An event by what it brings.
* `Exporter.find?_profiles_applyPods_eq_none_iff`: When no entry is made.
* `Exporter.find?_profiles_podEvent_ne_none`,
  `Exporter.find?_profiles_podEvent_keeps`: An entry from its pod's arrival to
  its deletion.
* `Exporter.find?_profiles_removeStalePods`: A sweep keeps what is listed.
* `Exporter.mem_index_removeStalePods`: The series that survive a sweep.
-/

namespace StorageGauges

namespace Exporter

variable (o : Options) (e : Exporter)

/-- An event either takes a pod away or brings some, so two cases are enough for
    three kinds of events. -/
theorem podEvent_eq (event : WatchEvent Pod) :
    e.podEvent o event =
      match event.departure? with
      | some p => e.deletePod p
      | none => e.applyPods o event.arrivals := by
  cases event <;> rfl

theorem store_applyPod (p : Pod) : (e.applyPod o p).store = e.store := by
  unfold applyPod
  split <;> rfl

/-- Pods that are seen are cached. Their series come with the next scrape, not from
    here. -/
theorem store_applyPods (ps : List Pod) : (e.applyPods o ps).store = e.store :=
  foldl_keeps Exporter.store (applyPod o) e ps fun x p _ => store_applyPod o x p

/-- Whatever is captured, a pod has a profile exactly while it runs. -/
theorem profile?_eq_none_iff (p : Pod) (what : Pod.Captured) :
    p.profile? what = none ↔ p.isRunning = false := by
  unfold Pod.profile?
  cases p.isRunning <;> simp

/-- A name without an entry gets one only from a running pod of the name. -/
theorem find?_profiles_applyPod_eq_none_iff (p : Pod) (name : String) :
    (e.applyPod o p).profiles.find? name = none ↔
      e.profiles.find? name = none ∧ ¬ (p.isRunning = true ∧ p.name = name) := by
  rw [find?_profiles_applyPod]
  by_cases hname : name = p.name
  · rw [if_pos hname, Option.or_eq_none_iff, profile?_eq_none_iff]
    simp [hname, and_comm]
  · rw [if_neg hname]
    simp [Ne.symm hname]

/-- Nor does it get one from many pods, unless one of them is such a pod. -/
theorem find?_profiles_applyPods_eq_none_iff (ps : List Pod) (name : String) :
    (e.applyPods o ps).profiles.find? name = none ↔
      e.profiles.find? name = none ∧ ∀ p ∈ ps, ¬ (p.isRunning = true ∧ p.name = name) := by
  -- By induction on the pods; each is applied to what the ones before it have left.
  induction ps generalizing e with
  | nil => simp [applyPods]
  | cons p rest ih =>
      have h := ih (e.applyPod o p)
      rw [applyPods] at h
      rw [applyPods, List.foldl_cons, h, find?_profiles_applyPod_eq_none_iff, List.forall_mem_cons,
        and_assoc]

theorem find?_profiles_deletePod (p : Pod) (name : String) :
    (e.deletePod p).profiles.find? name
      = if name = p.name then none else e.profiles.find? name :=
  NameMap.find?_erase e.profiles p.name name

/-- A pod that is deleted takes the containers of its entry with it, as they were
    cached and not as they are in the event. -/
theorem mem_index_deletePod (p : Pod) (s : Series) :
    s ∈ (e.deletePod p).store.index ↔
      s ∈ e.store.index ∧ s.value? .podName ≠ some p.name
        ∧ ∀ c ∈ e.containersOf p, s.value? .container ≠ some c :=
  Store.mem_index_evictPod e.store p.name (e.containersOf p) s

/-- After an event that brings a running pod the pod has an entry. -/
theorem find?_profiles_podEvent_ne_none (event : WatchEvent Pod) (p : Pod)
    (hp : p ∈ event.arrivals) (hrunning : p.isRunning = true) :
    (e.podEvent o event).profiles.find? p.name ≠ none := by
  have hmade : ∀ ps : List Pod, p ∈ ps → (e.applyPods o ps).profiles.find? p.name ≠ none :=
    -- A restart brings many pods and an event one; the same argument does for both.
    fun ps hps hnone =>
      ((find?_profiles_applyPods_eq_none_iff o e ps p.name).mp hnone).2 p hps ⟨hrunning, rfl⟩
  cases event with
  | applied q => exact hmade [q] hp
  | deleted q => exact absurd hp List.not_mem_nil
  | restarted qs => exact hmade qs hp

/-- An entry stays until its pod is deleted. -/
theorem find?_profiles_podEvent_keeps (event : WatchEvent Pod) (name : String)
    (h : e.profiles.find? name ≠ none)
    (hdeletes : ∀ p, event.departure? = some p → p.name ≠ name) :
    (e.podEvent o event).profiles.find? name ≠ none := by
  rw [podEvent_eq]
  cases hgone : event.departure? with
  | none => exact fun hnone => h ((find?_profiles_applyPods_eq_none_iff o e _ name).mp hnone).1
  | some p =>
      have hname : name ≠ p.name := fun heq => hdeletes p hgone heq.symm
      simp only [find?_profiles_deletePod, if_neg hname]
      exact h

/-- The eviction of entries that were dropped, one after the other. -/
def evictEntries (e : Exporter) (entries : List (String × PodProfile)) : Exporter :=
  entries.foldl (fun e p => e.evictPod p.1 p.2.containerNames .sweep) e

/-- The entries are dropped before the evictions, which touch the series only. -/
theorem profiles_evictEntries (entries : List (String × PodProfile)) :
    (e.evictEntries entries).profiles = e.profiles :=
  foldl_keeps Exporter.profiles _ e entries fun _ _ _ => rfl

theorem health_evictEntries (entries : List (String × PodProfile)) :
    (e.evictEntries entries).health = e.health :=
  foldl_keeps Exporter.health _ e entries fun _ _ _ => rfl

/-- What is left is what none of the entries takes. -/
theorem mem_index_evictEntries (entries : List (String × PodProfile)) (s : Series) :
    s ∈ (e.evictEntries entries).store.index ↔
      s ∈ e.store.index ∧ ∀ entry ∈ entries, s.value? .podName ≠ some entry.1
        ∧ ∀ c ∈ entry.2.containerNames, s.value? .container ≠ some c := by
  induction entries generalizing e with
  | nil => simp [evictEntries]
  | cons entry rest ih =>
      have h := ih (e.evictPod entry.1 entry.2.containerNames .sweep)
      rw [evictEntries] at h
      rw [evictEntries, List.foldl_cons, h, List.forall_mem_cons, ← and_assoc]
      exact and_congr_left fun _ =>
        Store.mem_index_evictPod e.store entry.1 entry.2.containerNames s

/-- A sweep keeps the entries of the names that are listed, as they are. -/
theorem find?_profiles_removeStalePods (listed : List String) (name : String) :
    (e.removeStalePods listed).profiles.find? name
      = if name ∈ listed then e.profiles.find? name else none := by
  have h : (e.removeStalePods listed).profiles = e.profiles.keep listed.contains :=
    profiles_evictEntries _ _
  rw [h, NameMap.find?_keep]
  simp

/-- The series that survive a sweep: those that carry neither the name of a
    pod whose entry is dropped nor the name of one of its containers. -/
theorem mem_index_removeStalePods (listed : List String) (s : Series) :
    s ∈ (e.removeStalePods listed).store.index ↔
      s ∈ e.store.index ∧ ∀ entry ∈ e.profiles, entry.1 ∉ listed →
        s.value? .podName ≠ some entry.1
          ∧ ∀ c ∈ entry.2.containerNames, s.value? .container ≠ some c := by
  have h : s ∈ (e.removeStalePods listed).store.index ↔
      s ∈ e.store.index ∧ ∀ entry ∈ e.stalePods listed, s.value? .podName ≠ some entry.1
        ∧ ∀ c ∈ entry.2.containerNames, s.value? .container ≠ some c :=
    mem_index_evictEntries _ _ s
  rw [h, stalePods]
  simp only [NameMap.mem_keep, and_imp, Bool.not_eq_true', List.contains_eq_mem,
    decide_eq_false_iff_not]

/-- A series of a pod that is cached and not listed does not survive. -/
theorem not_mem_index_removeStalePods (listed : List String) (s : Series) (name : String)
    (hs : s.value? .podName = some name) (hcached : e.profiles.find? name ≠ none)
    (hlisted : name ∉ listed) : s ∉ (e.removeStalePods listed).store.index := by
  rcases List.mem_map.mp ((NameMap.mem_names_iff e.profiles name).mpr hcached) with
    ⟨entry, hentry, rfl⟩
  intro hlive
  exact (((mem_index_removeStalePods e listed s).mp hlive).2 entry hentry hlisted).1 hs

end Exporter

end StorageGauges
