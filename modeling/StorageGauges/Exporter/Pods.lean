import StorageGauges.Exporter.Basic

/-!
# Caching Pods

The profiles of the pods that run, by the pods' names. A pod that leaves its
running phase keeps the profile that it last had, because its last figures
may still be scraped. Deleting a pod deletes its series, and the series of
containers with the names of its containers.

A sweep lists all pods in pages before it drops anything. Between the listing
and the removal watch events can come, as with nodes.

## Main definitions

* `Exporter.applyPod`: A pod was added or changed.
* `Exporter.deletePod`: A pod was deleted.
* `Exporter.podEvent`: A watch reports something.
* `Exporter.removeStalePods`: The second step of a sweep.

## Theorems

* `Exporter.find?_profiles_applyPod`: What is cached after a change.
-/

namespace StorageGauges

namespace Exporter

/-- The component that reports on pods. -/
def podLogger : String := Health.podCache

/-- A pod was added or changed. -/
def applyPod (o : Options) (e : Exporter) (p : Pod) : Exporter :=
  match p.profile? o.captured with
  | some profile => { e with profiles := e.profiles.insert p.name profile }
  | none => e

/-- Some pods were added or changed. -/
def applyPods (o : Options) (e : Exporter) (ps : List Pod) : Exporter :=
  ps.foldl (applyPod o) e

/-- The series of a pod go, and those of containers with the given names. -/
def evictPod (e : Exporter) (pod : String) (containers : List String) (cause : Cause) :
    Exporter :=
  let gone := e.store.evictPod pod containers
  { e with store := gone.store }.log podLogger (.podEvicted pod gone.removed cause.word)

/-- The container names by which a deleted pod's series are found: those of
    the pod itself, or, when it comes without containers, of its profile. -/
def containersOf (e : Exporter) (p : Pod) : List String :=
  if p.containers.isEmpty then
    match e.profiles.find? p.name with
    | some profile => profile.containerNames
    | none => []
  else p.containerNames

/-- A pod was deleted. -/
def deletePod (e : Exporter) (p : Pod) : Exporter :=
  { e with profiles := e.profiles.erase p.name }.evictPod p.name (e.containersOf p) .watchDelete

/-- A watch reports something about pods. -/
def podEvent (o : Options) (e : Exporter) : WatchEvent Pod → Exporter
  | .applied p => e.applyPod o p
  | .deleted p => e.deletePod p
  | .restarted ps => e.applyPods o ps

/-- The cached profiles that a listing lacks. -/
def stalePods (e : Exporter) (listed : List String) : NameMap PodProfile :=
  e.profiles.keep fun n => !listed.contains n

/-- Drops the cached profiles that a listing lacks, and then their series. -/
def removeStalePods (e : Exporter) (listed : List String) : Exporter :=
  let kept := { e with profiles := e.profiles.keep listed.contains }
  (e.stalePods listed).foldl (fun e p => e.evictPod p.1 p.2.containerNames .sweep) kept

/-- What a sweep with this listing reports. -/
def podSweep (e : Exporter) (listed : List String) : Swept :=
  { listed := (distinct listed).length, removed := (e.stalePods listed).length }

theorem find?_profiles_applyPod (o : Options) (e : Exporter) (p : Pod) (name : String) :
    (e.applyPod o p).profiles.find? name
      = if name = p.name then ((p.profile? o.captured).or (e.profiles.find? name))
        else e.profiles.find? name := by
  unfold applyPod
  cases h : p.profile? o.captured with
  | none => simp
  | some profile =>
      simp only [NameMap.find?_insert]
      split <;> simp

end Exporter

end StorageGauges
