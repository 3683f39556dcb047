import StorageGauges.Proofs.Pods.LastSeen
import StorageGauges.Settings.Basic

/-!
# What Profiles Capture

Limits and temporary volumes are left out of the profiles where no feature needs
them. An exporter that captures less knows less: its state is that of one that
captures everything, with the profiles cut down. What it does with profiles does
not show the difference. Writes leave out what is off, evictions need names only,
and sweeps count entries.

So the two go side by side. Each step takes a state and its cut-down version to
a state and its cut-down version, and shows the same of both.

## Main definitions

* `ContainerProfile.only`, `PodProfile.only`: A profile cut down.
* `Pod.Captured.Serves`: What is captured is enough for some features.
* `Exporter.narrow`: The state with all profiles cut down.
* `ProfileStep`: A step of the pod cache, a reported sweep, or a scrape.
* `Sight`: What can be seen after a step.
* `Exporter.sights`: What can be seen, step after step.

## Theorems

* `Pod.profile?_eq_only`: Capturing less is capturing everything and cutting it
  down.
* `containerWrites_only`: What is cut off would not have been written.
* `Exporter.profileStep_narrow`: A step keeps the states side by side.
* `Exporter.sight_narrow`: A step shows the same of both.
* `Exporter.sights_narrow`: So does a run.
* `Rehearsal.exporter_endScrape`: Rehearsed scrapes end like this.
* `Settings.sights_captured`: The settings capture as much as is seen.
-/

namespace StorageGauges

namespace NameMap

variable {α β : Type} (f : α → β) (m : NameMap α)

/-- The map with another entry for every name. -/
def mapEntries (f : α → β) (m : NameMap α) : NameMap β :=
  m.map fun entry => (entry.1, f entry.2)

/-- Looking up and changing the entries commute, as names are not changed. -/
theorem find?_mapEntries (name : String) : (m.mapEntries f).find? name = (m.find? name).map f := by
  induction m with
  | nil => rfl
  | cons entry rest ih =>
      unfold find? at ih ⊢
      rw [mapEntries, List.map_cons, List.lookup_cons, List.lookup_cons]
      cases name == entry.1 with
      | true => rfl
      | false => exact ih

/-- An entry that is changed and then inserted is one that is inserted and then
    changed. -/
theorem insert_mapEntries (name : String) (a : α) :
    (m.mapEntries f).insert name (f a) = (m.insert name a).mapEntries f := by
  induction m with
  | nil => rfl
  | cons entry rest ih =>
      unfold mapEntries at ih
      rw [mapEntries, List.map_cons, insert, insert]
      split
      · rfl
      · split
        · rfl
        · rw [ih]
          rfl

/-- What is kept is decided by names. -/
theorem keep_mapEntries (test : String → Bool) :
    (m.mapEntries f).keep test = (m.keep test).mapEntries f :=
  List.filter_map

theorem names_mapEntries : (m.mapEntries f).names = m.names := by
  rw [names, mapEntries, List.map_map]
  rfl

theorem length_mapEntries : (m.mapEntries f).length = m.length :=
  List.length_map _

end NameMap

/-- The container without what is not captured. -/
def ContainerProfile.only (what : Pod.Captured) (c : ContainerProfile) : ContainerProfile :=
  { name := c.name
    limit := if what.containerLimits then c.limit else none
    mounts := if what.volumes then c.mounts else [] }

/-- The pod's containers without what is not captured. -/
def PodProfile.only (what : Pod.Captured) (p : PodProfile) : PodProfile :=
  { containers := p.containers.map (·.only what) }

/-- Names of containers are captured in any case, so evictions always have them. -/
theorem PodProfile.containerNames_only (what : Pod.Captured) (p : PodProfile) :
    (p.only what).containerNames = p.containerNames := by
  rw [containerNames, only, List.map_map]
  rfl

namespace Pod

/-- Limits and temporary volumes. -/
def Captured.everything : Captured :=
  { containerLimits := true, volumes := true }

/-- Everything that some features use is captured. -/
structure Captured.Serves (what : Captured) (fs : Features) : Prop where
  limits : fs.containerLimitPercentage = true → what.containerLimits = true
  volumes : fs.needsVolumeProfiles = true → what.volumes = true

/-- Capturing less is capturing everything and cutting it down. -/
theorem profile?_eq_only (p : Pod) (what : Captured) :
    p.profile? what = (p.profile? .everything).map (·.only what) := by
  unfold profile?
  split
  · rw [Option.map_some, PodProfile.only, List.map_map]
    rfl
  · rfl

end Pod

/-- The settings capture what their own features use; both are read off the same
    values. -/
theorem Settings.captured_serves (s : Settings) : s.captured.Serves s.features where
  limits := id
  volumes := id

section Writes

variable {fs : Features} {what : Pod.Captured} (node : String) (s : PodSample)

/-- What is turned off is not written, whether there is a value or not. -/
theorem whenPresent_false (series : Series) (x : Option Float) :
    whenPresent false series x = [] := by
  cases x <;> rfl

/-- Where no feature needs volumes nothing is written of any. -/
theorem volumeWrites_eq_nil (h : fs.needsVolumeProfiles = false) (container : String) (m : Mount) :
    volumeWrites fs node s container m = [] := by
  rw [Features.needsVolumeProfiles, Bool.or_eq_false_iff] at h
  unfold volumeWrites
  split
  · rw [h.1, h.2, whenPresent_false]
    rfl
  · rfl

/-- What is cut off would not have been written. -/
theorem containerWrites_only (hserves : what.Serves fs) (c : ContainerProfile) :
    containerWrites fs node s (c.only what) = containerWrites fs node s c := by
  have hlimit : fs.containerLimitPercentage = true → (c.only what).limit = c.limit :=
    fun hon => if_pos (hserves.limits hon)
  have hmounts : (c.only what).mounts.flatMap (volumeWrites fs node s c.name) =
      c.mounts.flatMap (volumeWrites fs node s c.name) := by
    -- Either the mounts are not cut off, or no mount writes anything.
    cases hneeds : fs.needsVolumeProfiles with
    | true => rw [ContainerProfile.only, if_pos (hserves.volumes hneeds)]
    | false =>
        -- Mounts may be cut off then, but those that are left write nothing either.
        rw [List.flatMap_eq_nil_iff.mpr fun m _ => volumeWrites_eq_nil node s hneeds c.name m,
          List.flatMap_eq_nil_iff.mpr fun m _ => volumeWrites_eq_nil node s hneeds c.name m]
  unfold containerWrites
  refine congrArg₂ (· ++ ·) ?_ hmounts
  unfold whenOn
  split
  · rename_i hon
    rw [hlimit hon]
    rfl
  · rfl

/-- A whole profile writes the same when it is cut down to what is served. -/
theorem profileWrites_only (hserves : what.Serves fs) (profile : Option PodProfile) :
    profileWrites fs node s (profile.map (·.only what)) = profileWrites fs node s profile := by
  cases profile with
  | none => rfl
  | some p =>
      simp only [Option.map_some, profileWrites, PodProfile.only, List.flatMap_map,
        containerWrites_only node s hserves]

end Writes

/-- What else the settings fix, with something captured. -/
def Options.capturing (what : Pod.Captured) (o : Options) : Options :=
  { o with captured := what }

/-- A step that needs profiles or changes them: of the pod cache, a sweep of the
    pods that ends and is reported, or a scrape that ends. -/
inductive ProfileStep
  | cache (step : CacheStep)
  | sweep (now : Int) (elapsed : Nat) (listing : Except ListError (List String))
  | scrape (interval : Duration) (node : String) (answer : Option Payload) (allowed : AllowList)
      (elapsed : Nat)

/-- What a step answers. -/
inductive ProfileStep.Answer
  | nothing
  | swept (result : Option (Except ListError Swept))
  | succeeded (result : Bool)
  | scraped (outcome : Outcome)

/-- What can be seen after a step: its answer, the series with their values, all
    that was put on record, how the components are, and which pods have
    profiles. -/
structure Sight where
  answer : ProfileStep.Answer
  store : Store
  records : List Record
  health : Health.Registry
  cached : List String

namespace Exporter

/-- The state with all profiles cut down. -/
def narrow (what : Pod.Captured) (e : Exporter) : Exporter :=
  { e with profiles := e.profiles.mapEntries (·.only what) }

/-- A step is taken. -/
def profileStep (o : Options) (e : Exporter) : ProfileStep → Exporter
  | .cache step => e.cacheStep o step
  | .sweep now elapsed listing => e.finishPodSweep now elapsed listing
  | .scrape interval node answer allowed elapsed =>
    e.finishScrape o interval node answer allowed elapsed

/-- What a step answers. -/
def answerTo (e : Exporter) : ProfileStep → ProfileStep.Answer
  | .cache (.sweep batch answers) => .swept (e.sweepPods batch answers).1
  | .cache _ => .nothing
  | .sweep _ _ listing => .succeeded listing.isOk
  | .scrape interval _ answer allowed elapsed =>
    .scraped (scrapeOutcome interval answer allowed elapsed)

/-- What can be seen after a step. -/
def sight (o : Options) (e : Exporter) (step : ProfileStep) : Sight :=
  let after := e.profileStep o step
  { answer := e.answerTo step
    store := after.store
    records := after.records
    health := after.health
    cached := after.profiles.names }

/-- What can be seen, step after step. -/
def sights (o : Options) : Exporter → List ProfileStep → List Sight
  | _, [] => []
  | e, step :: rest => e.sight o step :: (e.profileStep o step).sights o rest

variable (o : Options) (what : Pod.Captured) (e : Exporter)

/-- A pod that is seen gets the profile that the one with everything is cut down to. -/
theorem applyPod_narrow (p : Pod) :
    (e.narrow what).applyPod (o.capturing what) p =
      (e.applyPod (o.capturing .everything) p).narrow what := by
  have hprofile := p.profile?_eq_only what
  simp only [applyPod, Options.capturing]
  cases hall : p.profile? .everything with
  | none =>
      rw [hall, Option.map_none] at hprofile
      rw [hprofile]
  | some profile =>
      rw [hall, Option.map_some] at hprofile
      rw [hprofile]
      exact congrArg (fun m => { e with profiles := m }) (NameMap.insert_mapEntries _ _ _ _)

/-- Cutting down passes through a whole list of pods, one by one. -/
theorem applyPods_narrow (ps : List Pod) :
    (e.narrow what).applyPods (o.capturing what) ps =
      (e.applyPods (o.capturing .everything) ps).narrow what :=
  List.foldl_hom (narrow what) fun x p => applyPod_narrow o what x p

/-- Evictions do not look at profiles. -/
theorem evictPod_narrow (pod : String) (containers : List String) (cause : Cause) :
    (e.narrow what).evictPod pod containers cause =
      (e.evictPod pod containers cause).narrow what :=
  rfl

/-- What is evicted is named, and names are not cut off. -/
theorem containersOf_narrow (p : Pod) : (e.narrow what).containersOf p = e.containersOf p := by
  unfold containersOf
  rw [narrow, NameMap.find?_mapEntries]
  cases e.profiles.find? p.name with
  | none => rfl
  | some profile => simp only [Option.map_some, PodProfile.containerNames_only]

/-- A pod that is deleted takes its entry, and the same containers are evicted. -/
theorem deletePod_narrow (p : Pod) :
    (e.narrow what).deletePod p = (e.deletePod p).narrow what := by
  rw [deletePod, deletePod, containersOf_narrow, ← evictPod_narrow]
  exact congrArg (fun m => ({ e with profiles := m } : Exporter).evictPod _ _ _)
    (NameMap.keep_mapEntries _ _ _)

/-- Any event leads from states side by side to states side by side. -/
theorem podEvent_narrow (ev : WatchEvent Pod) :
    (e.narrow what).podEvent (o.capturing what) ev =
      (e.podEvent (o.capturing .everything) ev).narrow what := by
  cases ev with
  | applied p => exact applyPod_narrow o what e p
  | deleted p => exact deletePod_narrow what e p
  | restarted ps => exact applyPods_narrow o what e ps

/-- Which entries are stale is a matter of names, so the same ones are. -/
theorem stalePods_narrow (names : List String) :
    (e.narrow what).stalePods names = (e.stalePods names).mapEntries (·.only what) :=
  NameMap.keep_mapEntries _ _ _

/-- The counts of a sweep are of names too. -/
theorem podSweep_narrow (names : List String) :
    (e.narrow what).podSweep names = e.podSweep names := by
  rw [podSweep, podSweep, stalePods_narrow, NameMap.length_mapEntries]

/-- A sweep drops the same entries from both, and evicts the same of both. -/
theorem removeStalePods_narrow (names : List String) :
    (e.narrow what).removeStalePods names = (e.removeStalePods names).narrow what := by
  have hkept : ({ e.narrow what with
        -- Dropping comes first, from the profiles; the evictions touch the series only.
        profiles := (e.narrow what).profiles.keep names.contains } : Exporter) =
      ({ e with profiles := e.profiles.keep names.contains } : Exporter).narrow what :=
    congrArg (fun m => { e with profiles := m }) (NameMap.keep_mapEntries _ _ _)
  unfold removeStalePods
  rw [hkept, stalePods_narrow, NameMap.mapEntries, List.foldl_map]
  simp only [PodProfile.containerNames_only]
  exact List.foldl_hom (narrow what) fun _ _ => rfl

/-- A paged sweep, with its result. -/
theorem sweepPods_narrow (batch : Nat) (answers : List (Except ListError (Page String))) :
    (e.narrow what).sweepPods batch answers =
      ((e.sweepPods batch answers).1, (e.sweepPods batch answers).2.narrow what) := by
  unfold sweepPods
  split
  · rfl
  · rfl
  · rw [podSweep_narrow, removeStalePods_narrow]

/-- Any step of the pod cache. -/
theorem cacheStep_narrow (step : CacheStep) :
    (e.narrow what).cacheStep (o.capturing what) step =
      (e.cacheStep (o.capturing .everything) step).narrow what := by
  cases step with
  | event ev => exact podEvent_narrow o what e ev
  | learn listing =>
      cases listing with
      | ok page => exact applyPods_narrow o what e page.items
      | error _ => rfl
  | sweep batch answers => rw [cacheStep, sweepPods_narrow, cacheStep]

/-- The end of a sweep, with its report. -/
theorem finishPodSweep_narrow (now : Int) (elapsed : Nat)
    (listing : Except ListError (List String)) :
    (e.narrow what).finishPodSweep now elapsed listing =
      (e.finishPodSweep now elapsed listing).narrow what := by
  cases listing with
  | ok names =>
      rw [finishPodSweep, podSweep_narrow, removeStalePods_narrow]
      rfl
  | error error => rfl

/-- The profile that a scrape uses is the one that is cut down. -/
theorem profileOf_narrow (pod : String) :
    (e.narrow what).profileOf o pod = (e.profileOf o pod).map (·.only what) := by
  unfold profileOf
  split
  · exact NameMap.find?_mapEntries _ _ _
  · rfl

variable {what} (hserves : what.Serves o.features)

include hserves

/-- A payload is written alike. Here it matters that all that is used is captured. -/
theorem summaryWrites_narrow (node : String) (summary : Summary) (allowed : AllowList) :
    summaryWrites o (e.narrow what) node summary allowed =
      summaryWrites o e node summary allowed := by
  unfold summaryWrites sampleWrites
  simp only [profileOf_narrow, profileWrites_only node _ hserves]

/-- So processing it makes no difference but for the profiles that are kept. -/
theorem process_narrow (node : String) (summary : Summary) (allowed : AllowList) :
    (e.narrow what).process o node summary allowed =
      (e.process o node summary allowed).narrow what := by
  rw [process, summaryWrites_narrow o e hserves]
  rfl

/-- A scrape ends alike, whatever its node has answered. -/
theorem finishScrape_narrow (interval : Duration) (node : String) (answer : Option Payload)
    (allowed : AllowList) (elapsed : Nat) :
    (e.narrow what).finishScrape o interval node answer allowed elapsed =
      (e.finishScrape o interval node answer allowed elapsed).narrow what := by
  -- What comes after the writes does not look at profiles.
  have hlag : ∀ (x : Exporter) (remaining : Int),
      (x.narrow what).noteLag interval node remaining =
        (x.noteLag interval node remaining).narrow what := by
    intro x remaining
    unfold noteLag
    split <;> rfl
  have hremaining : ∀ (x : Exporter) (remaining : Int),
      (x.narrow what).writeRemaining o node remaining =
        (x.writeRemaining o node remaining).narrow what := by
    intro x remaining
    unfold writeRemaining
    split <;> rfl
  unfold finishScrape
  split
  · rfl
  · split
    · rfl
    · dsimp only
      rw [process_narrow o e hserves, hlag, hremaining]

/-- A step keeps the states side by side. -/
theorem profileStep_narrow (step : ProfileStep) :
    (e.narrow what).profileStep (o.capturing what) step =
      (e.profileStep (o.capturing .everything) step).narrow what := by
  cases step with
  | cache step => exact cacheStep_narrow o what e step
  | sweep now elapsed listing => exact finishPodSweep_narrow what e now elapsed listing
  | scrape interval node answer allowed elapsed =>
      exact finishScrape_narrow o e hserves interval node answer allowed elapsed

omit hserves in
/-- What a step answers does not depend on what is in the profiles. -/
theorem answerTo_narrow (step : ProfileStep) : (e.narrow what).answerTo step = e.answerTo step := by
  cases step with
  | cache step =>
      cases step with
      | event ev => rfl
      | learn listing => rfl
      | sweep batch answers => rw [answerTo, sweepPods_narrow, answerTo]
  | sweep now elapsed listing => rfl
  | scrape interval node answer allowed elapsed => rfl

/-- A step shows the same of both. -/
theorem sight_narrow (step : ProfileStep) :
    (e.narrow what).sight (o.capturing what) step = e.sight (o.capturing .everything) step := by
  rw [sight, profileStep_narrow o e hserves, answerTo_narrow]
  dsimp only [narrow]
  rw [NameMap.names_mapEntries]
  rfl

/-- A run shows the same of both, step after step. -/
theorem sights_narrow (steps : List ProfileStep) :
    (e.narrow what).sights (o.capturing what) steps = e.sights (o.capturing .everything) steps := by
  -- By induction on the steps, from any state.
  induction steps generalizing e with
  | nil => rfl
  | cons step rest ih =>
      rw [sights, sight_narrow o e hserves, profileStep_narrow o e hserves, ih, sights]

end Exporter

namespace Rehearsal

/-- A rehearsed scrape ends like this. -/
theorem exporter_endScrape (r : Rehearsal) (s : Scrape) (since : Nat) (answer : Option Payload) :
    (r.endScrape s since answer).exporter =
      r.exporter.profileStep r.setup.options
        (.scrape r.setup.schedule.interval s.node answer s.allowed (r.now - since)) := by
  unfold endScrape keepOutcome
  dsimp only
  split <;> rfl

end Rehearsal

/-- Whatever the settings and whatever happens, profiles with no more than what
    the settings capture and profiles with everything show the same after every
    step: the answer of the step, the series with their values, and what was put
    on record, evictions among it. -/
theorem Settings.sights_captured (s : Settings) (caching : Bool) (health : Health.Registry)
    (steps : List ProfileStep) :
    (Exporter.initial health).sights { s.options with caching } steps =
      (Exporter.initial health).sights { s.options with caching, captured := .everything }
        steps :=
  Exporter.sights_narrow { s.options with caching } (.initial health) s.captured_serves steps

end StorageGauges
