import StorageGauges.Proofs.Pods.Paged
import StorageGauges.Proofs.Pods.Profiles
import StorageGauges.Proofs.Reports

/-!
# Which Pods Are Cached

An exporter learns of pods as it learns of nodes. A watch tells of single pods
or of all of them, the first listing brings all pods, and a sweep lists the
names of all pods, in pages. Listings can fail, a sweep's at any page.

After any number of such steps the profile that is cached for a name is that of
the pod that was last seen running under it, unless a pod of the name was
deleted since, whatever its phase, or a sweep has come to its last page since
and the name was on none of its pages. A pod that is seen when it runs no more
counts for nothing: the profile stays as it was.

## Main definitions

* `Page.upToLast?`: The pages of a listing that came to its end.
* `CacheStep`: A watch event, an attempt to learn, or a sweep.
* `CacheStep.reports`: What a step says.
* `Exporter.cacheStep`: What a step does.
* `LastSeenRunning`: The last time that a pod was seen running.

## Theorems

* `Walk.ending_follow_eq_ok_iff`: A listing ends well with what is on its pages.
* `Exporter.find?_profiles_cacheSteps`: The profile of a name follows the
  reports.
* `Rehearsal.exporter_learnPods`, `Rehearsal.exporter_collectPods`: Rehearsed
  attempts and sweeps are these steps.
* `find?_profiles_iff_lastSeenRunning`: Which pods are cached, and with what
  profile.
-/

namespace StorageGauges

namespace Page

variable {α : Type}

/-- The pages of a listing up to the last one, which names no other. There are
    none if the listing failed before that or has not come so far. -/
def upToLast? : List (Except ListError (Page α)) → Option (List (Page α))
  | [] => none
  | .error _ :: _ => none
  | .ok page :: rest =>
    match page.next with
    | some _ => (upToLast? rest).map (page :: ·)
    | none => some [page]

end Page

/-- A listing ends well exactly if it comes to its last page, and then with what
    is on its pages. -/
theorem Walk.ending_follow_eq_ok_iff (batch : Nat) (w : Walk)
    (answers : List (Except ListError (Page String))) (names : List String) :
    (w.follow batch answers).ending = some (.ok names) ↔
      ∃ pages, Page.upToLast? answers = some pages ∧
        w.names ++ pages.flatMap (·.items) = names := by
  induction answers generalizing w with
  | nil => simp [follow, Page.upToLast?]
  | cons answer rest ih =>
      cases answer with
      | error error => simp [follow, Page.upToLast?]
      | ok page =>
          cases hnext : page.next with
          | none => simp [follow, turn, Page.upToLast?, hnext]
          | some token =>
              -- The walk that asks for the next page has the names of this one.
              have hrest := ih { names := w.names ++ page.items, token := some token }
              simp [follow, turn, Page.upToLast?, hnext, hrest]

/-- Something from which the exporter learns of pods: a watch event, an attempt
    to list the pods at the start, or a sweep that gets some answers to its
    requests for pages. -/
inductive CacheStep
  | event (event : WatchEvent Pod)
  | learn (listing : Except ListError (Page Pod))
  | sweep (batch : Nat) (answers : List (Except ListError (Page String)))

namespace CacheStep

/-- What a step says of pods, in order. A listing that failed says nothing. -/
def reports : CacheStep → List (Report Pod)
  | event ev => ev.news.map .news
  | learn (.ok page) => page.items.map fun p => .news (.seen p)
  | learn (.error _) => []
  | sweep _ answers =>
    match Page.upToLast? answers with
    | some pages => [.listed (pages.flatMap (·.items))]
    | none => []

end CacheStep

namespace Exporter

variable (o : Options) (e : Exporter)

/-- A step is taken. -/
def cacheStep (e : Exporter) : CacheStep → Exporter
  | .event ev => e.podEvent o ev
  | .learn (.ok page) => e.applyPods o page.items
  | .learn (.error _) => e
  | .sweep batch answers => (e.sweepPods batch answers).2

/-- A single report comes. -/
def hearPodReport (e : Exporter) : Report Pod → Exporter
  | .news n => e.hearPod o n
  | .listed names => e.removeStalePods names

/-- A sweep drops what is on none of its pages, if it came to the last one. -/
theorem sweepPods_eq_foldl_reports (batch : Nat) (answers : List (Except ListError (Page String))) :
    (e.sweepPods batch answers).2 =
      (CacheStep.sweep batch answers).reports.foldl (hearPodReport o) e := by
  have hends := Walk.ending_follow_eq_ok_iff batch .start answers
  rw [sweepPods, CacheStep.reports]
  cases hpages : Page.upToLast? answers with
  | some pages =>
      rw [(hends (pages.flatMap (·.items))).mpr ⟨pages, hpages, rfl⟩]
      rfl
  | none =>
      split
      · rfl
      · rfl
      · rename_i names hending
        rcases (hends names).mp hending with ⟨pages, hsome, -⟩
        exact absurd (hpages.symm.trans hsome) (Option.some_ne_none pages).symm

/-- A step does no more than its reports say, in their order. A sweep that did not
    come to its last page says nothing. -/
theorem cacheStep_eq_foldl_reports (step : CacheStep) :
    e.cacheStep o step = step.reports.foldl (hearPodReport o) e := by
  cases step with
  | event ev =>
      rw [cacheStep, podEvent_eq_foldl_news, CacheStep.reports, List.foldl_map]
      rfl
  | learn listing =>
      cases listing with
      | ok page =>
          -- A listing brings its pods one by one.
          rw [cacheStep, CacheStep.reports, List.foldl_map]
          rfl
      | error _ => rfl
  | sweep batch answers => exact sweepPods_eq_foldl_reports o e batch answers

/-- A report changes the profile of a name as what is held for it. -/
theorem find?_profiles_hearPodReport (r : Report Pod) (name : String) :
    (e.hearPodReport o r).profiles.find? name =
      heed Pod.name (·.profile? o.captured) name (e.profiles.find? name) r := by
  cases r with
  | news said =>
      cases said with
      | seen p =>
          rw [hearPodReport, hearPod, find?_profiles_applyPod, heed]
          simp only [eq_comm]
      | gone p =>
          rw [hearPodReport, hearPod, find?_profiles_deletePod, heed]
          simp only [eq_comm]
  | listed names => exact find?_profiles_removeStalePods e names name

/-- The profile of a name after some steps follows the reports of the steps. -/
theorem find?_profiles_cacheSteps (steps : List CacheStep) (name : String) :
    (steps.foldl (cacheStep o) e).profiles.find? name =
      (steps.flatMap CacheStep.reports).foldl (heed Pod.name (·.profile? o.captured) name)
        (e.profiles.find? name) := by
  have hsteps : steps.foldl (cacheStep o) e =
      (steps.flatMap CacheStep.reports).foldl (hearPodReport o) e := by
    rw [List.foldl_flatMap]
    simp only [← cacheStep_eq_foldl_reports]
  -- What is held for the name is changed by each report alike, so the folds agree.
  rw [hsteps]
  exact (List.foldl_hom (fun x : Exporter => x.profiles.find? name) fun x r =>
    (find?_profiles_hearPodReport o x r name).symm).symm

end Exporter

namespace Rehearsal

/-- A rehearsed attempt to learn of the pods is a step with the answer that it
    gets. -/
theorem exporter_learnPods (r : Rehearsal) :
    let asked := r.request (.pods { limit := none, token := none })
      (Cluster.page { limit := none, token := none })
    r.learnPods.2.exporter =
      asked.2.exporter.cacheStep asked.2.setup.options (.learn asked.1) := by
  unfold learnPods
  dsimp only
  rcases r.request (.pods { limit := none, token := none })
    (Cluster.page { limit := none, token := none }) with ⟨error | page, r'⟩ <;> rfl

/-- So is a rehearsed sweep of the pods whose listing ends. -/
theorem exporter_collectPods (r : Rehearsal) (batch : Nat)
    (answers : List (Except ListError (Page String)))
    (hanswers : answers = pageAnswers batch (r.cluster.pods.length + 1) .start r)
    (hends : (Walk.start.follow batch answers).ending ≠ none) :
    (r.collectPods batch).2.exporter =
      (r.listAllPods batch).2.exporter.cacheStep r.setup.options (.sweep batch answers) :=
  (Prod.mk.inj (collectPods_eq_sweepPods r batch answers hanswers hends)).2

end Rehearsal

/-- The pod is what was seen when a name was last seen running, by an event or
    in a listing, and what was said after that is this. -/
structure LastSeenRunning (name : String) (steps : List CacheStep) (p : Pod)
    (after : List (Report Pod)) : Prop where
  seen : ∃ before, steps.flatMap CacheStep.reports = before ++ .news (.seen p) :: after
  named : p.name = name
  running : p.isRunning = true
  last : ∀ q, .news (.seen q) ∈ after → q.isRunning = true → q.name ≠ name

/-- What leaves the profile of a name alone, kind by kind. -/
theorem Report.forall_not_settles_profile?_iff (o : Options) (name : String)
    (reports : List (Report Pod)) :
    (∀ said ∈ reports, ¬ said.Settles Pod.name (·.profile? o.captured) name) ↔
      (∀ q, .news (.seen q) ∈ reports → q.isRunning = true → q.name ≠ name) ∧
        (∀ q, .news (.gone q) ∈ reports → q.name ≠ name) ∧
          ∀ names, .listed names ∈ reports → name ∈ names := by
  have hrunning : ∀ q : Pod, q.profile? o.captured ≠ none ↔ q.isRunning = true := by
    intro q
    rw [ne_eq, Exporter.profile?_eq_none_iff, Bool.not_eq_false]
  simp only [Report.forall_not_settles_iff, hrunning]

/-- A name has a profile exactly if it was seen running and, since it was last
    seen running, no pod of the name was deleted and the name was on some page of
    every sweep that came to its last page. The profile is then that of the pod
    as it was. A step that brings no running pod of a name, does not say that one
    is gone and is no such sweep without the name leaves the profile as it is. -/
theorem find?_profiles_iff_lastSeenRunning (o : Options) (health : Health.Registry)
    (name : String) :
    (∀ (steps : List CacheStep) (profile : PodProfile),
      (steps.foldl (Exporter.cacheStep o) (.initial health)).profiles.find? name = some profile ↔
        ∃ p after, LastSeenRunning name steps p after ∧
          (∀ q, .news (.gone q) ∈ after → q.name ≠ name) ∧
            (∀ names, .listed names ∈ after → name ∈ names) ∧
              p.profile? o.captured = some profile) ∧
      ∀ (e : Exporter) (step : CacheStep),
        (∀ q, .news (.seen q) ∈ step.reports → q.isRunning = true → q.name ≠ name) →
        (∀ q, .news (.gone q) ∈ step.reports → q.name ≠ name) →
        (∀ names, .listed names ∈ step.reports → name ∈ names) →
        (e.cacheStep o step).profiles.find? name = e.profiles.find? name := by
  constructor
  · intro steps profile
    have hstart : (Exporter.initial health).profiles.find? name = none := rfl
    rw [Exporter.find?_profiles_cacheSteps, hstart, foldl_heed_eq_some_iff]
    simp only [Report.forall_not_settles_profile?_iff]
    constructor
    · rintro ⟨before, p, after, heq, hname, hprofile, hlast, hgone, hlisted⟩
      -- What has a profile was running when it was seen.
      have hrunning : p.isRunning = true := by
        rw [← Bool.not_eq_false, ← Exporter.profile?_eq_none_iff p o.captured, hprofile]
        exact Option.some_ne_none profile
      exact ⟨p, after, ⟨⟨before, heq⟩, hname, hrunning, hlast⟩, hgone, hlisted, hprofile⟩
    · rintro ⟨p, after, ⟨⟨before, heq⟩, hname, -, hlast⟩, hgone, hlisted, hprofile⟩
      exact ⟨before, p, after, heq, hname, hprofile, hlast, hgone, hlisted⟩
  · intro e step hseen hgone hlisted
    have hleft := (Report.forall_not_settles_profile?_iff o name step.reports).mpr
      ⟨hseen, hgone, hlisted⟩
    have hstep := Exporter.find?_profiles_cacheSteps o e [step] name
    rw [List.flatMap_singleton, foldl_heed_of_not_settles _ _ _ _ _ hleft] at hstep
    exact hstep

/-- The pod of `webPod` when it has ended. Its container mounts nothing. -/
def endedPod : Pod :=
  { webPod "blue" [] with phase := some "Succeeded" }

/-- A pod that ran and then ended keeps its profile through a listing that
    failed, a relist without it, a sweep that failed at its second page and one
    that has it on its second page. -/
theorem find?_profiles_of_endedPod :
    ([CacheStep.event (.applied (webPod "blue" [{ volume := "cache", path := "/cache" }])),
        .event (.applied endedPod), .learn (.error ⟨""⟩), .event (.restarted []),
        .sweep 1 [.ok ⟨["db"], some "1"⟩, .error ⟨""⟩],
        .sweep 1 [.ok ⟨["db"], some "1"⟩, .ok ⟨["web"], none⟩]].foldl
      (Exporter.cacheStep .standard) (.initial .empty)).profiles.find? "web" =
      some
        { containers :=
            [{ name := "app", limit := none,
               mounts := [{ volume := "cache", path := "/cache", sizeLimit := none }] }] } := by
  have hlast : LastSeenRunning "web"
      [.event (.applied (webPod "blue" [{ volume := "cache", path := "/cache" }])),
        .event (.applied endedPod), .learn (.error ⟨""⟩), .event (.restarted []),
        .sweep 1 [.ok ⟨["db"], some "1"⟩, .error ⟨""⟩],
        .sweep 1 [.ok ⟨["db"], some "1"⟩, .ok ⟨["web"], none⟩]]
      (webPod "blue" [{ volume := "cache", path := "/cache" }])
      [.news (.seen endedPod), .listed ["db", "web"]] := by
    refine ⟨⟨[], rfl⟩, rfl, by decide, fun q hq hrunning => ?_⟩
    -- The only pod that is seen afterwards does not run.
    have hq : q = endedPod := by simpa using hq
    rw [hq] at hrunning
    exact absurd hrunning (by decide)
  refine ((find?_profiles_iff_lastSeenRunning .standard .empty "web").1 _ _).mpr
    ⟨_, _, hlast, ?_, ?_, rfl⟩
  · simp
  · simp

end StorageGauges
