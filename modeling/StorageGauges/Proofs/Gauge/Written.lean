import StorageGauges.Exporter.Process

/-!
# Whose Series a Payload Writes

Every series that a payload writes carries the name of the node that was
queried, and a series with a pod's name carries the name of a pod in the
payload. Containers come in only with a profile: what a pod without one
writes names no container, so nothing that is deleted by a container's name
ever reaches it.

## Main definitions

* `Write.Labelled`: The labels of a write.

## Theorems

* `labelled_of_mem_sampleWrites`: The labels of what a sample writes.
* `parse?_noPods`: The shortest payload that can be read.
* `mem_summaryWrites_iff`: What a payload writes, sample by sample.
* `value?_nodeName_of_mem_summaryWrites`: All series of a payload carry the
  queried node.
* `value?_container_of_mem_summaryWrites`: A pod without a profile writes no
  container.
-/

namespace StorageGauges

/-- What is turned off is not written. -/
theorem mem_whenOn (on : Bool) (s : Series) (x : Float) (w : Write) :
    w ∈ whenOn on s x ↔ on = true ∧ w = { series := s, value := x } := by
  unfold whenOn
  cases on <;> simp

/-- What a sample does not say is not written either. -/
theorem mem_whenPresent (on : Bool) (s : Series) (x : Option Float) (w : Write) :
    w ∈ whenPresent on s x ↔
      on = true ∧ ∃ v, x = some v ∧ w = { series := s, value := v } := by
  cases x with
  | none => simp [whenPresent]
  | some v => simp [whenPresent, mem_whenOn]

/-- The labels of a write: its node, its pod if it has one, and its container
    if it has one. -/
structure Write.Labelled (w : Write) (node : String) (pod container : Option String) : Prop where
  node : w.series.value? .nodeName = some node
  pod : w.series.value? .podName = pod
  container : w.series.value? .container = container

/-- What is written for a node has its name, and no pod and no container. -/
theorem labelled_of_mem_nodeWrites (fs : Features) (node : String) (s : PodSample) (w : Write)
    (h : w ∈ nodeWrites fs node s) : w.Labelled node none none := by
  simp only [nodeWrites, List.mem_append, mem_whenOn] at h
  rcases h with (⟨-, rfl⟩ | ⟨-, rfl⟩) | ⟨-, rfl⟩ <;> exact ⟨rfl, rfl, rfl⟩

/-- What is written for a pod has its name and that of the node that told it. -/
theorem labelled_of_mem_podWrites (fs : Features) (node : String) (s : PodSample) (w : Write)
    (h : w ∈ podWrites fs node s) : w.Labelled node (some s.name) none := by
  simp only [podWrites, List.mem_append, mem_whenOn, mem_whenPresent] at h
  rcases h with ((⟨-, rfl⟩ | ⟨-, v, -, rfl⟩) | ⟨-, v, -, rfl⟩) | ⟨-, v, -, rfl⟩ <;>
    exact ⟨rfl, rfl, rfl⟩

/-- What is written for a mount has the names of node, pod and container. -/
theorem labelled_of_mem_volumeWrites (fs : Features) (node : String) (s : PodSample)
    (container : String) (m : Mount) (w : Write) (h : w ∈ volumeWrites fs node s container m) :
    w.Labelled node (some s.name) (some container) := by
  unfold volumeWrites at h
  split at h
  · simp only [List.mem_append, mem_whenOn, mem_whenPresent] at h
    rcases h with ⟨-, rfl⟩ | ⟨-, v, -, rfl⟩ <;> exact ⟨rfl, rfl, rfl⟩
  · exact absurd h List.not_mem_nil

/-- What is written for a container has its name, and so has what is written for its
    mounts. -/
theorem labelled_of_mem_containerWrites (fs : Features) (node : String) (s : PodSample)
    (c : ContainerProfile) (w : Write) (h : w ∈ containerWrites fs node s c) :
    w.Labelled node (some s.name) (some c.name) := by
  simp only [containerWrites, List.mem_append, mem_whenOn, List.mem_flatMap] at h
  rcases h with ⟨-, rfl⟩ | ⟨m, -, hm⟩
  · exact ⟨rfl, rfl, rfl⟩
  · exact labelled_of_mem_volumeWrites fs node s c.name m w hm

/-- What is written for containers is for those in the profile. Without a profile
    there is nothing. -/
theorem labelled_of_mem_profileWrites (fs : Features) (node : String) (s : PodSample)
    (profile : Option PodProfile) (w : Write) (h : w ∈ profileWrites fs node s profile) :
    ∃ p, profile = some p ∧ ∃ c ∈ p.containers, w.Labelled node (some s.name) (some c.name) := by
  unfold profileWrites at h
  split at h
  · rename_i p
    rcases List.mem_flatMap.mp h with ⟨c, hc, hw⟩
    exact ⟨p, rfl, c, hc, labelled_of_mem_containerWrites fs node s c w hw⟩
  · exact absurd h List.not_mem_nil

/-- The three kinds of writes of a sample: of its node, of its pod, and of a
    container in its pod's profile. -/
theorem labelled_of_mem_sampleWrites (o : Options) (e : Exporter) (node : String) (s : PodSample)
    (w : Write) (h : w ∈ sampleWrites o e node s) :
    w.Labelled node none none ∨ w.Labelled node (some s.name) none ∨
      ∃ p, e.profileOf o s.name = some p ∧
        ∃ c ∈ p.containers, w.Labelled node (some s.name) (some c.name) := by
  simp only [sampleWrites, List.mem_append] at h
  rcases h with (h | h) | h
  · exact Or.inl (labelled_of_mem_nodeWrites o.features node s w h)
  · exact Or.inr (Or.inl (labelled_of_mem_podWrites o.features node s w h))
  · exact Or.inr (Or.inr (labelled_of_mem_profileWrites o.features node s _ w h))

/-- A document without members is a payload without pods. -/
theorem parse?_noPods : Summary.parse? [0x7B, 0x7D] = some ⟨"", []⟩ := by
  have hread : Json.read? [0x7B, 0x7D] = some (.object []) := by cbv
  rw [Summary.parse?, hread]
  rfl

/-- A payload is written sample by sample, without those whose namespace is not
    allowed. -/
theorem mem_summaryWrites_iff (o : Options) (e : Exporter) (node : String) (summary : Summary)
    (allowed : AllowList) (w : Write) :
    w ∈ summaryWrites o e node summary allowed ↔
      ∃ s ∈ summary.pods, s.isSkipped allowed = false ∧ w ∈ sampleWrites o e node s := by
  simp [summaryWrites, and_assoc]

/-- Whatever a payload writes has the name of the node that was asked, also where
    the payload gives the node another name. -/
theorem value?_nodeName_of_mem_summaryWrites (o : Options) (e : Exporter) (node : String)
    (summary : Summary) (allowed : AllowList) (w : Write)
    (h : w ∈ summaryWrites o e node summary allowed) :
    w.series.value? .nodeName = some node := by
  rcases (mem_summaryWrites_iff o e node summary allowed w).mp h with ⟨s, -, -, hw⟩
  rcases labelled_of_mem_sampleWrites o e node s w hw with hl | hl | ⟨p, -, c, -, hl⟩ <;>
    exact hl.node

/-- A pod that is not cached has no profile, whether or not some family needs one. -/
theorem profileOf_eq_none (o : Options) (e : Exporter) (pod : String)
    (h : e.profiles.find? pod = none) : e.profileOf o pod = none := by
  unfold Exporter.profileOf
  split
  · exact h
  · rfl

/-- A series of a pod without a profile names no container, so no eviction by
    a container's name reaches it. -/
theorem value?_container_of_mem_summaryWrites (o : Options) (e : Exporter) (node : String)
    (summary : Summary) (allowed : AllowList) (w : Write) (pod : String)
    (h : w ∈ summaryWrites o e node summary allowed)
    (hpod : w.series.value? .podName = some pod) (hprofile : e.profiles.find? pod = none) :
    w.series.value? .container = none := by
  rcases (mem_summaryWrites_iff o e node summary allowed w).mp h with ⟨s, -, -, hw⟩
  rcases labelled_of_mem_sampleWrites o e node s w hw with hl | hl | ⟨p, hp, c, -, hl⟩
  · exact hl.container
  · exact hl.container
  · -- The sample is of this very pod, and a pod without a profile has no containers.
    have hname : s.name = pod := by
      rw [hl.pod] at hpod
      exact Option.some.inj hpod
    rw [hname, profileOf_eq_none o e pod hprofile] at hp
    exact absurd hp (by simp only [reduceCtorEq, not_false_eq_true])

end StorageGauges
