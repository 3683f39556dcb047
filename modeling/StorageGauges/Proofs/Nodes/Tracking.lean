import StorageGauges.Exporter.Schedule
import StorageGauges.Exporter.Scrape
import StorageGauges.Proofs.Gauge.Index
import StorageGauges.Proofs.Run
import StorageGauges.Proofs.Watched

/-!
# The Tracked Nodes Step by Step

What watch events and sweeps do to the two things that belong to a node: its
target and its live series. A ready node makes or replaces the target and
touches no series. A deletion drops the target and the series, whether or not
there was a target, and a sweep does so for every target that its listing
lacks.

A target always carries the name that it is kept under, so a scrape that is
dispatched from a snapshot is a scrape of a node that is tracked right then.

## Main definitions

* `Exporter.removeNodes`: Some nodes are no longer scraped.
* `Exporter.TargetsNamed`: Every target carries the name it is kept under.
* `readyNode`: A node that is tracked when it is seen.

## Theorems

* `Exporter.nodeEvent_eq`: An event by what it brings.
* `Exporter.find?_targets_applyNodes_eq_none_iff`: When no target is made.
* `Exporter.find?_targets_nodeEvent_ne_none`,
  `Exporter.find?_targets_nodeEvent_keeps`: A target from its node's arrival to
  its deletion.
* `Exporter.find?_targets_removeStaleNodes`, `Exporter.targets_removeStaleNodes`:
  A sweep keeps what is listed.
* `Exporter.mem_index_removeStaleNodes`: The series that survive a sweep.
* `Exporter.TargetsNamed.tracked`: What a snapshot shows is tracked.
-/

namespace StorageGauges

namespace Exporter

variable (o : Options) (e : Exporter)

/-- An event either takes a node away or brings some, so two cases are enough for
    three kinds of events. -/
theorem nodeEvent_eq (event : WatchEvent Node) :
    e.nodeEvent o event =
      match event.departure? with
      | some n => e.removeNode n.name Cause.watchDelete.word
      | none => e.applyNodes o event.arrivals := by
  cases event <;> rfl

theorem store_applyNode (n : Node) : (e.applyNode o n).store = e.store := by
  unfold applyNode
  split <;> rfl

/-- Nodes that are seen become targets; no series is touched. -/
theorem store_applyNodes (ns : List Node) : (e.applyNodes o ns).store = e.store :=
  foldl_keeps Exporter.store (applyNode o) e ns fun x n _ => store_applyNode o x n

/-- A name without a target gets one only from a ready node of the name. -/
theorem find?_targets_applyNode_eq_none_iff (n : Node) (name : String) :
    (e.applyNode o n).targets.find? name = none ↔
      e.targets.find? name = none ∧ ¬ (n.isReady = true ∧ n.name = name) := by
  rw [find?_targets_applyNode]
  by_cases h : n.isReady = true ∧ name = n.name
  · rw [if_pos h]
    simp [h.1, h.2]
  · rw [if_neg h]
    exact ⟨fun hnone => ⟨hnone, fun hn => h ⟨hn.1, hn.2.symm⟩⟩, And.left⟩

/-- Nor does it get one from many nodes, unless one of them is such a node. -/
theorem find?_targets_applyNodes_eq_none_iff (ns : List Node) (name : String) :
    (e.applyNodes o ns).targets.find? name = none ↔
      e.targets.find? name = none ∧ ∀ n ∈ ns, ¬ (n.isReady = true ∧ n.name = name) := by
  induction ns generalizing e with
  | nil => simp [applyNodes]
  | cons n rest ih =>
      have h := ih (e.applyNode o n)
      rw [applyNodes] at h
      rw [applyNodes, List.foldl_cons, h, find?_targets_applyNode_eq_none_iff,
        List.forall_mem_cons, and_assoc]

/-- A node that is removed takes what has its name, and nothing else. -/
theorem mem_index_removeNode (name cause : String) (s : Series) :
    s ∈ (e.removeNode name cause).store.index ↔
      s ∈ e.store.index ∧ s.value? .nodeName ≠ some name :=
  Store.mem_index_evictNode e.store name s

/-- After an event that brings a ready node the node is tracked. -/
theorem find?_targets_nodeEvent_ne_none (event : WatchEvent Node) (n : Node)
    (hn : n ∈ event.arrivals) (hready : n.isReady = true) :
    (e.nodeEvent o event).targets.find? n.name ≠ none := by
  have hmade : ∀ ns : List Node, n ∈ ns → (e.applyNodes o ns).targets.find? n.name ≠ none :=
    fun ns hns hnone =>
      ((find?_targets_applyNodes_eq_none_iff o e ns n.name).mp hnone).2 n hns ⟨hready, rfl⟩
  cases event with
  | applied m => exact hmade [m] hn
  | deleted m => exact absurd hn List.not_mem_nil
  | restarted ms => exact hmade ms hn

/-- A node stays tracked until it is deleted. -/
theorem find?_targets_nodeEvent_keeps (event : WatchEvent Node) (name : String)
    (h : e.targets.find? name ≠ none)
    (hdeletes : ∀ n, event.departure? = some n → n.name ≠ name) :
    (e.nodeEvent o event).targets.find? name ≠ none := by
  rw [nodeEvent_eq]
  cases hgone : event.departure? with
  | none => exact fun hnone => h ((find?_targets_applyNodes_eq_none_iff o e _ name).mp hnone).1
  | some n =>
      have hname : name ≠ n.name := fun heq => hdeletes n hgone heq.symm
      simp only [find?_targets_removeNode, if_neg hname]
      exact h

/-- Some nodes are no longer scraped. -/
def removeNodes (e : Exporter) (names : List String) (cause : String) : Exporter :=
  names.foldl (fun e n => e.removeNode n cause) e

/-- Nodes that are removed one after the other are gone together. -/
theorem targets_removeNodes (names : List String) (cause : String) :
    (e.removeNodes names cause).targets = e.targets.keep fun name => !names.contains name := by
  -- By induction on the names, with the targets free: each removal leaves fewer.
  induction names generalizing e with
  | nil => exact (List.filter_eq_self.mpr fun entry _ => rfl).symm
  | cons first rest ih =>
      have hrest : (e.removeNodes (first :: rest) cause).targets =
          (e.targets.erase first).keep fun name => !rest.contains name :=
        ih (e.removeNode first cause)
      rw [hrest, NameMap.erase, NameMap.keep, NameMap.keep, List.filter_filter, NameMap.keep]
      refine List.filter_congr fun entry _ => ?_
      by_cases hname : entry.1 = first
      · simp [hname]
      · simp [hname]

/-- What is left is what has none of the names. -/
theorem mem_index_removeNodes (names : List String) (cause : String) (s : Series) :
    s ∈ (e.removeNodes names cause).store.index ↔
      s ∈ e.store.index ∧ ∀ name ∈ names, s.value? .nodeName ≠ some name := by
  induction names generalizing e with
  | nil => simp [removeNodes]
  | cons name rest ih =>
      have h := ih (e.removeNode name cause)
      rw [removeNodes] at h
      rw [removeNodes, List.foldl_cons, h, mem_index_removeNode, List.forall_mem_cons, and_assoc]

theorem profiles_removeNodes (names : List String) (cause : String) :
    (e.removeNodes names cause).profiles = e.profiles :=
  foldl_keeps Exporter.profiles _ e names fun _ _ _ => rfl

theorem health_removeNodes (names : List String) (cause : String) :
    (e.removeNodes names cause).health = e.health :=
  foldl_keeps Exporter.health _ e names fun _ _ _ => rfl

/-- A target is stale if the listing lacks it. Names that are listed and not tracked
    do not matter. -/
theorem mem_staleNodes_iff (listed : List String) (name : String) :
    name ∈ e.staleNodes listed ↔ e.targets.find? name ≠ none ∧ name ∉ listed := by
  rw [staleNodes, List.mem_filter, NameMap.mem_names_iff]
  simp

/-- What is tracked after a sweep is what was tracked and is listed. -/
theorem targets_removeStaleNodes (listed : List String) :
    (e.removeStaleNodes listed).targets = e.targets.keep listed.contains := by
  have h : (e.removeStaleNodes listed).targets =
      e.targets.keep fun name => !(e.staleNodes listed).contains name :=
    targets_removeNodes e _ _
  rw [h]
  refine List.filter_congr fun entry hentry => ?_
  -- Of the names that are tracked the stale ones are those that are not listed.
  have htracked : entry.1 ∈ e.targets.names := List.mem_map.mpr ⟨entry, hentry, rfl⟩
  by_cases hlisted : entry.1 ∈ listed
  · simp [staleNodes, hlisted]
  · simp [staleNodes, hlisted, htracked]

/-- A sweep keeps the targets of the names that are listed, as they are. -/
theorem find?_targets_removeStaleNodes (listed : List String) (name : String) :
    (e.removeStaleNodes listed).targets.find? name
      = if name ∈ listed then e.targets.find? name else none := by
  rw [targets_removeStaleNodes, NameMap.find?_keep]
  simp

/-- The series that survive a sweep: those that do not carry the name of a
    node whose target is dropped. -/
theorem mem_index_removeStaleNodes (listed : List String) (s : Series) :
    s ∈ (e.removeStaleNodes listed).store.index ↔
      s ∈ e.store.index ∧ ∀ name, e.targets.find? name ≠ none → name ∉ listed →
        s.value? .nodeName ≠ some name := by
  have h : s ∈ (e.removeStaleNodes listed).store.index ↔
      s ∈ e.store.index ∧ ∀ name ∈ e.staleNodes listed, s.value? .nodeName ≠ some name :=
    mem_index_removeNodes e _ _ s
  rw [h]
  simp only [mem_staleNodes_iff, and_imp]

/-- Every target carries the name it is kept under. -/
def TargetsNamed (e : Exporter) : Prop :=
  ∀ entry ∈ e.targets, entry.2.name = entry.1

namespace TargetsNamed

variable {e}

/-- A node that is seen becomes a target under its own name. -/
theorem applyNode (h : e.TargetsNamed) (n : Node) : (e.applyNode o n).TargetsNamed := by
  unfold Exporter.applyNode
  by_cases hready : n.isReady = true
  · rw [if_pos hready]
    intro entry hentry
    rcases NameMap.mem_insert e.targets n.name _ entry hentry with rfl | hold
    · rfl
    · exact h entry hold
  · rw [if_neg hready]
    exact h

theorem applyNodes (h : e.TargetsNamed) (ns : List Node) : (e.applyNodes o ns).TargetsNamed := by
  induction ns generalizing e with
  | nil => exact h
  | cons n rest ih => exact ih (h.applyNode o n)

theorem removeNode (h : e.TargetsNamed) (name cause : String) :
    (e.removeNode name cause).TargetsNamed := by
  intro entry hentry
  have hkept : entry ∈ e.targets.erase name := hentry
  rw [NameMap.erase, NameMap.mem_keep] at hkept
  exact h entry hkept.1

/-- Every sweep removes by name only, so what is left carries its name still. -/
theorem removeStaleNodes (h : e.TargetsNamed) (listed : List String) :
    (e.removeStaleNodes listed).TargetsNamed := by
  -- The names that a sweep removes depend on the targets; the induction needs them fixed.
  suffices hall : ∀ names : List String, (e.removeNodes names Cause.sweep.word).TargetsNamed from
    hall (e.staleNodes listed)
  intro names
  induction names generalizing e with
  | nil => exact h
  | cons name rest ih => exact ih (h.removeNode name Cause.sweep.word)

theorem nodeEvent (h : e.TargetsNamed) (event : WatchEvent Node) :
    (e.nodeEvent o event).TargetsNamed := by
  rw [nodeEvent_eq]
  split
  · exact h.removeNode _ _
  · exact h.applyNodes o _

/-- What a snapshot shows is tracked under the name that it shows. -/
theorem tracked (h : e.TargetsNamed) (t : Target) (ht : t ∈ e.snapshot) :
    e.targets.find? t.name ≠ none := by
  rcases List.mem_map.mp ht with ⟨entry, hentry, rfl⟩
  rw [h entry hentry]
  exact (NameMap.mem_names_iff e.targets entry.1).mp (List.mem_map.mpr ⟨entry, hentry, rfl⟩)

end TargetsNamed

end Exporter

/-- A node that is ready. -/
def readyNode : Node :=
  { name := "node", conditions := [{ kind := "Ready", status := "True" }], addresses := []
    kubeletPort := 10250 }

end StorageGauges
