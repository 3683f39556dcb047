import StorageGauges.Exporter.Process

/-!
# What Is Live

The index of the store says which series are live. Every operation on the
store changes the index in a way that does not depend on the gauges, so what
is live after writes and evictions is told here by membership alone, and the
proofs about runs of the exporter never look into the store.

## Theorems

* `Series.matchesLabel_eq_true_iff`: A series matches the text of its label.
* `Store.mem_index_applyAll`: Writes add what they write.
* `Store.mem_index_evictLabel`: An eviction leaves what does not match.
* `Store.mem_index_evictNode`, `Store.mem_index_evictPod`: The two evictions
  of the exporter.
* `Store.nodup_index_set`, `Store.nodup_index_remove`: Nothing is live twice.
-/

namespace StorageGauges

namespace Series

/-- The test of a deletion in terms of the value of a label. A family that lacks the
    label has no value for it, so nothing of such a family is picked out. -/
theorem matchesLabel_eq_true_iff (s : Series) (l : Label) (text : String) :
    s.matchesLabel l text = true ↔ s.value? l = some text := by
  rw [matchesLabel, beq_iff_eq]

theorem matchesLabel_eq_false_iff (s : Series) (l : Label) (text : String) :
    s.matchesLabel l text = false ↔ s.value? l ≠ some text := by
  rw [← Bool.not_eq_true, matchesLabel_eq_true_iff]

end Series

namespace Store

theorem tracks_iff (st : Store) (s : Series) : st.tracks s = true ↔ s ∈ st.index := by
  rw [tracks, List.contains_iff_mem]

theorem mem_index_apply (st : Store) (w : Write) (s : Series) :
    s ∈ (st.apply w).index ↔ s = w.series ∨ s ∈ st.index :=
  mem_index_set st w.series s w.value

/-- What is live after some writes: what was, and what was written. The order of the
    writes does not matter here, as no write takes a series away. -/
theorem mem_index_applyAll (st : Store) (ws : List Write) (s : Series) :
    s ∈ (st.applyAll ws).index ↔ s ∈ st.index ∨ ∃ w ∈ ws, w.series = s := by
  induction ws generalizing st with
  | nil => simp [applyAll]
  | cons w rest ih =>
      -- The statement for the rest is about the fold from `st.apply w`, hence for all
      -- stores.
      have h := ih (st.apply w)
      rw [applyAll] at h
      rw [applyAll, List.foldl_cons, h, mem_index_apply]
      constructor
      · rintro ((rfl | hs) | ⟨other, hmem, rfl⟩)
        · exact Or.inr ⟨w, List.mem_cons_self, rfl⟩
        · exact Or.inl hs
        · exact Or.inr ⟨other, List.mem_cons_of_mem w hmem, rfl⟩
      · rintro (hs | ⟨other, hmem, rfl⟩)
        · exact Or.inl (Or.inr hs)
        · rcases List.mem_cons.mp hmem with rfl | hmem
          · exact Or.inl (Or.inl rfl)
          · exact Or.inr ⟨other, hmem, rfl⟩

theorem mem_index_evict (st : Store) (test : Series → Bool) (s : Series) :
    s ∈ (st.evict test).store.index ↔ s ∈ st.index ∧ test s = false :=
  mem_index_remove st test s

theorem mem_index_evictLabel (st : Store) (l : Label) (text : String) (s : Series) :
    s ∈ (st.evictLabel l text).store.index ↔ s ∈ st.index ∧ s.value? l ≠ some text := by
  rw [evictLabel, mem_index_evict, Series.matchesLabel_eq_false_iff]

/-- A node takes the series that have its name, in all families, since all have the
    label. -/
theorem mem_index_evictNode (st : Store) (node : String) (s : Series) :
    s ∈ (st.evictNode node).store.index ↔ s ∈ st.index ∧ s.value? .nodeName ≠ some node :=
  mem_index_evictLabel st .nodeName node s

/-- Containers are evicted one after the other, each from what the one before
    has left. -/
theorem mem_index_foldl_container (names : List String) (e : Eviction) (s : Series) :
    s ∈ (names.foldl Eviction.container e).store.index ↔
      s ∈ e.store.index ∧ ∀ c ∈ names, s.value? .container ≠ some c := by
  induction names generalizing e with
  | nil => simp
  | cons name rest ih =>
      rw [List.foldl_cons, ih, Eviction.container, mem_index_evictLabel, List.forall_mem_cons,
        and_assoc]

/-- A pod takes the series that have its name and those that have the name of one of
    its containers, whichever pod the latter are of. -/
theorem mem_index_evictPod (st : Store) (pod : String) (containers : List String) (s : Series) :
    s ∈ (st.evictPod pod containers).store.index ↔
      s ∈ st.index ∧ s.value? .podName ≠ some pod
        ∧ ∀ c ∈ containers, s.value? .container ≠ some c := by
  rw [evictPod, mem_index_foldl_container, mem_index_evictLabel, and_assoc]

/-- A write adds a series only if it is not live, so none is there twice. -/
theorem nodup_index_set (st : Store) (s : Series) (x : Float) (h : st.index.Nodup) :
    (st.set s x).index.Nodup := by
  rw [set, track]
  by_cases hs : st.tracks s = true
  · rw [if_pos hs]
    exact h
  · rw [if_neg hs]
    rw [tracks_iff] at hs
    exact List.nodup_append.mpr ⟨h, by simp, fun a ha b hb hab => hs (by simp_all)⟩

theorem nodup_index_remove (st : Store) (test : Series → Bool) (h : st.index.Nodup) :
    (st.remove test).index.Nodup :=
  h.filter _

end Store

end StorageGauges
