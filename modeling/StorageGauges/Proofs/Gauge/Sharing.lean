import Mathlib.Data.List.Pairwise
import StorageGauges.Proofs.Gauge.Index

/-!
# Who Shares a Gauge

Two series share a gauge if they are of one family and have the same key, which
is a hash of their label values. The store never has two gauges for series that
share one, so every series has at most one gauge, and the gauge it has may
have been created for another series.

Values that join to the same text have the same key, but so have others: a key
is a word of 64 bits. Two texts are given here that have one hash
(`Series.sharesGauge_twins`). Names of pods and of nodes can be these.

Whether a gauge for some series is there after a write, a read or a deletion
is told here in terms of sharing alone.

## Main definitions

* `Series.twin`, `Series.otherTwin`: Two texts of one hash.
* `Series.twinAvailable`, `Series.otherTwinAvailable`: Two series that share a
  gauge for this reason.
* `Store.OneGaugeEach`: No two gauges serve the same series.

## Theorems

* `Series.sharesGauge_iff`: When two series share a gauge.
* `Series.sharesGauge_twins`: Some do whose values are not the same text.
* `Store.mem_assign_of_not_shares`: A write changes what is shared, only that.
* `Store.mem_gauges_remove`: A deletion takes what is shared with what goes.
* `Store.OneGaugeEach.set`, `Store.OneGaugeEach.touch`,
  `Store.OneGaugeEach.remove`: Series never get a second gauge.
* `Store.OneGaugeEach.eq_of_shares`: Two gauges that are shared are the same.
-/

namespace StorageGauges

namespace Series

theorem sharesGauge_iff (s t : Series) :
    s.sharesGauge t = true ↔ s.family = t.family ∧ s.key = t.key := by
  simp [sharesGauge]

theorem sharesGauge_self (s : Series) : s.sharesGauge s = true :=
  (sharesGauge_iff s s).mpr ⟨rfl, rfl⟩

/-- Sharing is an equality of families and keys, and so symmetric. -/
theorem sharesGauge_comm (s t : Series) : s.sharesGauge t = t.sharesGauge s := by
  rw [Bool.eq_iff_iff, sharesGauge_iff, sharesGauge_iff, eq_comm, eq_comm (a := s.key)]

/-- One of two texts that have the same hash. -/
def twin : String :=
  "e173a2296dba5165"

/-- The other one. -/
def otherTwin : String :=
  "d74d41c79724b910"

/-- What is available at a node that has the one as its name. -/
def twinAvailable : Series :=
  ⟨.nodeAvailable, [twin], rfl⟩

/-- What is available at a node that has the other as its name. -/
def otherTwinAvailable : Series :=
  ⟨.nodeAvailable, [otherTwin], rfl⟩

/-- Series of nodes that have these names share a gauge, and their values are not
    the same text. -/
theorem sharesGauge_twins (f : Family) (h : f.labels = Family.nodeLabels) :
    (ofNode f twin h).sharesGauge (ofNode f otherTwin h) = true ∧
      (ofNode f twin h).bytes ≠ (ofNode f otherTwin h).bytes := by
  -- Equal hashes are a finite computation; what is left are two texts of one value each.
  have hhash : Fnv.hash (Utf8.encode twin) = Fnv.hash (Utf8.encode otherTwin) := by decide +kernel
  have hbytes : ∀ node, (ofNode f node h).bytes = Utf8.encode node := fun node =>
    List.flatMap_singleton Utf8.encode node
  refine ⟨(sharesGauge_iff _ _).mpr ⟨rfl, ?_⟩, ?_⟩
  · rw [key, key, hbytes, hbytes, hhash]
  · rw [hbytes, hbytes]
    decide

end Series

theorem Gauge.serves_self (s : Series) (x : Float) :
    ({ series := s, value := x } : Gauge).serves s = true :=
  Series.sharesGauge_self s

namespace Store

/-- A gauge whose series does not share the one that is written stays as it
    is, and none of that kind is added. -/
theorem mem_assign_of_not_shares (gauges : List Gauge) (t : Series) (x : Float) (g : Gauge)
    (h : g.serves t = false) : g ∈ assign gauges t x ↔ g ∈ gauges := by
  unfold assign
  split
  · constructor
    · intro hg
      rcases List.mem_map.mp hg with ⟨old, hold, rfl⟩
      by_cases hserves : old.serves t = true
      · -- A gauge that got the new value still serves `t`, so it is not `g`.
        rw [if_pos hserves] at h
        exact absurd h (by simpa [Gauge.serves] using hserves)
      · rw [if_neg hserves]
        exact hold
    · intro hg
      exact List.mem_map.mpr ⟨g, hg, by simp [h]⟩
  · rw [List.mem_append, List.mem_singleton]
    refine or_iff_left fun heq => ?_
    rw [heq] at h
    exact Bool.eq_false_iff.mp h (Gauge.serves_self t x)

/-- The gauges after a write are for the series that was written and for those
    that had one before. -/
theorem series_of_mem_assign (gauges : List Gauge) (t : Series) (x : Float) (g : Gauge)
    (h : g ∈ assign gauges t x) : g.series = t ∨ ∃ old ∈ gauges, old.series = g.series := by
  unfold assign at h
  split at h
  · rcases List.mem_map.mp h with ⟨old, hold, rfl⟩
    refine Or.inr ⟨old, hold, ?_⟩
    split <;> rfl
  · rcases List.mem_append.mp h with hold | hnew
    · exact Or.inr ⟨g, hold, rfl⟩
    · rw [List.mem_singleton.mp hnew]
      exact Or.inl rfl

/-- If nothing else shares its gauge, a series that is written has a gauge with
    the value that was written and no other. -/
theorem mem_assign_self (gauges : List Gauge) (t : Series) (x v : Float)
    (halone : ∀ g ∈ gauges, g.serves t = true → g.series = t) :
    { series := t, value := v } ∈ assign gauges t x ↔ v = x := by
  unfold assign
  split
  · rename_i hany
    constructor
    · -- What serves `t` has got the value, and nothing else is a gauge of `t`.
      intro hmem
      rcases List.mem_map.mp hmem with ⟨old, -, heq⟩
      by_cases hserves : old.serves t = true
      · rw [if_pos hserves] at heq
        exact (congrArg Gauge.value heq).symm
      · rw [if_neg hserves] at heq
        rw [heq] at hserves
        exact absurd (Gauge.serves_self t v) hserves
    · rintro rfl
      rcases List.any_eq_true.mp hany with ⟨old, hold, hserves⟩
      refine List.mem_map.mpr ⟨old, hold, ?_⟩
      rw [if_pos hserves, ← halone old hold hserves]
  · rename_i hnone
    rw [List.mem_append, List.mem_singleton]
    constructor
    · rintro (hold | heq)
      · exact absurd (List.any_eq_true.mpr ⟨_, hold, Series.sharesGauge_self t⟩) hnone
      · exact congrArg Gauge.value heq
    · rintro rfl
      exact Or.inr rfl

/-- Reading gives a live series without a gauge one, and changes nothing
    else. -/
theorem mem_gauges_touch (st : Store) (t : Series) (g : Gauge) :
    g ∈ (st.touch t).gauges ↔
      g ∈ st.gauges ∨ (t ∈ st.index ∧ st.gauge? t = none ∧ g = { series := t, value := 0.0 }) := by
  rw [touch, ← tracks_iff]
  by_cases h : (st.tracks t && (st.gauge? t).isNone) = true
  · rw [if_pos h, List.mem_append, List.mem_singleton]
    rw [Bool.and_eq_true, Option.isNone_iff_eq_none] at h
    simp only [h, true_and]
  · rw [if_neg h]
    rw [Bool.and_eq_true, Option.isNone_iff_eq_none] at h
    exact (or_iff_left fun hnew => h ⟨hnew.1, hnew.2.1⟩).symm

theorem index_touch (st : Store) (t : Series) : (st.touch t).index = st.index := by
  unfold touch
  split <;> rfl

/-- A deletion takes every gauge that is shared with a series that goes,
    whatever series the gauge was created for. -/
theorem mem_gauges_remove (st : Store) (test : Series → Bool) (g : Gauge) :
    g ∈ (st.remove test).gauges ↔
      g ∈ st.gauges ∧ ∀ u ∈ st.index, test u = true → g.serves u = false := by
  simp [remove]

theorem gauge?_eq_none_iff (st : Store) (s : Series) :
    st.gauge? s = none ↔ ∀ g ∈ st.gauges, g.serves s = false := by
  simp [gauge?]

theorem serves_of_gauge?_eq_some (st : Store) (s : Series) (g : Gauge)
    (h : st.gauge? s = some g) : g.serves s = true := by
  have hfound := List.find?_some h
  exact hfound

/-- No two gauges serve the same series. -/
def OneGaugeEach (st : Store) : Prop :=
  st.gauges.Pairwise fun g h => g.series.sharesGauge h.series = false

namespace OneGaugeEach

variable {st : Store}

theorem append (h : st.OneGaugeEach) (s : Series) (x : Float)
    (hnone : ∀ g ∈ st.gauges, g.serves s = false) :
    ({ st with gauges := st.gauges ++ [{ series := s, value := x }] } : Store).OneGaugeEach := by
  refine List.pairwise_append.mpr ⟨h, List.pairwise_singleton _ _, fun g hg other hother => ?_⟩
  rw [List.mem_singleton.mp hother]
  exact hnone g hg

/-- A write makes a gauge only if none serves its series, so no second one comes
    about. -/
theorem set (h : st.OneGaugeEach) (s : Series) (x : Float) : (st.set s x).OneGaugeEach := by
  unfold OneGaugeEach Store.set assign
  split
  · -- New values leave the series of the gauges as they are.
    refine List.pairwise_map.mpr (h.imp fun {g other} hne => ?_)
    split <;> split <;> exact hne
  · rename_i hany
    refine h.append s x fun g hg => ?_
    rw [← Bool.not_eq_true]
    exact fun hserves => hany (List.any_eq_true.mpr ⟨g, hg, hserves⟩)

/-- Reading makes a gauge under the same condition as a write does. -/
theorem touch (h : st.OneGaugeEach) (s : Series) : (st.touch s).OneGaugeEach := by
  unfold Store.touch
  split
  · rename_i hnone
    rw [Bool.and_eq_true, Option.isNone_iff_eq_none, gauge?_eq_none_iff] at hnone
    exact h.append s 0.0 hnone.2
  · exact h

theorem remove (h : st.OneGaugeEach) (test : Series → Bool) : (st.remove test).OneGaugeEach :=
  h.filter _

/-- Two gauges whose series share one are the same. -/
theorem eq_of_shares (h : st.OneGaugeEach) (g other : Gauge) (hg : g ∈ st.gauges)
    (hother : other ∈ st.gauges) (hshares : g.series.sharesGauge other.series = true) :
    g = other := by
  by_contra hne
  have : Std.Symm fun g other : Gauge => g.series.sharesGauge other.series = false :=
    ⟨fun a b hab => by rw [Series.sharesGauge_comm]; exact hab⟩
  rw [List.Pairwise.forall h hg hother hne] at hshares
  exact absurd hshares (by simp)

end OneGaugeEach

end Store

end StorageGauges
