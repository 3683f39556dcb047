import Mathlib.Data.List.Find
import StorageGauges.Proofs.Gauge.Sharing

/-!
# What Is Read

Reading a series gives a value exactly if the series is live. A write gives
its own series the value that was written, and a deletion takes what it picks
out. Any other series is read as before, unless its gauge is shared with what
was written or deleted.

Deletions one after the other are one deletion, of what any of them picks
out, gauges included. So the order in which they are made does not matter.

## Theorems

* `Store.get?_eq_none_iff`: What is not live has no value.
* `Store.get?_set_self`, `Store.get?_set_of_apart`: A write.
* `Store.get?_remove_self`, `Store.get?_remove_of_apart`: A deletion.
* `Store.remove_remove`: Two deletions are one.
-/

namespace StorageGauges

namespace Series

theorem sharesGauge_trans (s t u : Series) (hst : s.sharesGauge t = true)
    (htu : t.sharesGauge u = true) : s.sharesGauge u = true := by
  rw [sharesGauge_iff] at *
  exact ⟨hst.1.trans htu.1, hst.2.trans htu.2⟩

end Series

namespace Store

/-- A gauge of a series is no gauge of another one that is apart from it. -/
theorem serves_eq_false_of_apart (g : Gauge) (s t : Series) (hs : g.serves s = true)
    (hapart : t.sharesGauge s = false) : g.serves t = false := by
  rw [← Bool.not_eq_true] at hapart ⊢
  intro ht
  have htg : t.sharesGauge g.series = true := by
    rw [Series.sharesGauge_comm]
    exact ht
  exact hapart (Series.sharesGauge_trans t g.series s htg hs)

/-- The gauge of a series after a write: the one it had, with the new value if
    that is the gauge that was written, or the one that was made. -/
theorem gauge?_set (st : Store) (t s : Series) (x : Float) :
    (st.set t x).gauge? s =
      if st.gauges.any fun g => g.serves t then
        (st.gauge? s).map fun g => if g.serves t then { g with value := x } else g
      else (st.gauge? s).or
        (if t.sharesGauge s then some { series := t, value := x } else none) := by
  unfold gauge? set assign
  split
  · rw [List.find?_map]
    have hserves : ((fun g : Gauge => g.serves s) ∘
        fun g => if g.serves t = true then { g with value := x } else g) = (·.serves s) := by
      funext g
      rw [Function.comp_apply]
      split <;> rfl
    rw [hserves]
  · rw [List.find?_append, List.find?_singleton]
    rfl

/-- A series that was written has a gauge, and it has the value that was written.
    The gauge may have been made for another series. -/
theorem gauge?_set_self (st : Store) (s : Series) (x : Float) :
    ∃ g, (st.set s x).gauge? s = some g ∧ g.value = x := by
  rw [gauge?_set]
  split
  · rename_i hany
    -- A gauge that serves the series is there, so one is found.
    cases hfind : st.gauge? s with
    | none =>
        rcases List.any_eq_true.mp hany with ⟨g, hg, hserves⟩
        exact absurd hserves (Bool.eq_false_iff.mp ((gauge?_eq_none_iff st s).mp hfind g hg))
    | some g =>
        have hserves := serves_of_gauge?_eq_some st s g hfind
        exact ⟨{ g with value := x }, by rw [Option.map_some, if_pos hserves], rfl⟩
  · rename_i hany
    have hnone : st.gauge? s = none := by
      rw [gauge?_eq_none_iff]
      exact fun g hg => Bool.eq_false_iff.mpr
        fun hserves => hany (List.any_eq_true.mpr ⟨g, hg, hserves⟩)
    rw [hnone, Option.none_or, if_pos (Series.sharesGauge_self s)]
    exact ⟨_, rfl, rfl⟩

/-- A write to a series that is apart leaves a gauge as it is. -/
theorem gauge?_set_of_apart (st : Store) (t s : Series) (x : Float)
    (hapart : t.sharesGauge s = false) : (st.set t x).gauge? s = st.gauge? s := by
  rw [gauge?_set]
  split
  · cases hfind : st.gauge? s with
    | none => rfl
    | some g =>
        -- The gauge that is found serves `s`, so it did not get the new value.
        have hs := serves_of_gauge?_eq_some st s g hfind
        have ht := serves_eq_false_of_apart g s t hs hapart
        rw [Option.map_some, if_neg (Bool.eq_false_iff.mp ht)]
  · rw [if_neg (Bool.eq_false_iff.mp hapart), Option.or_none]

/-- A deletion leaves every gauge whose series are apart from what goes. -/
theorem gauge?_remove_of_apart (st : Store) (test : Series → Bool) (s : Series)
    (hapart : ∀ t ∈ st.index, test t = true → t.sharesGauge s = false) :
    (st.remove test).gauge? s = st.gauge? s := by
  unfold gauge? remove
  rw [List.find?_filter]
  refine List.find?_congr fun g hg => ?_
  -- Only gauges of the series matter to what is found.
  by_cases hs : g.serves s = true
  · have hkept : ((st.index.filter test).any g.serves) = false := by
      rw [List.any_eq_false]
      intro t ht
      have ht := List.mem_filter.mp ht
      exact Bool.eq_false_iff.mp
        (serves_eq_false_of_apart g s t hs (hapart t ht.1 ht.2))
    simp [hs, hkept]
  · simp [hs]

/-- Nothing is read exactly of what is not live. What is live and has no gauge reads
    as zero. -/
theorem get?_eq_none_iff (st : Store) (s : Series) : st.get? s = none ↔ s ∉ st.index := by
  rw [← tracks_iff, get?]
  split
  · rename_i hlive
    refine iff_of_false ?_ (not_not_intro hlive)
    split <;> exact Option.some_ne_none _
  · rename_i hlive
    exact iff_of_true rfl hlive

/-- A series that is live in two stores, and has the same gauge in both or none,
    is read the same. -/
theorem get?_congr (st other : Store) (s : Series) (hlive : s ∈ st.index ↔ s ∈ other.index)
    (hgauge : st.gauge? s = other.gauge? s) : st.get? s = other.get? s := by
  have htracks : st.tracks s = other.tracks s := by
    rw [Bool.eq_iff_iff, tracks_iff, tracks_iff]
    exact hlive
  rw [get?, get?, htracks, hgauge]

/-- What was written is what is read. -/
theorem get?_set_self (st : Store) (s : Series) (x : Float) : (st.set s x).get? s = some x := by
  have hlive : (st.set s x).tracks s = true :=
    (tracks_iff _ s).mpr ((mem_index_set st s s x).mpr (Or.inl rfl))
  rcases gauge?_set_self st s x with ⟨g, hg, hvalue⟩
  rw [get?, if_pos hlive, hg]
  exact congrArg some hvalue

/-- A write to a series that is apart changes nothing that is read. -/
theorem get?_set_of_apart (st : Store) (t s : Series) (x : Float)
    (hapart : t.sharesGauge s = false) : (st.set t x).get? s = st.get? s := by
  refine get?_congr _ _ s ?_ (gauge?_set_of_apart st t s x hapart)
  rw [mem_index_set]
  refine or_iff_right ?_
  rintro rfl
  exact Bool.eq_false_iff.mp hapart (Series.sharesGauge_self s)

theorem get?_remove_self (st : Store) (test : Series → Bool) (s : Series)
    (htest : test s = true) : (st.remove test).get? s = none := by
  rw [get?_eq_none_iff, mem_index_remove, htest]
  exact fun h => absurd h.2 (by simp only [Bool.true_eq_false, not_false_eq_true])

/-- A deletion of what is apart changes nothing that is read. -/
theorem get?_remove_of_apart (st : Store) (test : Series → Bool) (s : Series)
    (hapart : ∀ t ∈ st.index, test t = true → t.sharesGauge s = false) :
    (st.remove test).get? s = st.get? s := by
  refine get?_congr _ _ s ?_ (gauge?_remove_of_apart st test s hapart)
  rw [mem_index_remove]
  refine and_iff_left_of_imp fun hlive => ?_
  -- What goes is apart from `s`, and no series is apart from itself.
  rw [← Bool.not_eq_true]
  intro htest
  exact Bool.eq_false_iff.mp (hapart s hlive htest) (Series.sharesGauge_self s)

/-- Deletions one after the other are one deletion of what either picks out. -/
theorem remove_remove (st : Store) (test other : Series → Bool) :
    (st.remove test).remove other = st.remove fun s => test s || other s := by
  -- What the two deletions take is what either test picks out of the first index.
  have hgone : ∀ g : Gauge,
      (st.index.filter fun s => test s || other s).any g.serves =
        ((st.index.filter test).any g.serves ||
          ((st.index.filter fun s => !test s).filter other).any g.serves) := by
    intro g
    rw [Bool.eq_iff_iff, Bool.or_eq_true, List.any_eq_true, List.any_eq_true, List.any_eq_true]
    simp only [List.mem_filter, Bool.or_eq_true, Bool.not_eq_true']
    constructor
    · -- What the second deletion takes was left by the first.
      rintro ⟨s, ⟨hs, htest⟩, hserves⟩
      by_cases hfirst : test s = true
      · exact Or.inl ⟨s, ⟨hs, hfirst⟩, hserves⟩
      · exact Or.inr ⟨s, ⟨⟨hs, Bool.eq_false_iff.mpr hfirst⟩, htest.resolve_left hfirst⟩, hserves⟩
    · rintro (⟨s, ⟨hs, htest⟩, hserves⟩ | ⟨s, ⟨⟨hs, -⟩, htest⟩, hserves⟩)
      · exact ⟨s, ⟨hs, Or.inl htest⟩, hserves⟩
      · exact ⟨s, ⟨hs, Or.inr htest⟩, hserves⟩
  unfold remove
  simp only [hgone, List.filter_filter, Bool.not_or, Bool.and_comm]

end Store

end StorageGauges
