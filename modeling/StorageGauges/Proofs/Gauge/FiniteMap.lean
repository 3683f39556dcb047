import Mathlib.Data.List.Induction
import StorageGauges.Gauge.Exposition
import StorageGauges.Proofs.Gauge.Sharing
import StorageGauges.Proofs.Run

/-!
# When a Family Is a Map

A gauge family is meant to be a finite map from label values to numbers: a
series has the number that was last written to it, unless it has been deleted
since, and what is written to one series says nothing about another.

The store keeps that promise exactly as long as no two series of the family
that have a number at the same time have the same key. The index alone keeps it
always. It is the gauges that are found by keys, and of two series with one key
that which comes second gets the gauge of the first.

Reads are calls too, since reading a series can create its gauge.

## Main definitions

* `GaugeCall`: A write, a read or a deletion.
* `Store.call`, `Store.after`: A call, and all calls from the empty store.
* `GaugeCall.Changes`: A call gives a series another number or none.
* `Standing`: The number that a series has after some calls.
* `KeysApart`: No two series with a number have the same key.
* `Store.IsMap`: The store shows a family as the map that calls describe.

## Theorems

* `standing_snoc_iff`: What a series has after one more call.
* `standing_unique`: A series has one number.
* `Store.mem_index_after_iff`: The index is the domain of the map, always.
* `Store.mem_gauges_after_iff`: The gauges are its graph while keys are apart.
* `Store.isMap_after`: So the family is the map.
* `isMap_iff_keysApart`: It is the map exactly then.
-/

namespace StorageGauges

/-- A call on the families: a series is written or read, or the series of a
    family with some text for a label are deleted. The label is given by its
    name. -/
inductive GaugeCall
  | set (s : Series) (x : Float)
  | read (s : Series)
  | delete (f : Family) (label text : String)

namespace GaugeCall

/-- A call gives a series another number or none. -/
def Changes (s : Series) : GaugeCall → Prop
  | set t _ => t = s
  | read _ => False
  | delete f label text => s.family = f ∧ ∃ l, Label.ofName? label = some l ∧ s.value? l = some text

end GaugeCall

/-- The number that a series has after some calls: one that was written to it
    and that no later call has changed. -/
def Standing (calls : List GaugeCall) (s : Series) (x : Float) : Prop :=
  Since (fun _ _ => ()) (fun _ c => c = .set s x) (fun _ c => c.Changes s) () calls

/-- No two series of a family that have a number have the same key. -/
def KeysApart (f : Family) (calls : List GaugeCall) : Prop :=
  ∀ s t x y, s.family = f → t.family = f → Standing calls s x → Standing calls t y →
    s.key = t.key → s = t

namespace Store

/-- A call is made. A label that the family does not have matches nothing. -/
def call (st : Store) : GaugeCall → Store
  | .set s x => st.set s x
  | .read s => st.touch s
  | .delete f label text =>
    match Label.ofName? label with
    | some l => (st.deleteMatching f l text).store
    | none => st

/-- The store after some calls. -/
def after (calls : List GaugeCall) : Store :=
  calls.foldl call empty

/-- The store shows a family as the map that some calls describe: reading a
    series gives its number, the gauges are the series that have a number with
    that number, the index holds the same series, and it counts the gauges. -/
structure IsMap (st : Store) (f : Family) (calls : List GaugeCall) : Prop where
  read : ∀ s x, s.family = f → (st.get? s = some x ↔ Standing calls s x)
  exposed : ∀ s x, s.family = f →
    ({ series := s, value := x } ∈ st.gauges ↔ Standing calls s x)
  tracked : ∀ s, s.family = f → (s ∈ st.index ↔ ∃ x, Standing calls s x)
  counted : st.familySize f = (Exposed.family st f).length

end Store

theorem standing_snoc_iff (calls : List GaugeCall) (c : GaugeCall) (s : Series) (x : Float) :
    Standing (calls ++ [c]) s x ↔ c = .set s x ∨ (Standing calls s x ∧ ¬ c.Changes s) :=
  since_snoc_iff _ _ _ () calls c

theorem not_standing_nil (s : Series) (x : Float) : ¬ Standing [] s x :=
  not_since_nil _ _ _ ()

/-- A series has one number. -/
theorem standing_unique (calls : List GaugeCall) (s : Series) (x y : Float)
    (hx : Standing calls s x) (hy : Standing calls s y) : x = y := by
  induction calls using List.reverseRecOn with
  | nil => exact absurd hx (not_standing_nil s x)
  | append_singleton calls c ih =>
      rw [standing_snoc_iff] at hx hy
      rcases hx with rfl | ⟨hx, hcx⟩
      · rcases hy with heq | ⟨-, hcy⟩
        · exact (GaugeCall.set.inj heq).2
        · exact absurd rfl hcy
      · rcases hy with rfl | ⟨hy, -⟩
        · exact absurd rfl hcx
        · exact ih hx hy

/-- A write gives its series a number and leaves those of others. -/
theorem standing_set_iff (calls : List GaugeCall) (t : Series) (y : Float) (s : Series)
    (hne : s ≠ t) (x : Float) : Standing (calls ++ [.set t y]) s x ↔ Standing calls s x := by
  rw [standing_snoc_iff]
  constructor
  · rintro (heq | ⟨h, -⟩)
    · exact absurd (GaugeCall.set.inj heq).1.symm hne
    · exact h
  · exact fun h => Or.inr ⟨h, fun heq => hne heq.symm⟩

/-- A read gives no number to any series and takes none. -/
theorem standing_read_iff (calls : List GaugeCall) (t s : Series) (x : Float) :
    Standing (calls ++ [.read t]) s x ↔ Standing calls s x := by
  simp [standing_snoc_iff, GaugeCall.Changes]

/-- A deletion gives no number, and what it changes it takes. -/
theorem standing_delete_iff (calls : List GaugeCall) (f : Family) (label text : String)
    (s : Series) (x : Float) :
    Standing (calls ++ [.delete f label text]) s x ↔
      Standing calls s x ∧ ¬ (GaugeCall.delete f label text).Changes s := by
  simp [standing_snoc_iff]

/-- A deletion by a label that there is changes what its test picks out. -/
theorem changes_delete_iff (f : Family) (label text : String) (l : Label)
    (hl : Label.ofName? label = some l) (s : Series) :
    (GaugeCall.delete f label text).Changes s ↔
      (decide (s.family = f) && s.matchesLabel l text) = true := by
  rw [GaugeCall.Changes, Bool.and_eq_true, decide_eq_true_iff, Series.matchesLabel_eq_true_iff]
  simp [hl]

/-- Two series with a number that share a gauge are the same while keys are
    apart. -/
theorem KeysApart.eq_of_sharesGauge {f : Family} {calls : List GaugeCall}
    (h : KeysApart f calls) (s t : Series) (x y : Float) (hs : s.family = f)
    (hx : Standing calls s x) (hy : Standing calls t y) (hshares : s.sharesGauge t = true) :
    s = t := by
  rw [Series.sharesGauge_iff] at hshares
  exact h s t x y hs (hshares.1.symm.trans hs) hx hy hshares.2

namespace Store

-- A run of calls is taken apart at its end, where the last call is.
theorem after_snoc (calls : List GaugeCall) (c : GaugeCall) :
    after (calls ++ [c]) = (after calls).call c := by
  rw [after, List.foldl_append]
  rfl

/-- The series that are live are those that have a number. -/
theorem mem_index_after_iff (calls : List GaugeCall) (s : Series) :
    s ∈ (after calls).index ↔ ∃ x, Standing calls s x := by
  induction calls using List.reverseRecOn with
  | nil => exact iff_of_false List.not_mem_nil fun ⟨x, hx⟩ => not_standing_nil s x hx
  | append_singleton calls c ih =>
      rw [after_snoc]
      cases c with
      | set t y =>
          rw [call, mem_index_set]
          by_cases heq : s = t
          · refine iff_of_true (Or.inl heq) ⟨y, (standing_snoc_iff calls _ s y).mpr (Or.inl ?_)⟩
            rw [heq]
          · simp only [standing_set_iff calls t y s heq, ← ih, heq, false_or]
      | read t =>
          rw [call, index_touch, ih]
          simp only [standing_read_iff]
      | delete f label text =>
          simp only [standing_delete_iff, exists_and_right, ← ih]
          cases hl : Label.ofName? label with
          | none => simp [call, hl, GaugeCall.Changes]
          | some l =>
              simp only [call, hl, deleteMatching, mem_index_evict,
                changes_delete_iff f label text l hl, Bool.not_eq_true]

/-- No series is in the index twice, whatever calls were made. -/
theorem nodup_index_after (calls : List GaugeCall) : (after calls).index.Nodup := by
  induction calls using List.reverseRecOn with
  | nil => exact List.nodup_nil
  | append_singleton calls c ih =>
      rw [after_snoc]
      -- A write and a read keep the index as they should; a deletion whose label is
      -- unknown does nothing.
      cases c with
      | set t y => exact nodup_index_set _ t y ih
      | read t =>
          rw [call, index_touch]
          exact ih
      | delete f label text =>
          rw [call]
          split
          · exact nodup_index_remove _ _ ih
          · exact ih

/-- Nor has a series two gauges. Keys need not be apart for this. -/
theorem oneGaugeEach_after (calls : List GaugeCall) : (after calls).OneGaugeEach := by
  induction calls using List.reverseRecOn with
  | nil => exact List.Pairwise.nil
  | append_singleton calls c ih =>
      rw [after_snoc]
      cases c with
      | set t y => exact ih.set t y
      | read t => exact ih.touch t
      | delete f label text =>
          rw [call]
          split
          · exact ih.remove _
          · exact ih

/-- The gauges of a family are the series that have a number, with it. -/
def ShowsGraph (st : Store) (f : Family) (calls : List GaugeCall) : Prop :=
  ∀ s x, s.family = f → ({ series := s, value := x } ∈ st.gauges ↔ Standing calls s x)

namespace ShowsGraph

variable {st : Store} {f : Family} {calls : List GaugeCall}

/-- What has a number and shares the gauge that is written is the series that
    is written. -/
theorem eq_of_shares_written (t : Series) (y : Float)
    (hapart : KeysApart f (calls ++ [.set t y])) (u : Series) (z : Float) (hu : u.family = f)
    (hz : Standing calls u z) (hshares : u.sharesGauge t = true) : u = t := by
  by_contra hne
  have hwritten := (standing_snoc_iff calls (.set t y) t y).mpr (Or.inl rfl)
  have hkept := (standing_set_iff calls t y u hne z).mpr hz
  exact hne (hapart.eq_of_sharesGauge u t z y hu hkept hwritten hshares)

/-- The series that is written has the gauge with the new number and no
    other. -/
theorem set_self (h : st.ShowsGraph f calls) (t : Series) (y : Float) (ht : t.family = f)
    (hapart : KeysApart f (calls ++ [.set t y])) (x : Float) :
    { series := t, value := x } ∈ (st.call (.set t y)).gauges ↔
      Standing (calls ++ [.set t y]) t x := by
  -- No other series has a gauge that would get the number as well.
  have halone : ∀ g ∈ st.gauges, g.serves t = true → g.series = t := by
    intro g hg hserves
    have hfamily := ((Series.sharesGauge_iff g.series t).mp hserves).1.trans ht
    have hg' := (h g.series g.value hfamily).mp hg
    exact eq_of_shares_written t y hapart g.series g.value hfamily hg' hserves
  have hwritten := (standing_snoc_iff calls (.set t y) t y).mpr (Or.inl rfl)
  refine (mem_assign_self st.gauges t y x halone).trans ⟨?_, fun hx => ?_⟩
  · rintro rfl
    exact hwritten
  · exact standing_unique _ t x y hx hwritten

/-- Another series that shares the gauge that is written has no number, neither
    before nor after, and so no gauge. -/
theorem set_shared (h : st.ShowsGraph f calls) (t : Series) (y : Float)
    (hapart : KeysApart f (calls ++ [.set t y])) (s : Series) (x : Float) (hs : s.family = f)
    (hne : s ≠ t) (hshares : s.sharesGauge t = true) :
    { series := s, value := x } ∈ (st.call (.set t y)).gauges ↔
      Standing (calls ++ [.set t y]) s x := by
  have hnone : ∀ z, ¬ Standing calls s z :=
    fun z hz => hne (eq_of_shares_written t y hapart s z hs hz hshares)
  refine iff_of_false (fun hmem => ?_) fun hx =>
    hnone x ((standing_set_iff calls t y s hne x).mp hx)
  rcases series_of_mem_assign st.gauges t y _ hmem with hst | ⟨old, hold, hseries⟩
  · exact hne hst
  · rcases old with ⟨u, z⟩
    have hu : u = s := hseries
    rw [hu] at hold
    exact hnone z ((h s z hs).mp hold)

/-- A write keeps the graph. What is written, what shares its gauge and what does
    neither are three cases, and only in the second the keys matter. -/
theorem set (h : st.ShowsGraph f calls) (t : Series) (y : Float)
    (hapart : KeysApart f (calls ++ [.set t y])) :
    (st.call (.set t y)).ShowsGraph f (calls ++ [.set t y]) := by
  intro s x hs
  by_cases hst : s = t
  · rw [hst]
    exact h.set_self t y (hst ▸ hs) hapart x
  · by_cases hshares : s.sharesGauge t = true
    · exact h.set_shared t y hapart s x hs hst hshares
    · rw [standing_set_iff calls t y s hst, ← h s x hs]
      exact mem_assign_of_not_shares st.gauges t y _ (Bool.eq_false_iff.mpr hshares)

/-- A read keeps the graph, since all that is live has a gauge already. -/
theorem read (h : st.ShowsGraph f calls) (t : Series)
    (htracked : t ∈ st.index ↔ ∃ x, Standing calls t x) :
    (st.call (.read t)).ShowsGraph f (calls ++ [.read t]) := by
  intro s x hs
  rw [call, standing_read_iff, ← h s x hs, mem_gauges_touch]
  refine or_iff_left ?_
  rintro ⟨hlive, hnone, heq⟩
  -- A live series of the family has a gauge already, so none is created.
  rcases htracked.mp hlive with ⟨y, hy⟩
  have hst : s = t := congrArg Gauge.series heq
  have ht : t.family = f := hst ▸ hs
  have hserves := (gauge?_eq_none_iff st t).mp hnone _ ((h t y ht).mpr hy)
  exact Bool.eq_false_iff.mp hserves (Gauge.serves_self t y)

/-- A deletion keeps the graph. It takes the gauges that are shared with what goes,
    and while keys are apart these are the gauges of what goes itself. -/
theorem delete (h : st.ShowsGraph f calls) (hapart : KeysApart f calls)
    (htracked : ∀ u, u ∈ st.index ↔ ∃ x, Standing calls u x) (other : Family)
    (label text : String) :
    (st.call (.delete other label text)).ShowsGraph f (calls ++ [.delete other label text]) := by
  intro s x hs
  rw [standing_delete_iff, ← h s x hs]
  cases hl : Label.ofName? label with
  | none => simp [call, hl, GaugeCall.Changes]
  | some l =>
      simp only [call, hl, deleteMatching, evict, mem_gauges_remove,
        changes_delete_iff other label text l hl]
      refine and_congr_right fun hmem => ?_
      have hx := (h s x hs).mp hmem
      constructor
      · -- The gauge of `s` goes with `s` itself.
        intro hnone htest
        have hserves := hnone s ((htracked s).mpr ⟨x, hx⟩) htest
        exact Bool.eq_false_iff.mp hserves (Gauge.serves_self s x)
      · -- What shares it and has a number is `s`, and `s` does not go.
        intro htest u hu hutest
        refine Bool.eq_false_iff.mpr fun hserves => htest ?_
        rcases (htracked u).mp hu with ⟨z, hz⟩
        rw [hapart.eq_of_sharesGauge s u x z hs hx hz hserves]
        exact hutest

end ShowsGraph

/-- The gauges of a family whose keys were apart all along are the graph of
    the map. -/
theorem mem_gauges_after_iff (f : Family) (calls : List GaugeCall)
    (hapart : ∀ before rest, calls = before ++ rest → KeysApart f before) :
    (after calls).ShowsGraph f calls := by
  induction calls using List.reverseRecOn with
  | nil => exact fun s x _ => iff_of_false List.not_mem_nil (not_standing_nil s x)
  | append_singleton calls c ih =>
      -- What holds of all beginnings of a run holds of those of a shorter one.
      have hgraph := ih fun before rest heq =>
        hapart before (rest ++ [c]) (by rw [heq, List.append_assoc])
      rw [after_snoc]
      cases c with
      | set t y => exact hgraph.set t y (hapart _ [] (List.append_nil _).symm)
      | read t => exact hgraph.read t (mem_index_after_iff calls t)
      | delete other label text =>
          exact hgraph.delete (hapart calls [_] rfl) (mem_index_after_iff calls) other label text

/-- The gauge that is found for a series with a number is the one with that
    number. -/
theorem ShowsGraph.value_eq {st : Store} {f : Family} {calls : List GaugeCall}
    (hgraph : st.ShowsGraph f calls) (hapart : KeysApart f calls) (s : Series) (x : Float)
    (hs : s.family = f) (hx : Standing calls s x) (g : Gauge) (hg : st.gauge? s = some g) :
    g.value = x := by
  have hserves := serves_of_gauge?_eq_some st s g hg
  have hfamily := ((Series.sharesGauge_iff g.series s).mp hserves).1.trans hs
  have hgs := (hgraph g.series g.value hfamily).mp (List.mem_of_find?_eq_some hg)
  have hseries := hapart.eq_of_sharesGauge g.series s g.value x hfamily hgs hx hserves
  rw [hseries] at hgs
  exact standing_unique calls s g.value x hgs hx

/-- A store that shows the graph of a family whose keys are apart gives every
    series its number. -/
theorem get?_eq_some_iff (st : Store) (f : Family) (calls : List GaugeCall)
    (hgraph : st.ShowsGraph f calls) (hapart : KeysApart f calls)
    (htracked : ∀ s, s ∈ st.index ↔ ∃ x, Standing calls s x) (s : Series) (x : Float)
    (hs : s.family = f) : st.get? s = some x ↔ Standing calls s x := by
  unfold get?
  by_cases hlive : st.tracks s = true
  · rw [if_pos hlive]
    rw [tracks_iff, htracked] at hlive
    rcases hlive with ⟨y, hy⟩
    cases hg : st.gauge? s with
    | none =>
        -- A series with a number has a gauge.
        have hserves := (gauge?_eq_none_iff st s).mp hg _ ((hgraph s y hs).mpr hy)
        exact absurd (Gauge.serves_self s y) (Bool.eq_false_iff.mp hserves)
    | some g =>
        rw [← hgraph.value_eq hapart s y hs hy g hg] at hy
        constructor
        · intro heq
          rw [← Option.some.inj heq]
          exact hy
        · intro hx
          rw [standing_unique calls s x g.value hx hy]
  · rw [if_neg hlive]
    -- What is not live has no number, and reads as nothing.
    refine iff_of_false (by simp) fun hx => hlive ?_
    rw [tracks_iff, htracked]
    exact ⟨x, hx⟩

/-- A store that shows the graph of a family, one gauge for each series, has as
    many gauges of the family as it has live series of it. -/
theorem familySize_eq_length (st : Store) (f : Family) (calls : List GaugeCall)
    (hgraph : st.ShowsGraph f calls) (hone : st.OneGaugeEach) (hnodup : st.index.Nodup)
    (htracked : ∀ s, s ∈ st.index ↔ ∃ x, Standing calls s x) :
    st.familySize f = (Exposed.family st f).length := by
  -- One gauge for each series: two of one series would share one.
  have hgauges : ((st.gauges.filter fun g => g.series.family = f).map Gauge.series).Nodup := by
    refine List.pairwise_map.mpr ((hone.filter _).imp fun {g other} hne heq => ?_)
    rw [heq] at hne
    exact Bool.eq_false_iff.mp hne (Series.sharesGauge_self other.series)
  -- Index and gauges list the same series, each of them once, so they are as many.
  have hperm : (st.index.filter fun s => s.family = f).Perm
      ((st.gauges.filter fun g => g.series.family = f).map Gauge.series) := by
    refine (List.perm_ext_iff_of_nodup (hnodup.filter _) hgauges).mpr fun s => ?_
    rw [List.mem_filter, htracked, List.mem_map]
    constructor
    · rintro ⟨⟨x, hx⟩, hs⟩
      refine ⟨{ series := s, value := x }, List.mem_filter.mpr ⟨?_, hs⟩, rfl⟩
      exact (hgraph s x (of_decide_eq_true hs)).mpr hx
    · rintro ⟨g, hg, rfl⟩
      rcases List.mem_filter.mp hg with ⟨hg, hs⟩
      exact ⟨⟨g.value, (hgraph g.series g.value (of_decide_eq_true hs)).mp hg⟩, hs⟩
  have hlength := hperm.length_eq
  rw [List.length_map] at hlength
  rw [familySize, List.countP_eq_length_filter, hlength, Exposed.family]
  simp

/-- A family whose keys were apart all along is the map. -/
theorem isMap_after (f : Family) (calls : List GaugeCall)
    (hapart : ∀ before rest, calls = before ++ rest → KeysApart f before) :
    (after calls).IsMap f calls := by
  have hgraph := mem_gauges_after_iff f calls hapart
  have htracked := mem_index_after_iff calls
  exact
    { read := get?_eq_some_iff _ f calls hgraph (hapart calls [] (List.append_nil _).symm) htracked
      exposed := hgraph
      tracked := fun s _ => htracked s
      counted :=
        familySize_eq_length _ f calls hgraph (oneGaugeEach_after calls)
          (nodup_index_after calls) htracked }

/-- Two series with a number that share a gauge cannot both show theirs. -/
theorem IsMap.keysApart {f : Family} {calls : List GaugeCall} (h : (after calls).IsMap f calls) :
    KeysApart f calls := by
  intro s t x y hs ht hx hy hkey
  have hshares := (Series.sharesGauge_iff s t).mpr ⟨hs.trans ht.symm, hkey⟩
  have heq := (oneGaugeEach_after calls).eq_of_shares _ _ ((h.exposed s x hs).mpr hx)
    ((h.exposed t y ht).mpr hy) hshares
  exact congrArg Gauge.series heq

end Store

/-- A family is the map that its calls describe, after each of them, exactly if
    after none of them two series of the family that have a number have the same
    key. -/
theorem isMap_iff_keysApart (f : Family) (calls : List GaugeCall) :
    (∀ before rest, calls = before ++ rest → (Store.after before).IsMap f before) ↔
      ∀ before rest, calls = before ++ rest → KeysApart f before := by
  constructor
  · -- The condition is needed: two series of one key have one gauge between them.
    exact fun h before rest heq => (h before rest heq).keysApart
  · intro h before rest heq
    refine Store.isMap_after f before fun first others hfirst => h first (others ++ rest) ?_
    rw [heq, hfirst, List.append_assoc]

/-- Two pods of different namespaces whose label values join to one text, and so
    have one key. -/
def sharedTexts : List GaugeCall :=
  [.set ⟨.podUsage, ["ab", "c", "n"], rfl⟩ 1.0, .set ⟨.podUsage, ["a", "bc", "n"], rfl⟩ 2.0]

/-- Writing one series can change what is read of another. -/
theorem get?_ne_standing :
    ¬ ∀ (f : Family) (calls : List GaugeCall) (s : Series) (x : Float), s.family = f →
      ((Store.after calls).get? s = some x ↔ Standing calls s x) := by
  intro h
  have hstanding : Standing sharedTexts (.ofPod .podUsage "ab" "c" "n") 1.0 := by
    refine (standing_snoc_iff [.set (.ofPod .podUsage "ab" "c" "n") 1.0] _ _ 1.0).mpr (Or.inr ?_)
    refine ⟨(standing_snoc_iff [] _ _ 1.0).mpr (Or.inl rfl), fun heq => ?_⟩
    have hne : Series.ofPod .podUsage "a" "bc" "n" ≠ .ofPod .podUsage "ab" "c" "n" := by decide
    exact hne heq
  -- The second write has replaced the value of the gauge that the first one made.
  have hread := (h .podUsage sharedTexts _ 1.0 rfl).mpr hstanding
  have hlast : (Store.after sharedTexts).get? (.ofPod .podUsage "ab" "c" "n") = some 2.0 := by rfl
  rw [hlast] at hread
  exact absurd (Option.some.inj hread) (by decide)

end StorageGauges
