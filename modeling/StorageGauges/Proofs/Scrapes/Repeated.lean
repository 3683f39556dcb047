import StorageGauges.Proofs.Gauge.Eviction
import StorageGauges.Proofs.Gauge.FiniteMap
import StorageGauges.Proofs.Scrapes.Given

/-!
# Payloads Written Twice

A payload is gone through pod by pod. Each pod is written or skipped, and
counted either way, and what it writes depends on its profile but not on what
was written before it. So going through the pods is writing all of them at once
(`Exporter.processInTurn_eq`).

Writing the same payload again changes nothing. A series that is written twice
within a payload shows its later figure both times, and every gauge that is
written is there already. This needs no proviso: even a gauge that several
series share has the last figure that any of them gets.

What a payload writes carries the name of the queried node, so the eviction of
the node takes all of it. What is live afterwards is what an eviction without
the payload would have left. For the gauges that is so as long as no two series
that are live share one: a gauge shared with a series of another node goes with
what the payload wrote. That the texts of their values are not the same is not
enough for this (`process_evicted_leaves_mark`).

## Main definitions

* `Exporter.processInTurn`: The pods of a payload are gone through.
* `Gauge.last?`: The last value that some writes give to a gauge.
* `Store.Housed`: Every gauge is that of a live series.

## Theorems

* `Exporter.processInTurn_eq`: Pods in turn are written as all at once.
* `Store.applyAll_of_settled`: Writes that show already change nothing.
* `Store.applyAll_applyAll`: Writes made twice are made once.
* `Store.index_remove_applyAll`, `Store.get?_remove_applyAll`,
  `Store.remove_applyAll`: A deletion takes what was written before it.
* `Store.housed_after`: The gauges of a store are of live series.
* `process_repeated`: A payload that is written twice, or that is written and
  evicted.
-/

namespace StorageGauges

namespace Exporter

variable (o : Options) (node : String) (allowed : AllowList)

/-- A pod of a payload is written or skipped, and counted. -/
def takeSample (x : Exporter × Processed) (s : PodSample) : Exporter × Processed :=
  if s.isSkipped allowed then (x.1, { x.2 with skipped := x.2.skipped + 1 })
  else
    ({ x.1 with store := x.1.store.applyAll (sampleWrites o x.1 node s) },
      { x.2 with written := x.2.written + 1 })

/-- The pods of a payload are gone through. -/
def processInTurn (e : Exporter) (summary : Summary) : Exporter × Processed :=
  summary.pods.foldl (takeSample o node allowed) (e, { written := 0, skipped := 0 })

/-- No pod changes the profiles, so each finds those that were there at first. -/
theorem foldl_takeSample (pods : List PodSample) (e : Exporter) (n : Processed) :
    pods.foldl (takeSample o node allowed) (e, n) =
      ({ e with
          store := e.store.applyAll
            ((pods.filter fun s => !s.isSkipped allowed).flatMap (sampleWrites o e node)) },
        { written := n.written + pods.countP fun s => !s.isSkipped allowed
          skipped := n.skipped + pods.countP fun s => s.isSkipped allowed }) := by
  induction pods generalizing e n with
  | nil => rfl
  | cons s rest ih =>
      rw [List.foldl_cons, takeSample]
      by_cases hskipped : s.isSkipped allowed = true
      · rw [if_pos hskipped, ih]
        simp only [List.filter_cons, List.countP_cons, hskipped, Bool.not_true, Bool.false_eq_true,
          if_false, if_true, Nat.add_zero, Nat.add_assoc, Nat.add_comm 1]
      · rw [if_neg hskipped, ih]
        simp only [List.filter_cons, List.countP_cons, hskipped, Bool.not_false,
          if_true, Bool.false_eq_true, if_false, Nat.add_zero, Nat.add_assoc, Nat.add_comm 1,
          List.flatMap_cons, Store.applyAll, List.foldl_append]
        rfl

/-- The pods of a payload in turn are written and counted as all at once. -/
theorem processInTurn_eq (e : Exporter) (summary : Summary) :
    e.processInTurn o node allowed summary =
      (e.process o node summary allowed, processed summary allowed) := by
  rw [processInTurn, foldl_takeSample]
  simp only [Nat.zero_add]
  rfl

end Exporter

/-- The last value that some writes give to a gauge. -/
def Gauge.last? (g : Gauge) (ws : List Write) : Option Float :=
  lastSome? (fun w => if g.serves w.series then some w.value else none) ws

theorem Gauge.last?_snoc (g : Gauge) (ws : List Write) (w : Write) :
    g.last? (ws ++ [w]) = if g.serves w.series then some w.value else g.last? ws := by
  rw [last?, lastSome?_append]
  by_cases hserves : g.serves w.series = true <;> simp [lastSome?, last?, hserves]

namespace Store

theorem applyAll_snoc (st : Store) (ws : List Write) (w : Write) :
    st.applyAll (ws ++ [w]) = (st.applyAll ws).set w.series w.value :=
  List.foldl_append

/-- A gauge of a series that is written has the value that is written. -/
theorem value_of_mem_assign {gauges : List Gauge} {t : Series} {x : Float} {g : Gauge}
    (hg : g ∈ assign gauges t x) (hserves : g.serves t = true) : g.value = x := by
  unfold assign at hg
  split at hg
  · rcases List.mem_map.mp hg with ⟨old, -, rfl⟩
    by_cases hold : old.serves t = true
    · rw [if_pos hold]
    · rw [if_neg hold] at hserves
      exact absurd hserves hold
  · rename_i hany
    rcases List.mem_append.mp hg with hold | hnew
    · exact absurd (List.any_eq_true.mpr ⟨g, hold, hserves⟩) hany
    · rw [List.mem_singleton.mp hnew]

/-- Every gauge has the last value that it was given. -/
theorem value_of_mem_applyAll (st : Store) (ws : List Write) (g : Gauge) (v : Float)
    (hg : g ∈ (st.applyAll ws).gauges) (hv : g.last? ws = some v) : g.value = v := by
  induction ws using List.reverseRecOn with
  | nil => exact absurd hv (by simp [Gauge.last?, lastSome?])
  | append_singleton ws w ih =>
      rw [applyAll_snoc] at hg
      rw [Gauge.last?_snoc] at hv
      by_cases hserves : g.serves w.series = true
      · rw [if_pos hserves, Option.some.injEq] at hv
        rw [value_of_mem_assign hg hserves, hv]
      · -- The last write is to another gauge, so this one was there before it.
        rw [if_neg hserves] at hv
        have hbefore := (mem_assign_of_not_shares _ w.series w.value g
          (Bool.eq_false_iff.mpr hserves)).mp hg
        exact ih hbefore hv

/-- What has a gauge keeps one when something is written. -/
theorem gauge?_set_ne_none (st : Store) (t s : Series) (x : Float) (h : st.gauge? s ≠ none) :
    (st.set t x).gauge? s ≠ none := by
  rw [gauge?_set]
  rcases Option.ne_none_iff_exists'.mp h with ⟨g, hg⟩
  rw [hg]
  split
  · exact Option.some_ne_none _
  · rw [Option.some_or]
    exact Option.some_ne_none _

/-- What was written has a gauge. -/
theorem gauge?_applyAll_ne_none (st : Store) (ws : List Write) (w : Write) (hw : w ∈ ws) :
    (st.applyAll ws).gauge? w.series ≠ none := by
  induction ws using List.reverseRecOn with
  | nil => exact absurd hw List.not_mem_nil
  | append_singleton ws last ih =>
      rw [applyAll_snoc]
      rcases List.mem_append.mp hw with hw | hw
      · exact gauge?_set_ne_none _ _ _ _ (ih hw)
      · rw [List.mem_singleton.mp hw]
        rcases gauge?_set_self (st.applyAll ws) last.series last.value with ⟨g, hg, -⟩
        rw [hg]
        exact Option.some_ne_none g

theorem index_applyAll_of_live (st : Store) (ws : List Write)
    (hlive : ∀ w ∈ ws, w.series ∈ st.index) : (st.applyAll ws).index = st.index := by
  induction ws generalizing st with
  | nil => rfl
  | cons w rest ih =>
      rcases List.forall_mem_cons.mp hlive with ⟨hw, hrest⟩
      have hindex : (st.apply w).index = st.index := if_pos ((tracks_iff st w.series).mpr hw)
      have hlater := ih (st.apply w) (by rw [hindex]; exact hrest)
      rw [hindex] at hlater
      exact hlater

/-- Where all that is written has a gauge, writes change values and nothing
    else. -/
theorem gauges_applyAll_of_gauge? (st : Store) (ws : List Write)
    (hgauge : ∀ w ∈ ws, st.gauge? w.series ≠ none) :
    (st.applyAll ws).gauges =
      st.gauges.map fun g => { g with value := (g.last? ws).getD g.value } := by
  induction ws using List.reverseRecOn with
  | nil =>
      refine (List.map_id st.gauges).symm.trans (List.map_congr_left fun g _ => ?_)
      rfl
  | append_singleton ws w ih =>
      have hbefore := ih fun w' hw' => hgauge w' (List.mem_append_left _ hw')
      have hw := hgauge w (List.mem_append_right _ List.mem_cons_self)
      -- The gauges are those from the beginning, and one of them is that of `w`.
      have hany : ((st.applyAll ws).gauges.any fun g => g.serves w.series) = true := by
        rcases Option.ne_none_iff_exists'.mp hw with ⟨g, hg⟩
        rw [hbefore, List.any_map, List.any_eq_true]
        exact ⟨g, List.mem_of_find?_eq_some hg, List.find?_some hg⟩
      rw [applyAll_snoc, set, assign, if_pos hany, hbefore, List.map_map]
      refine List.map_congr_left fun g _ => ?_
      rw [Function.comp_apply, Gauge.last?_snoc]
      change (if g.serves w.series = true then _ else _) = _
      by_cases hserves : g.serves w.series = true
      · rw [if_pos hserves, if_pos hserves]
        rfl
      · rw [if_neg hserves, if_neg hserves]

/-- Writes to live series whose gauges have the last values already change
    nothing. In between they may: a series that is written twice shows its
    earlier figure until its later one comes. -/
theorem applyAll_of_settled (st : Store) (ws : List Write)
    (hlive : ∀ w ∈ ws, w.series ∈ st.index) (hgauge : ∀ w ∈ ws, st.gauge? w.series ≠ none)
    (hvalue : ∀ g v, g ∈ st.gauges → g.last? ws = some v → g.value = v) :
    st.applyAll ws = st := by
  have hindex := index_applyAll_of_live st ws hlive
  have hgauges : (st.applyAll ws).gauges = st.gauges := by
    rw [gauges_applyAll_of_gauge? st ws hgauge]
    refine (List.map_congr_left fun g hg => ?_).trans (List.map_id st.gauges)
    cases hlast : g.last? ws with
    | none => rfl
    | some v =>
        rw [Option.getD_some, ← hvalue g v hg hlast]
        rfl
  cases h : st.applyAll ws
  rw [h] at hindex hgauges
  exact congrArg₂ Store.mk hindex hgauges

/-- Writes that are made twice are made once. -/
theorem applyAll_applyAll (st : Store) (ws : List Write) :
    (st.applyAll ws).applyAll ws = st.applyAll ws :=
  applyAll_of_settled _ ws
    (fun w hw => (mem_index_applyAll st ws w.series).mpr (Or.inr ⟨w, hw, rfl⟩))
    (gauge?_applyAll_ne_none st ws) (value_of_mem_applyAll st ws)

/-- What was written is live no more when it is deleted, as if it had not been
    written. -/
theorem index_remove_applyAll (st : Store) (ws : List Write) (test : Series → Bool)
    (htaken : ∀ w ∈ ws, test w.series = true) :
    ((st.applyAll ws).remove test).index = (st.remove test).index := by
  induction ws generalizing st with
  | nil => rfl
  | cons w rest ih =>
      rcases List.forall_mem_cons.mp htaken with ⟨hw, hrest⟩
      have hfirst : ((st.apply w).remove test).index = (st.remove test).index := by
        change (st.track w.series).filter _ = st.index.filter _
        unfold track
        split
        · rfl
        · rw [List.filter_append, List.filter_singleton, hw]
          exact List.append_nil _
      exact (ih (st.apply w) hrest).trans hfirst

theorem gauge?_applyAll_of_apart (st : Store) (ws : List Write) (s : Series)
    (hapart : ∀ w ∈ ws, w.series.sharesGauge s = false) :
    (st.applyAll ws).gauge? s = st.gauge? s :=
  foldl_keeps (fun x => x.gauge? s) apply st ws fun x w hw =>
    gauge?_set_of_apart x w.series s w.value (hapart w hw)

section Absorbed

variable (st : Store) (ws : List Write) (test : Series → Bool)
  (htaken : ∀ w ∈ ws, test w.series = true)
  (hapart : ∀ s ∈ st.index, ∀ w ∈ ws, w.series.sharesGauge s = true → w.series = s)
include htaken hapart

/-- Nothing that a deletion leaves has a gauge that was written before it. -/
theorem sharesGauge_of_left (s : Series) (hs : s ∈ st.index) (hleft : test s = false)
    (w : Write) (hw : w ∈ ws) : w.series.sharesGauge s = false := by
  rw [← Bool.not_eq_true]
  intro hshares
  rw [← hapart s hs w hw hshares, htaken w hw] at hleft
  exact absurd hleft (by simp only [Bool.true_eq_false, not_false_eq_true])

/-- What is left is read as if nothing had been written. -/
theorem get?_remove_applyAll (s : Series) :
    ((st.applyAll ws).remove test).get? s = (st.remove test).get? s := by
  have hindex := index_remove_applyAll st ws test htaken
  by_cases hlive : s ∈ (st.remove test).index
  · refine get?_congr _ _ s (by rw [hindex]) ?_
    rcases (mem_index_remove st test s).mp hlive with ⟨hs, hleft⟩
    have hw := sharesGauge_of_left st ws test htaken hapart s hs hleft
    -- What goes with the gauge of `s` was live before the writes, if it goes at all.
    have hgone : (∃ t ∈ (st.applyAll ws).index, test t = true ∧ t.sharesGauge s = true) ↔
        ∃ t ∈ st.index, test t = true ∧ t.sharesGauge s = true := by
      constructor
      · rintro ⟨t, ht, htest, hshares⟩
        rcases (mem_index_applyAll st ws t).mp ht with ht | ⟨w, hmem, rfl⟩
        · exact ⟨t, ht, htest, hshares⟩
        · exact absurd hshares (Bool.eq_false_iff.mp (hw w hmem))
      · rintro ⟨t, ht, hrest⟩
        exact ⟨t, (mem_index_applyAll st ws t).mpr (Or.inl ht), hrest⟩
    rw [gauge?_remove, gauge?_remove, gauge?_applyAll_of_apart st ws s hw]
    simp only [hgone]
  · rw [(get?_eq_none_iff _ s).mpr hlive, get?_eq_none_iff, hindex]
    exact hlive

end Absorbed

/-- Every gauge is that of a live series. -/
def Housed (st : Store) : Prop :=
  ∀ g ∈ st.gauges, g.series ∈ st.index

namespace Housed

variable {st : Store}

theorem set (h : st.Housed) (s : Series) (x : Float) : (st.set s x).Housed := by
  intro g hg
  rw [mem_index_set]
  rcases series_of_mem_assign st.gauges s x g hg with hs | ⟨old, hold, hseries⟩
  · exact Or.inl hs
  · rw [← hseries]
    exact Or.inr (h old hold)

theorem touch (h : st.Housed) (s : Series) : (st.touch s).Housed := by
  intro g hg
  rw [index_touch]
  rcases (mem_gauges_touch st s g).mp hg with hold | ⟨hlive, -, rfl⟩
  · exact h g hold
  · exact hlive

/-- A gauge goes when its own series goes, if not before. -/
theorem remove (h : st.Housed) (test : Series → Bool) : (st.remove test).Housed := by
  intro g hg
  rcases (mem_gauges_remove st test g).mp hg with ⟨hold, hkept⟩
  refine (mem_index_remove st test g.series).mpr ⟨h g hold, ?_⟩
  rw [← Bool.not_eq_true]
  intro htest
  exact Bool.eq_false_iff.mp (hkept g.series (h g hold) htest) (Series.sharesGauge_self g.series)

end Housed

/-- The gauges of a store are of live series, whatever was written, read and
    deleted. -/
theorem housed_after (calls : List GaugeCall) : (after calls).Housed := by
  induction calls using List.reverseRecOn with
  | nil => exact fun g hg => absurd hg List.not_mem_nil
  | append_singleton calls c ih =>
      rw [after_snoc]
      cases c with
      | set t y => exact ih.set t y
      | read t => exact ih.touch t
      | delete f label text =>
          rw [call]
          split
          · exact ih.remove _
          · exact ih

/-- A write makes no difference to gauges that do not share what is written. -/
theorem filter_assign (gauges : List Gauge) (t : Series) (x : Float) (kept : Series → Bool)
    (h : ∀ s, s.sharesGauge t = true → kept s = false) :
    (assign gauges t x).filter (fun g => kept g.series) = gauges.filter fun g => kept g.series := by
  unfold assign
  split
  · rw [List.filter_map]
    have hseries : ((fun g : Gauge => kept g.series) ∘
        fun g => if g.serves t = true then { g with value := x } else g) =
          fun g => kept g.series := by
      funext g
      rw [Function.comp_apply]
      split <;> rfl
    rw [hseries]
    refine (List.map_congr_left fun g hg => ?_).trans (List.map_id _)
    refine if_neg fun hserves => ?_
    rw [List.mem_filter, h g.series hserves] at hg
    exact absurd hg.2 Bool.false_ne_true
  · rw [List.filter_append, List.filter_singleton, h t (Series.sharesGauge_self t)]
    exact List.append_nil _

theorem filter_applyAll (st : Store) (ws : List Write) (kept : Series → Bool)
    (h : ∀ w ∈ ws, ∀ s, s.sharesGauge w.series = true → kept s = false) :
    (st.applyAll ws).gauges.filter (fun g => kept g.series) =
      st.gauges.filter fun g => kept g.series :=
  foldl_keeps (fun x => x.gauges.filter fun g => kept g.series) apply st ws fun x w hw =>
    filter_assign x.gauges w.series w.value kept (h w hw)

/-- What was written and is deleted leaves nothing behind. -/
theorem remove_applyAll (st : Store) (ws : List Write) (test : Series → Bool)
    (htaken : ∀ w ∈ ws, test w.series = true)
    (hapart : ∀ s ∈ st.index, ∀ w ∈ ws, w.series.sharesGauge s = true → w.series = s)
    (hhoused : st.Housed) : (st.applyAll ws).remove test = st.remove test := by
  have hindex := index_remove_applyAll st ws test htaken
  -- The gauges that stay, as a test on their series.
  let kept (index : List Series) (s : Series) : Bool := !(index.filter test).any s.sharesGauge
  have hwritten : ∀ w ∈ ws, ∀ s, s.sharesGauge w.series = true →
      kept (st.applyAll ws).index s = false := by
    intro w hw s hshares
    have hlive : w.series ∈ (st.applyAll ws).index.filter test :=
      List.mem_filter.mpr ⟨(mem_index_applyAll st ws _).mpr (Or.inr ⟨w, hw, rfl⟩), htaken w hw⟩
    rw [Bool.not_eq_false', List.any_eq_true]
    exact ⟨w.series, hlive, hshares⟩
  have hgauges : ((st.applyAll ws).remove test).gauges = (st.remove test).gauges := by
    refine (filter_applyAll st ws (kept (st.applyAll ws).index) hwritten).trans ?_
    refine List.filter_congr fun g hg => ?_
    change kept (st.applyAll ws).index g.series = kept st.index g.series
    rw [Bool.eq_iff_iff, Bool.not_eq_true', Bool.not_eq_true', List.any_eq_false, List.any_eq_false]
    simp only [List.mem_filter, mem_index_applyAll]
    constructor
    · rintro hnone t ⟨ht, htest⟩
      exact hnone t ⟨Or.inl ht, htest⟩
    · rintro hnone t ⟨ht | ⟨w, hw, rfl⟩, htest⟩
      · exact hnone t ⟨ht, htest⟩
      · -- A gauge that was written is that of a live series, which is the written one.
        intro hshares
        have hlive := hhoused g hg
        have hself := hapart g.series hlive w hw (Series.sharesGauge_comm _ _ ▸ hshares)
        rw [← hself] at hlive hnone
        exact hnone w.series ⟨hlive, htest⟩ (Series.sharesGauge_self w.series)
  cases h : (st.applyAll ws).remove test
  rw [h] at hindex hgauges
  exact congrArg₂ Store.mk hindex hgauges

end Store

/-- A payload is written pod by pod, which is writing it at once. Doing so again
    changes nothing and counts the same. If its node is evicted afterwards, what
    is live is what the eviction alone would have left. As long as no two series
    that are live share a gauge every series is read as after the eviction
    alone, and the store is the same as a whole, the gauges being those of live
    series, as they always are. -/
theorem process_repeated (o : Options) (e : Exporter) (node : String) (summary : Summary)
    (allowed : AllowList) :
    let once := e.processInTurn o node allowed summary
    once = (e.process o node summary allowed, processed summary allowed) ∧
    once.1.processInTurn o node allowed summary = once ∧
    (once.1.store.evictNode node).store.index = (e.store.evictNode node).store.index ∧
    (Series.Apart (· ∈ once.1.store.index) →
      (∀ s, (once.1.store.evictNode node).store.get? s = (e.store.evictNode node).store.get? s) ∧
      (e.store.Housed →
        (once.1.store.evictNode node).store = (e.store.evictNode node).store)) := by
  simp only [Exporter.processInTurn_eq]
  let ws := summaryWrites o e node summary allowed
  have htaken : ∀ w ∈ ws, w.series.matchesLabel .nodeName node = true := fun w hw =>
    (Series.matchesLabel_eq_true_iff _ _ _).mpr
      (value?_nodeName_of_mem_summaryWrites o e node summary allowed w hw)
  refine ⟨trivial, ?_, Store.index_remove_applyAll e.store ws _ htaken, fun hapart => ?_⟩
  · -- The profiles are the same, so the same is written again.
    have hstore : (e.store.applyAll ws).applyAll ws = e.store.applyAll ws :=
      e.store.applyAll_applyAll ws
    have hagain : (e.process o node summary allowed).process o node summary allowed =
        e.process o node summary allowed :=
      congrArg (fun store => { e with store }) hstore
    rw [hagain]
  · have hown : ∀ s ∈ e.store.index, ∀ w ∈ ws, w.series.sharesGauge s = true → w.series = s := by
      intro s hs w hw hshares
      rw [Series.sharesGauge_iff] at hshares
      exact hapart w.series s ((Store.mem_index_applyAll e.store ws _).mpr (Or.inr ⟨w, hw, rfl⟩))
        ((Store.mem_index_applyAll e.store ws s).mpr (Or.inl hs)) hshares.1 hshares.2
    exact ⟨Store.get?_remove_applyAll e.store ws _ htaken hown,
      Store.remove_applyAll e.store ws _ htaken hown⟩

/-- The usage of a pod as the node told it on which the pod was before. -/
def movedPod : Exporter :=
  { Exporter.initial .empty with
    store := Store.empty.set ⟨.podUsage, ["web", "blue", "old"], rfl⟩ 3.0 }

/-- When the node it has moved to tells of the pod and is evicted, what the old
    node told is all that is left. -/
theorem process_repeated_moved :
    ((movedPod.processInTurn usageOnly "new" none
        { nodeName := "", pods := [usageSample "web" "blue" 7.0] }).1.store.evictNode "new").store =
      (movedPod.store.evictNode "new").store := by
  have hrepeated := process_repeated usageOnly movedPod "new"
    { nodeName := "", pods := [usageSample "web" "blue" 7.0] } none
  have hhoused : movedPod.store.Housed :=
    Store.housed_after [.set (.ofPod .podUsage "web" "blue" "old") 3.0]
  refine (hrepeated.2.2.2 fun s t hs ht _ hkey => ?_).2 hhoused
  have hlive : (movedPod.processInTurn usageOnly "new" none
      { nodeName := "", pods := [usageSample "web" "blue" 7.0] }).1.store.index =
        [.ofPod .podUsage "web" "blue" "old", .ofPod .podUsage "web" "blue" "new"] := by rfl
  rw [hlive] at hs ht
  simp only [List.mem_cons, List.not_mem_nil, or_false] at hs ht
  rcases hs with rfl | rfl <;> rcases ht with rfl | rfl
  · rfl
  · exact absurd hkey (by decide)
  · exact absurd hkey (by decide)
  · rfl

/-- What is available at nodes is the only thing that is turned on. -/
def availableOnly : Options :=
  { Options.standard with features := Features.ofTest fun f => f = .nodeAvailable }

/-- What was available at one of two nodes whose names have one hash. -/
def firstTwinShown : Exporter :=
  { Exporter.initial .empty with
    store := Store.empty.set Series.twinAvailable 3.0 }

/-- A payload that is written and evicted can leave a mark though no two series
    join to the same text: the eviction takes a gauge that it would have left. -/
theorem process_evicted_leaves_mark :
    ¬ ∀ (o : Options) (e : Exporter) (node : String) (summary : Summary) (allowed : AllowList),
      (∀ s ∈ (e.processInTurn o node allowed summary).1.store.index,
        ∀ t ∈ (e.processInTurn o node allowed summary).1.store.index,
          s.family = t.family → s.bytes = t.bytes → s = t) →
      ∀ s, ((e.processInTurn o node allowed summary).1.store.evictNode node).store.get? s =
        (e.store.evictNode node).store.get? s := by
  intro h
  let payload : Summary := { nodeName := "", pods := [usageSample "web" "blue" 7.0] }
  have hlive : (firstTwinShown.processInTurn availableOnly Series.otherTwin none
      payload).1.store.index = [Series.twinAvailable, Series.otherTwinAvailable] := by rfl
  have hbytes := (Series.sharesGauge_twins .nodeAvailable rfl).2
  have hread := h availableOnly firstTwinShown Series.otherTwin payload none
    (by
      rw [hlive]
      simp only [List.forall_mem_cons, List.not_mem_nil, false_implies, implies_true, and_true,
        true_and]
      exact ⟨fun _ heq => absurd heq hbytes, fun _ heq => absurd heq.symm hbytes⟩)
    Series.twinAvailable
  have hmarked : ((firstTwinShown.processInTurn availableOnly Series.otherTwin none
      payload).1.store.evictNode Series.otherTwin).store.get? Series.twinAvailable =
        some 0.0 := by rfl
  have halone : (firstTwinShown.store.evictNode Series.otherTwin).store.get?
      Series.twinAvailable = some 3.0 := by rfl
  rw [hmarked, halone] at hread
  exact absurd (Option.some.inj hread) (by decide)

end StorageGauges
