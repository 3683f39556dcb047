import StorageGauges.Proofs.Scrapes.Stroke

/-!
# Scrapes at Once

A scrape that is finished at once, with nothing in between, is what the
exporter runs. It gives every series of its node what its strokes make of it
and leaves the series of other nodes, and it leaves the profiles, so that
scrapes one after the other do not change what the later ones write. Hence
scrapes of pairwise different nodes come to the same in any order: every
series has what was due to it (`EndsAs`).

## Main definitions

* `Errand.Brings`: The payload of a scrape could be read.
* `Errand.writes`: What a scrape writes then.
* `Errand.finish`, `Errand.finishAll`: Scrapes at once, one after the other.
* `EndsAs`: A store that shows what was due.

## Theorems

* `Errand.value?_nodeName_of_mem_strokes`: Scrapes write for their node.
* `Errand.finish_cases`: The three ways in which a scrape ends.
* `Errand.get?_finish`: What a scrape makes of a series.
* `Errand.endsAs_finishAll`: Scrapes in order show what was due.
* `EndsAs.get?_eq`: There is one way to show what was due.
-/

namespace StorageGauges

namespace Errand

variable (o : Options) (interval : Duration) (e : Exporter) (allowed : AllowList)

/-- The node has answered with a payload that could be read. -/
def Brings (a : Errand) (summary : Summary) : Prop :=
  ∃ payload, a.answer = some payload ∧ Summary.parse? payload = some summary

/-- What a scrape writes, once its payload has been read. -/
def writes (a : Errand) (summary : Summary) : List Write :=
  summaryWrites o e a.node summary allowed
    ++ whenOn o.features.adjustedPollingRate (pollingRate a.node)
      (Float.ofInt (remainingTime interval a.elapsed))

theorem value?_nodeName_of_mem_writes (a : Errand) (summary : Summary) (w : Write)
    (h : w ∈ a.writes o interval e allowed summary) :
    w.series.value? .nodeName = some a.node := by
  rcases List.mem_append.mp h with h | h
  · exact value?_nodeName_of_mem_summaryWrites o e a.node summary allowed w h
  · rcases (mem_whenOn _ _ _ w).mp h with ⟨-, rfl⟩
    rfl

/-- The strokes of a scrape whose payload was read. -/
theorem strokes_of_brings (a : Errand) (summary : Summary) (h : a.Brings summary) :
    a.strokes o interval e allowed =
      (summary.pods.filter fun s => !s.isSkipped allowed).flatMap
          (fun s => (sampleWrites o e a.node s).map .write ++ [.count])
        ++ (whenOn o.features.adjustedPollingRate (pollingRate a.node)
            (Float.ofInt (remainingTime interval a.elapsed))).map .write := by
  rcases h with ⟨payload, hanswer, hparse⟩
  simp only [strokes, hanswer, hparse]

theorem write_mem_strokes_iff (a : Errand) (summary : Summary) (h : a.Brings summary)
    (w : Write) :
    .write w ∈ a.strokes o interval e allowed ↔ w ∈ a.writes o interval e allowed summary := by
  rw [strokes_of_brings o interval e allowed a summary h, writes, summaryWrites]
  simp

/-- Before it begins a scrape has found nothing yet, so all that it is about to
    write or delete is what its payload writes. -/
theorem eq_write_of_mem_series (a : Errand) (stroke : Stroke)
    (h : stroke ∈ a.strokes o interval e allowed) (s : Series) (hs : s ∈ stroke.series) :
    ∃ summary w, a.Brings summary ∧ w ∈ a.writes o interval e allowed summary ∧
      w.series = s := by
  cases hanswer : a.answer with
  | none =>
      -- An eviction has only looks to make, and a look names no series.
      simp only [strokes, hanswer] at h
      rcases List.mem_map.mp h with ⟨f, -, rfl⟩
      exact absurd hs List.not_mem_nil
  | some payload =>
      cases hparse : Summary.parse? payload with
      | none =>
          simp only [strokes, hanswer, hparse] at h
          exact absurd h List.not_mem_nil
      | some summary =>
          have hbrings : a.Brings summary := ⟨payload, hanswer, hparse⟩
          cases stroke with
          | write w =>
              have hw := (write_mem_strokes_iff o interval e allowed a summary hbrings w).mp h
              exact ⟨summary, w, hbrings, hw, (List.mem_singleton.mp hs).symm⟩
          | count => exact absurd hs List.not_mem_nil
          | find f => exact absurd hs List.not_mem_nil
          | delete found =>
              -- Nothing is deleted for a payload that was read.
              rw [strokes_of_brings o interval e allowed a summary hbrings] at h
              exact absurd h (by simp)

/-- A scrape writes for its node and for no other. -/
theorem value?_nodeName_of_mem_strokes (a : Errand) (stroke : Stroke)
    (h : stroke ∈ a.strokes o interval e allowed) (s : Series) (hs : s ∈ stroke.series) :
    s.value? .nodeName = some a.node := by
  rcases eq_write_of_mem_series o interval e allowed a stroke h s hs with
    ⟨summary, w, -, hw, rfl⟩
  exact value?_nodeName_of_mem_writes o interval e allowed a summary w hw

/-- What a scrape does depends on the profiles, and on nothing else that the
    exporter knows. -/
theorem strokes_congr (a : Errand) (other : Exporter) (h : other.profiles = e.profiles) :
    a.strokes o interval other allowed = a.strokes o interval e allowed := by
  have hsamples : sampleWrites o other a.node = sampleWrites o e a.node := by
    funext s
    simp only [sampleWrites, Exporter.profileOf, h]
  simp only [strokes, hsamples]

/-- What the strokes of a scrape whose payload was read come to. -/
theorem due_strokes (a : Errand) (summary : Summary) (h : a.Brings summary) (s : Series)
    (value : Option Float) :
    due s (a.strokes o interval e allowed) value =
      due s ((a.writes o interval e allowed summary).map .write) value := by
  rw [strokes_of_brings o interval e allowed a summary h, due_append, due_count, writes,
    List.map_append, due_append]
  rfl

/-- As many pods are counted as are written. -/
theorem countP_strokes (a : Errand) (summary : Summary) (h : a.Brings summary) :
    (a.strokes o interval e allowed).countP Stroke.isCount =
      (processed summary allowed).written := by
  rw [strokes_of_brings o interval e allowed a summary h, List.countP_append, countP_count,
    countP_write, Nat.add_zero, ← List.countP_eq_length_filter]
  rfl

/-- A scrape is finished at once. -/
def finish (a : Errand) : Exporter :=
  e.finishScrape o interval a.node a.answer allowed a.elapsed

/-- A scrape ends in one of three ways. Its node loses its series, or nothing
    happens, or the payload is written. -/
theorem finish_cases (a : Errand) :
    (a.strokes o interval e allowed = Family.all.map .find ∧
        (a.finish o interval e allowed).store = (e.store.evictNode a.node).store) ∨
      (a.strokes o interval e allowed = [] ∧
        (a.finish o interval e allowed).store = e.store) ∨
      ∃ summary, a.Brings summary ∧
        (a.finish o interval e allowed).store =
          e.store.applyAll (a.writes o interval e allowed summary) := by
  cases hanswer : a.answer with
  | none =>
      refine Or.inl ⟨?_, ?_⟩
      · simp only [strokes, hanswer]
      · rw [finish, hanswer]
        rfl
  | some payload =>
      cases hparse : Summary.parse? payload with
      | none =>
          refine Or.inr (Or.inl ⟨?_, ?_⟩)
          · simp only [strokes, hanswer, hparse]
          · simp only [finish, Exporter.finishScrape, hanswer, hparse]
      | some summary =>
          refine Or.inr (Or.inr ⟨summary, ⟨payload, hanswer, hparse⟩, ?_⟩)
          simp only [finish, Exporter.finishScrape, hanswer, hparse]
          -- The rate is written last. A lag is noted before it, which is no write.
          rw [writes, Store.applyAll, List.foldl_append]
          simp only [Exporter.writeRemaining, Exporter.noteLag, whenOn]
          split <;> split <;> rfl

theorem profiles_finish (a : Errand) :
    (a.finish o interval e allowed).profiles = e.profiles := by
  unfold finish Exporter.finishScrape
  split
  · rfl
  · split
    · rfl
    · simp only [Exporter.writeRemaining, Exporter.noteLag]
      split <;> split <;> rfl

variable {kind : Series → Prop}

/-- Whatever a scrape makes live was about to be written. -/
theorem live_finish (a : Errand) (hlive : ∀ s ∈ e.store.index, kind s)
    (hkind : ∀ stroke ∈ a.strokes o interval e allowed, ∀ s ∈ stroke.series, kind s) :
    ∀ s ∈ (a.finish o interval e allowed).store.index, kind s := by
  intro s hs
  rcases finish_cases o interval e allowed a with
    ⟨-, hstore⟩ | ⟨-, hstore⟩ | ⟨summary, hbrings, hstore⟩
  · rw [hstore, Store.mem_index_evictNode] at hs
    exact hlive s hs.1
  · rw [hstore] at hs
    exact hlive s hs
  · rw [hstore, Store.mem_index_applyAll] at hs
    rcases hs with hold | ⟨w, hw, rfl⟩
    · exact hlive s hold
    · have hstroke := (write_mem_strokes_iff o interval e allowed a summary hbrings w).mpr hw
      exact hkind (.write w) hstroke w.series List.mem_cons_self

/-- A scrape gives the series of its node what is due to them, and leaves those
    of other nodes. -/
theorem get?_finish (hapart : Series.Apart kind) (a : Errand)
    (hlive : ∀ s ∈ e.store.index, kind s)
    (hkind : ∀ stroke ∈ a.strokes o interval e allowed, ∀ s ∈ stroke.series, kind s)
    (s : Series) (hs : kind s) :
    (a.finish o interval e allowed).store.get? s =
      if s.value? .nodeName = some a.node then
        due s (a.strokes o interval e allowed) (e.store.get? s)
      else e.store.get? s := by
  rcases finish_cases o interval e allowed a with
    ⟨hstrokes, hstore⟩ | ⟨hstrokes, hstore⟩ | ⟨summary, hbrings, hstore⟩
  · -- An eviction looks through all families.
    rw [hstrokes, hstore, due_find, if_pos (Family.mem_all s.family)]
    split
    · rename_i hnode
      exact Store.get?_remove_self _ _ s ((Series.matchesLabel_eq_true_iff s _ _).mpr hnode)
    · rename_i hnode
      refine Store.get?_remove_of_apart _ _ s fun t ht htest => ?_
      refine hapart.sharesGauge_eq_false t s (hlive t ht) hs ?_
      rintro rfl
      exact hnode ((Series.matchesLabel_eq_true_iff t _ _).mp htest)
  · rw [hstrokes, hstore]
    exact (ite_self _).symm
  · have hwritten : ∀ w ∈ a.writes o interval e allowed summary, kind w.series := by
      intro w hw
      have hstroke := (write_mem_strokes_iff o interval e allowed a summary hbrings w).mpr hw
      exact hkind (.write w) hstroke w.series List.mem_cons_self
    rw [hstore, Store.get?_applyAll _ _ s fun w hw hne =>
      hapart.sharesGauge_eq_false w.series s (hwritten w hw) hs hne]
    split
    · exact (due_strokes o interval e allowed a summary hbrings s _).symm
    · -- What the payload writes has the name of the node that was scraped.
      rename_i hnode
      refine due_of_not_mem s _ _ fun w hw heq => hnode ?_
      rw [← heq]
      exact value?_nodeName_of_mem_writes o interval e allowed a summary w hw

/-- Scrapes are finished one after the other. -/
def finishAll (order : List Errand) : Exporter :=
  order.foldl (fun e a => a.finish o interval e allowed) e

end Errand

/-- A store shows what was due to every series when some scrapes of pairwise
    different nodes began: what its node's scrape makes of it, if there is one,
    and else what it was. -/
structure EndsAs (kind : Series → Prop) (o : Options) (interval : Duration) (e : Exporter)
    (allowed : AllowList) (errands : List Errand) (after : Store) : Prop where
  live : ∀ s ∈ after.index, kind s
  own : ∀ a ∈ errands, ∀ s, kind s → s.value? .nodeName = some a.node →
    after.get? s = due s (a.strokes o interval e allowed) (e.store.get? s)
  other : ∀ s, kind s → (∀ a ∈ errands, s.value? .nodeName ≠ some a.node) →
    after.get? s = e.store.get? s

namespace EndsAs

variable {kind : Series → Prop} {o : Options} {interval : Duration} {e : Exporter}
  {allowed : AllowList} {errands order : List Errand} {after later : Store}

/-- There is one way to show what was due. -/
theorem get?_eq (h : EndsAs kind o interval e allowed errands after)
    (hlater : EndsAs kind o interval e allowed errands later) (s : Series) :
    after.get? s = later.get? s := by
  by_cases hs : kind s
  · by_cases hnode : ∃ a ∈ errands, s.value? .nodeName = some a.node
    · rcases hnode with ⟨a, ha, hnode⟩
      rw [h.own a ha s hs hnode, hlater.own a ha s hs hnode]
    · have hno : ∀ a ∈ errands, s.value? .nodeName ≠ some a.node :=
        fun a ha heq => hnode ⟨a, ha, heq⟩
      rw [h.other s hs hno, hlater.other s hs hno]
  · -- Neither store has a series that nobody writes.
    rw [(Store.get?_eq_none_iff after s).mpr fun hmem => hs (h.live s hmem),
      (Store.get?_eq_none_iff later s).mpr fun hmem => hs (hlater.live s hmem)]

/-- The order of the scrapes does not matter. -/
theorem perm (h : EndsAs kind o interval e allowed order after) (hperm : order.Perm errands) :
    EndsAs kind o interval e allowed errands after where
  live := h.live
  own := fun a ha => h.own a (hperm.mem_iff.mpr ha)
  other := fun s hs hno => h.other s hs fun a ha => hno a (hperm.mem_iff.mp ha)

end EndsAs

/-- Scrapes that are finished one after the other show what was due. -/
theorem Errand.endsAs_finishAll {kind : Series → Prop} (hapart : Series.Apart kind) (o : Options)
    (interval : Duration) (allowed : AllowList) (order : List Errand) (e : Exporter)
    (hnodes : (order.map Errand.node).Nodup) (hlive : ∀ s ∈ e.store.index, kind s)
    (hkind : ∀ a ∈ order, ∀ stroke ∈ a.strokes o interval e allowed, ∀ s ∈ stroke.series,
      kind s) :
    EndsAs kind o interval e allowed order (finishAll o interval e allowed order).store := by
  induction order generalizing e with
  | nil => exact ⟨hlive, fun a ha => absurd ha List.not_mem_nil, fun s _ _ => rfl⟩
  | cons a rest ih =>
      -- The others begin with the store that the first leaves. They write what
      -- they would have written before it, since the profiles are the same.
      have hprofiles := profiles_finish o interval e allowed a
      have hrest := ih (a.finish o interval e allowed) (List.nodup_cons.mp hnodes).2
        (live_finish o interval e allowed a hlive (hkind a List.mem_cons_self))
        (fun b hb => by
          rw [strokes_congr o interval e allowed b _ hprofiles]
          exact hkind b (List.mem_cons_of_mem a hb))
      have hfirst := get?_finish o interval e allowed hapart a hlive (hkind a List.mem_cons_self)
      -- No later scrape is of the same node as the first.
      have hdiffer : ∀ b ∈ rest, a.node ≠ b.node := by
        intro b hb heq
        refine (List.nodup_cons.mp hnodes).1 ?_
        rw [heq]
        exact List.mem_map_of_mem hb
      refine ⟨hrest.live, fun b hb s hs hnode => ?_, fun s hs hno => ?_⟩
      · rcases List.mem_cons.mp hb with rfl | hb
        · -- A series of the first node is not touched after the first scrape.
          have hno : ∀ c ∈ rest, s.value? .nodeName ≠ some c.node :=
            fun c hc heq => hdiffer c hc (Option.some.inj (hnode.symm.trans heq))
          have hkept := hrest.other s hs hno
          exact hkept.trans ((hfirst s hs).trans (if_pos hnode))
        · -- A series of a later node is not touched by the first scrape.
          have hne : s.value? .nodeName ≠ some a.node :=
            fun heq => hdiffer b hb (Option.some.inj (heq.symm.trans hnode))
          have hown := hrest.own b hb s hs hnode
          rw [strokes_congr o interval e allowed b _ hprofiles, hfirst s hs, if_neg hne] at hown
          exact hown
      · have hkept := hrest.other s hs fun b hb => hno b (List.mem_cons_of_mem a hb)
        exact hkept.trans ((hfirst s hs).trans (if_neg (hno a List.mem_cons_self)))

end StorageGauges
