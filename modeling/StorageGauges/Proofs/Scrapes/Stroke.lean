import StorageGauges.Exporter.Scrape
import StorageGauges.Proofs.Gauge.Reading
import StorageGauges.Proofs.Gauge.Written

/-!
# Scrapes Stroke by Stroke

Scrapes of different nodes run side by side. What they share is the store, and
nothing that takes more than one series is done to it at once: every gauge is
written by itself, and the eviction of a node looks through one family after
the other and deletes what it found there one series at a time, in whatever
order. Between any two of these strokes other scrapes make theirs.

The strokes of a scrape are settled when its node has answered, since what a
pod writes depends on the profiles and on the payload. Only what an eviction
finds depends on the store.

What a scrape makes of one series of its own node can be told from its strokes
and from the value the series has (`due`), without the rest of the store. It
is a quantity that the scrape's own strokes conserve and that nobody else's
strokes touch, as long as no other series shares the gauge. This is all that
the interleaving of scrapes has to be known by.

## Main definitions

* `Errand`: A node that is scraped, with what it answers.
* `Stroke`, `Errand.strokes`: What a scrape does to the store.
* `Strand`, `Strand.act`: A scrape under way, and its next stroke.
* `Strand.Moves`: What a stroke can be.
* `due`: What a scrape that is under way will make of a series.
* `Series.Apart`: No two series of some kind share a gauge.
* `Strand.Within`: What a scrape is about to write or delete.

## Theorems

* `Strand.moves_act`: Every stroke is one of those.
* `Strand.Moves.within`, `Strand.Moves.live`: Scrapes keep to their node.
* `Strand.Moves.due_eq`: A stroke conserves what is due to its node's series.
* `Strand.Moves.get?_of_foreign`: It leaves the series of other nodes.
* `Strand.Moves.written`: It counts the pods that are written.
* `Strand.exists_acts_nil`: A scrape never gets stuck.
* `due_find`, `due_count`: What evictions and payloads come to.
* `Store.get?_applyAll`: Writes at once do what they do one by one.
-/

namespace StorageGauges

/-- A node that is scraped: what it answers, if it does, and after how many
    milliseconds the scrape looks at the time. -/
structure Errand where
  node : String
  answer : Option Payload
  elapsed : Nat

/-- What a scrape does at once: it writes a series, counts a pod, looks for the
    series of its node in a family, or deletes one of those it found. -/
inductive Stroke
  | write (w : Write)
  | count
  | find (f : Family)
  | delete (found : List Series)

namespace Stroke

/-- The series that a stroke is about to write or delete. -/
def series : Stroke → List Series
  | write w => [w.series]
  | count => []
  | find _ => []
  | delete found => found

/-- A pod is counted. -/
def isCount : Stroke → Bool
  | write _ => false
  | count => true
  | find _ => false
  | delete _ => false

/-- What a stroke makes of a series of its node. What is looked for is deleted
    before anything else is done. -/
def effect (s : Series) (value : Option Float) : Stroke → Option Float
  | write w => if w.series = s then some w.value else value
  | count => value
  | find f => if s.family = f then none else value
  | delete found => if s ∈ found then none else value

end Stroke

/-- What the strokes of a scrape make of a series of its node. -/
def due (s : Series) (strokes : List Stroke) (value : Option Float) : Option Float :=
  strokes.foldl (Stroke.effect s) value

/-- What a scrape does when its node has answered. Every pod is counted after
    its gauges were written. -/
def Errand.strokes (o : Options) (interval : Duration) (e : Exporter) (allowed : AllowList)
    (a : Errand) : List Stroke :=
  match a.answer with
  -- The eviction of a node goes through all families.
  | none => Family.all.map .find
  | some payload =>
    match Summary.parse? payload with
    -- What cannot be read leaves everything as it is.
    | none => []
    | some summary =>
      (summary.pods.filter fun s => !s.isSkipped allowed).flatMap
          (fun s => (sampleWrites o e a.node s).map .write ++ [.count])
        ++ (whenOn o.features.adjustedPollingRate (pollingRate a.node)
            (Float.ofInt (remainingTime interval a.elapsed))).map .write

/-- A scrape under way: what it has left to do, and the pods it has counted. -/
structure Strand where
  errand : Errand
  left : List Stroke
  written : Nat

/-- The live series of a node in a family. -/
def Store.ofNodeIn (st : Store) (f : Family) (node : String) : List Series :=
  st.index.filter fun s => s.family = f && s.matchesLabel .nodeName node

namespace Strand

/-- A scrape makes its next stroke. Of the series it found it deletes the one at
    some position, and goes on when none is left. -/
def act (st : Store) (a : Strand) (k : Nat) : Store × Strand :=
  match a.left with
  | [] => (st, a)
  | .write w :: rest => (st.apply w, { a with left := rest })
  | .count :: rest => (st, { a with left := rest, written := a.written + 1 })
  | .find f :: rest => (st, { a with left := .delete (st.ofNodeIn f a.errand.node) :: rest })
  | .delete [] :: rest => (st, { a with left := rest })
  | .delete (s :: found) :: rest =>
    match (s :: found)[k]? with
    | some t =>
      (st.remove fun u => u = t, { a with left := .delete ((s :: found).eraseIdx k) :: rest })
    -- Nothing is at that position, and the scrape still has it to do.
    | none => (st, a)

/-- What a stroke can be, with the store and the scrape after it. -/
inductive Moves (st : Store) (a : Strand) : Store → Strand → Prop
  | idle : Moves st a st a
  | write (w : Write) (rest : List Stroke) (h : a.left = .write w :: rest) :
      Moves st a (st.apply w) { a with left := rest }
  | count (rest : List Stroke) (h : a.left = .count :: rest) :
      Moves st a st { a with left := rest, written := a.written + 1 }
  | find (f : Family) (rest : List Stroke) (h : a.left = .find f :: rest) :
      Moves st a st { a with left := .delete (st.ofNodeIn f a.errand.node) :: rest }
  | delete (found : List Series) (rest : List Stroke) (k : Nat) (t : Series)
      (h : a.left = .delete found :: rest) (ht : found[k]? = some t) :
      Moves st a (st.remove fun u => u = t)
        { a with left := .delete (found.eraseIdx k) :: rest }
  | deleted (rest : List Stroke) (h : a.left = .delete [] :: rest) :
      Moves st a st { a with left := rest }

theorem moves_act (st : Store) (a : Strand) (k : Nat) :
    a.Moves st (a.act st k).1 (a.act st k).2 := by
  unfold act
  split
  · exact .idle
  · rename_i w rest h
    exact .write w rest h
  · rename_i rest h
    exact .count rest h
  · rename_i f rest h
    exact .find f rest h
  · rename_i rest h
    exact .deleted rest h
  · rename_i s found rest h
    split
    · rename_i t ht
      exact .delete (s :: found) rest k t h ht
    · exact .idle

end Strand

/-- No two series of some kind share a gauge: those of one family that have the
    same key are the same. -/
def Series.Apart (kind : Series → Prop) : Prop :=
  ∀ s t, kind s → kind t → s.family = t.family → s.key = t.key → s = t

theorem Series.Apart.sharesGauge_eq_false {kind : Series → Prop} (h : Series.Apart kind)
    (s t : Series) (hs : kind s) (ht : kind t) (hne : s ≠ t) : s.sharesGauge t = false := by
  rw [← Bool.not_eq_true, Series.sharesGauge_iff]
  exact fun hshares => hne (h s t hs ht hshares.1 hshares.2)

/-- A write makes of a series what it makes of it alone. -/
theorem Store.get?_apply (st : Store) (w : Write) (s : Series)
    (hapart : w.series ≠ s → w.series.sharesGauge s = false) :
    (st.apply w).get? s = if w.series = s then some w.value else st.get? s := by
  by_cases heq : w.series = s
  · rw [if_pos heq, ← heq]
    exact get?_set_self st w.series w.value
  · rw [if_neg heq]
    exact get?_set_of_apart st w.series s w.value (hapart heq)

/-- The deletion of one series leaves every other, as a write does. -/
theorem Store.get?_remove_one (st : Store) (t s : Series)
    (hapart : t ≠ s → t.sharesGauge s = false) :
    (st.remove fun u => u = t).get? s = if t = s then none else st.get? s := by
  by_cases heq : t = s
  · rw [if_pos heq]
    exact get?_remove_self st _ s (decide_eq_true heq.symm)
  · rw [if_neg heq]
    refine get?_remove_of_apart st _ s fun u hu hut => ?_
    rw [of_decide_eq_true hut]
    exact hapart heq

theorem Store.mem_ofNodeIn_iff (st : Store) (f : Family) (node : String) (s : Series) :
    s ∈ st.ofNodeIn f node ↔
      s ∈ st.index ∧ s.family = f ∧ s.value? .nodeName = some node := by
  rw [ofNodeIn, List.mem_filter, Bool.and_eq_true, decide_eq_true_iff,
    Series.matchesLabel_eq_true_iff]

namespace Stroke

/-- To have found the series of a node in a family is to be about to delete
    whatever of them is live. -/
theorem effect_ofNodeIn (st : Store) (f : Family) (node : String) (s : Series)
    (hnode : s.value? .nodeName = some node) :
    effect s (st.get? s) (.delete (st.ofNodeIn f node)) = effect s (st.get? s) (.find f) := by
  by_cases hlive : s ∈ st.ofNodeIn f node
  · have hfamily := ((Store.mem_ofNodeIn_iff st f node s).mp hlive).2.1
    rw [effect, effect, if_pos hlive, if_pos hfamily]
  · -- To look for it is to have deleted it, and it has no value anyway.
    rw [effect, effect, if_neg hlive]
    by_cases hfamily : s.family = f
    · -- A series of the node and family that is not found is not live.
      rw [if_pos hfamily, Store.get?_eq_none_iff]
      exact fun hindex => hlive ((Store.mem_ofNodeIn_iff st f node s).mpr ⟨hindex, hfamily, hnode⟩)
    · rw [if_neg hfamily]

/-- Of some series that are to be deleted one is deleted first. -/
theorem effect_eraseIdx (st : Store) (found : List Series) (k : Nat) (t s : Series)
    (ht : found[k]? = some t) (hapart : t ≠ s → t.sharesGauge s = false) :
    effect s ((st.remove fun u => u = t).get? s) (.delete (found.eraseIdx k)) =
      effect s (st.get? s) (.delete found) := by
  rw [effect, effect, Store.get?_remove_one st t s hapart]
  by_cases heq : t = s
  · have hmem : s ∈ found := heq ▸ List.mem_of_getElem? ht
    -- It is gone, whether it is found once more or not.
    rw [if_pos heq, if_pos hmem, ite_self]
  · -- Another series is still among those that are left.
    have hother : s ∈ found.eraseIdx k ↔ s ∈ found := by
      refine ⟨List.mem_of_mem_eraseIdx, fun hmem => ?_⟩
      rcases List.mem_iff_getElem?.mp hmem with ⟨i, hi⟩
      refine List.mem_eraseIdx_iff_getElem?.mpr ⟨i, ?_, hi⟩
      rintro rfl
      exact heq (Option.some.inj (ht.symm.trans hi))
    simp only [if_neg heq, hother]

end Stroke

namespace Strand

/-- Everything that a scrape is about to write or delete is of some kind and has
    the name of its node. -/
def Within (kind : Series → Prop) (a : Strand) : Prop :=
  ∀ stroke ∈ a.left, ∀ s ∈ stroke.series,
    kind s ∧ s.value? .nodeName = some a.errand.node

theorem Within.head {kind : Series → Prop} {a : Strand} (h : a.Within kind) (stroke : Stroke)
    (rest : List Stroke) (hleft : a.left = stroke :: rest) :
    ∀ s ∈ stroke.series, kind s ∧ s.value? .nodeName = some a.errand.node := by
  refine h stroke ?_
  rw [hleft]
  exact List.mem_cons_self

theorem Within.tail {kind : Series → Prop} {a : Strand} (h : a.Within kind) (stroke : Stroke)
    (rest : List Stroke) (hleft : a.left = stroke :: rest) :
    ∀ other ∈ rest, ∀ s ∈ other.series, kind s ∧ s.value? .nodeName = some a.errand.node := by
  intro other hother
  refine h other ?_
  rw [hleft]
  exact List.mem_cons_of_mem stroke hother

namespace Moves

variable {kind : Series → Prop} {st st' : Store} {a a' : Strand}

theorem errand (h : a.Moves st st' a') : a'.errand = a.errand := by
  cases h <;> rfl

/-- Whatever becomes live is about to be written. -/
theorem live (h : a.Moves st st' a') (hlive : ∀ s ∈ st.index, kind s) (hwithin : a.Within kind) :
    ∀ s ∈ st'.index, kind s := by
  intro s hs
  cases h with
  | idle => exact hlive s hs
  | write w rest hleft =>
      rcases (Store.mem_index_apply st w s).mp hs with rfl | hold
      · exact (hwithin.head (.write w) rest hleft w.series List.mem_cons_self).1
      · exact hlive s hold
  | count rest hleft => exact hlive s hs
  | find f rest hleft => exact hlive s hs
  | delete found rest k t hleft ht =>
      exact hlive s ((Store.mem_index_remove st _ s).mp hs).1
  | deleted rest hleft => exact hlive s hs

/-- A scrape keeps to its node: what it finds is live and of the node. -/
theorem within (h : a.Moves st st' a') (hlive : ∀ s ∈ st.index, kind s)
    (hwithin : a.Within kind) : a'.Within kind := by
  cases h with
  | idle => exact hwithin
  | write w rest hleft => exact hwithin.tail _ rest hleft
  | count rest hleft => exact hwithin.tail _ rest hleft
  | find f rest hleft =>
      intro stroke hstroke s hs
      rcases List.mem_cons.mp hstroke with rfl | hstroke
      · have hfound := (Store.mem_ofNodeIn_iff st f a.errand.node s).mp hs
        exact ⟨hlive s hfound.1, hfound.2.2⟩
      · exact hwithin.tail _ rest hleft stroke hstroke s hs
  | delete found rest k t hleft ht =>
      intro stroke hstroke s hs
      rcases List.mem_cons.mp hstroke with rfl | hstroke
      · exact hwithin.head _ rest hleft s (List.mem_of_mem_eraseIdx hs)
      · exact hwithin.tail _ rest hleft stroke hstroke s hs
  | deleted rest hleft => exact hwithin.tail _ rest hleft

/-- A series that is written or deleted is apart from every other of the kind. -/
theorem sharesGauge_eq_false (hapart : Series.Apart kind) (hwithin : a.Within kind)
    (stroke : Stroke) (rest : List Stroke) (hleft : a.left = stroke :: rest) (t : Series)
    (ht : t ∈ stroke.series) (s : Series) (hs : kind s) (hne : t ≠ s) :
    t.sharesGauge s = false :=
  hapart.sharesGauge_eq_false t s (hwithin.head stroke rest hleft t ht).1 hs hne

/-- A stroke conserves what is due to the series of its node. -/
theorem due_eq (h : a.Moves st st' a') (hapart : Series.Apart kind) (hwithin : a.Within kind)
    (s : Series) (hs : kind s) (hnode : s.value? .nodeName = some a.errand.node) :
    due s a'.left (st'.get? s) = due s a.left (st.get? s) := by
  cases h with
  | idle => rfl
  | write w rest hleft =>
      -- The store does now what the effect of the stroke foretold.
      have happly := Store.get?_apply st w s
        (sharesGauge_eq_false hapart hwithin _ rest hleft _ List.mem_cons_self s hs)
      rw [hleft]
      exact congrArg (due s rest) happly
  | count rest hleft =>
      rw [hleft]
      rfl
  | find f rest hleft =>
      -- The store stays, and what is found replaces the look for it.
      rw [hleft]
      exact congrArg (due s rest) (Stroke.effect_ofNodeIn st f a.errand.node s hnode)
  | delete found rest k t hleft ht =>
      have herased := Stroke.effect_eraseIdx st found k t s ht
        (sharesGauge_eq_false hapart hwithin _ rest hleft t (List.mem_of_getElem? ht) s hs)
      rw [hleft]
      exact congrArg (due s rest) herased
  | deleted rest hleft =>
      rw [hleft]
      rfl

/-- A stroke leaves the series of other nodes. -/
theorem get?_of_foreign (h : a.Moves st st' a') (hapart : Series.Apart kind)
    (hlive : ∀ s ∈ st.index, kind s) (hwithin : a.Within kind) (s : Series)
    (hnode : s.value? .nodeName ≠ some a.errand.node) : st'.get? s = st.get? s := by
  by_cases hs : kind s
  · -- What is written or deleted has the name of this node, so it is another series.
    have hother : ∀ stroke rest, a.left = stroke :: rest → ∀ t ∈ stroke.series,
        t ≠ s ∧ t.sharesGauge s = false := by
      intro stroke rest hleft t ht
      have hne : t ≠ s := by
        rintro rfl
        exact hnode (hwithin.head stroke rest hleft t ht).2
      exact ⟨hne, sharesGauge_eq_false hapart hwithin stroke rest hleft t ht s hs hne⟩
    cases h with
    | idle => rfl
    | write w rest hleft =>
        have hw := hother _ rest hleft w.series List.mem_cons_self
        rw [Store.get?_apply st w s fun _ => hw.2, if_neg hw.1]
    | count rest hleft => rfl
    | find f rest hleft => rfl
    | delete found rest k t hleft ht =>
        have ht := hother _ rest hleft t (List.mem_of_getElem? ht)
        rw [Store.get?_remove_one st t s fun _ => ht.2, if_neg ht.1]
    | deleted rest hleft => rfl
  · -- A series that nobody writes is not live, before or after.
    have hnone : st.get? s = none := (Store.get?_eq_none_iff st s).mpr fun hmem =>
      hs (hlive s hmem)
    have hnone' : st'.get? s = none := (Store.get?_eq_none_iff st' s).mpr fun hmem =>
      hs (h.live hlive hwithin s hmem)
    rw [hnone, hnone']

/-- A pod that is counted is one that was left to count. -/
theorem written (h : a.Moves st st' a') :
    a'.written + a'.left.countP Stroke.isCount = a.written + a.left.countP Stroke.isCount := by
  cases h with
  | idle => rfl
  | write w rest hleft =>
      rw [hleft]
      rfl
  | count rest hleft =>
      rw [hleft, List.countP_cons_of_pos rfl]
      exact Nat.add_right_comm _ 1 _
  | find f rest hleft =>
      rw [hleft]
      rfl
  | delete found rest k t hleft ht =>
      rw [hleft]
      rfl
  | deleted rest hleft =>
      rw [hleft]
      rfl

end Moves

/-- A scrape makes some strokes while no other does. -/
def acts (st : Store) (a : Strand) (ks : List Nat) : Store × Strand :=
  ks.foldl (fun x k => x.2.act x.1 k) (st, a)

theorem acts_append (st : Store) (a : Strand) (ks ls : List Nat) :
    a.acts st (ks ++ ls) = (a.acts st ks).2.acts (a.acts st ks).1 ls :=
  List.foldl_append

theorem acts_cons (st : Store) (a : Strand) (k : Nat) (ks : List Nat) :
    a.acts st (k :: ks) = (a.act st k).2.acts (a.act st k).1 ks :=
  rfl

/-- What was found can be deleted, one series after the other. -/
theorem exists_acts_delete (found : List Series) (rest : List Stroke) (st : Store) (a : Strand)
    (h : a.left = .delete found :: rest) : ∃ ks, (a.acts st ks).2.left = rest := by
  induction found generalizing st a with
  | nil =>
      have hleft : (a.act st 0).2.left = rest := by
        unfold act
        rw [h]
      exact ⟨[0], hleft⟩
  | cons t found ih =>
      -- The first of those that are left can always be deleted next.
      have hleft : (a.act st 0).2.left = .delete found :: rest := by
        unfold act
        rw [h]
        rfl
      rcases ih (a.act st 0).1 (a.act st 0).2 hleft with ⟨ks, hks⟩
      refine ⟨0 :: ks, ?_⟩
      rw [acts_cons]
      exact hks

/-- A scrape can be brought to its end, whatever the store is. -/
theorem exists_acts_nil (strokes : List Stroke) (st : Store) (a : Strand)
    (h : a.left = strokes) : ∃ ks, (a.acts st ks).2.left = [] := by
  induction strokes generalizing st a with
  | nil => exact ⟨[], h⟩
  | cons stroke rest ih =>
      -- Whatever the first stroke makes of the store, the others can follow it.
      have hfirst : ∃ ks, (a.acts st ks).2.left = rest := by
        cases stroke with
        | write w =>
            have hleft : (a.act st 0).2.left = rest := by
              unfold act
              rw [h]
            exact ⟨[0], hleft⟩
        | count =>
            have hleft : (a.act st 0).2.left = rest := by
              unfold act
              rw [h]
            exact ⟨[0], hleft⟩
        | find f =>
            -- What is found is what is deleted next.
            have hleft : (a.act st 0).2.left =
                .delete (st.ofNodeIn f a.errand.node) :: rest := by
              unfold act
              rw [h]
            rcases exists_acts_delete _ rest (a.act st 0).1 (a.act st 0).2 hleft with ⟨ks, hks⟩
            exact ⟨0 :: ks, hks⟩
        | delete found => exact exists_acts_delete found rest st a h
      rcases hfirst with ⟨ks, hks⟩
      rcases ih (a.acts st ks).1 (a.acts st ks).2 hks with ⟨ls, hls⟩
      refine ⟨ks ++ ls, ?_⟩
      rw [acts_append]
      exact hls

end Strand

theorem due_append (s : Series) (strokes others : List Stroke) (value : Option Float) :
    due s (strokes ++ others) value = due s others (due s strokes value) :=
  List.foldl_append

/-- An eviction takes every series of its node whose family is looked through. -/
theorem due_find (s : Series) (fs : List Family) (value : Option Float) :
    due s (fs.map .find) value = if s.family ∈ fs then none else value := by
  induction fs generalizing value with
  | nil => rfl
  | cons f rest ih =>
      have hfirst : due s ((f :: rest).map .find) value =
          due s (rest.map .find) (if s.family = f then none else value) := rfl
      rw [hfirst, ih]
      -- A family that is looked through again is looked through for nothing.
      by_cases hrest : s.family ∈ rest
      · rw [if_pos hrest, if_pos (List.mem_cons_of_mem f hrest)]
      · rw [if_neg hrest]
        simp only [List.mem_cons, hrest, or_false]

/-- Counting pods makes no difference to what is written. -/
theorem due_count (s : Series) (pods : List PodSample) (writes : PodSample → List Write)
    (value : Option Float) :
    due s (pods.flatMap fun p => (writes p).map .write ++ [.count]) value =
      due s ((pods.flatMap writes).map .write) value := by
  induction pods generalizing value with
  | nil => rfl
  | cons p rest ih =>
      -- The count stands between the writes of two pods and has no effect.
      rw [List.flatMap_cons, due_append, ih, due_append, List.flatMap_cons, List.map_append,
        due_append]
      rfl

/-- Writes of other series make no difference. -/
theorem due_of_not_mem (s : Series) (ws : List Write) (value : Option Float)
    (h : ∀ w ∈ ws, w.series ≠ s) : due s (ws.map .write) value = value := by
  induction ws with
  | nil => rfl
  | cons w rest ih =>
      have hfirst : due s ((w :: rest).map .write) value =
          due s (rest.map .write) (if w.series = s then some w.value else value) := rfl
      rw [hfirst, if_neg (h w List.mem_cons_self)]
      exact ih fun w' hw' => h w' (List.mem_cons_of_mem w hw')

theorem countP_write (ws : List Write) : (ws.map Stroke.write).countP Stroke.isCount = 0 := by
  rw [List.countP_map]
  exact List.countP_eq_zero.mpr fun w _ => Bool.false_ne_true

/-- Every pod is counted once. -/
theorem countP_count (pods : List PodSample) (writes : PodSample → List Write) :
    (pods.flatMap fun p => (writes p).map .write ++ [.count]).countP Stroke.isCount =
      pods.length := by
  induction pods with
  | nil => rfl
  | cons p rest ih =>
      rw [List.flatMap_cons, List.countP_append, ih, List.countP_append, countP_write,
        List.length_cons, Nat.zero_add, Nat.add_comm]
      rfl

/-- Writes at once do what they do one by one. -/
theorem Store.get?_applyAll (st : Store) (ws : List Write) (s : Series)
    (hapart : ∀ w ∈ ws, w.series ≠ s → w.series.sharesGauge s = false) :
    (st.applyAll ws).get? s = due s (ws.map .write) (st.get? s) := by
  induction ws generalizing st with
  | nil => rfl
  | cons w rest ih =>
      have hrest := ih (st.apply w) fun w' hw' => hapart w' (List.mem_cons_of_mem w hw')
      rw [applyAll] at hrest
      rw [applyAll, List.foldl_cons, hrest, get?_apply st w s (hapart w List.mem_cons_self)]
      rfl

end StorageGauges
