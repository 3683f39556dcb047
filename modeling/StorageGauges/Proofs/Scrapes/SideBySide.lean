import StorageGauges.Proofs.Scrapes.AtOnce

/-!
# Scrapes Side by Side

A tick dispatches scrapes of pairwise different nodes, and from then on they
make their strokes in any order. When all of them are over the store shows
what it would show had they been finished one after the other, whatever the
order of the strokes and whatever the order of the scrapes.

The reason is that each series belongs to one node. What is due to a series is
conserved by the strokes of its own scrape and left alone by those of others,
so at the end it has what was due to it at the beginning (`Crew.Sound`), as it
has after scrapes one after the other (`Errand.endsAs_finishAll`).

Nothing of this holds for series that share a gauge, so the series that are
live or will be written have to be apart. It does not do that their texts are:
two nodes whose names have one hash are shown what is left to whichever of them
was scraped last.

## Main definitions

* `Crew`: The store, and the scrapes that a tick has dispatched.
* `Crew.act`, `Crew.run`: Strokes of any of them, in any order.
* `Crew.isDone`, `Strand.outcome`: How scrapes that are over have ended.
* `Known`: The series that are live or will be written.
* `Crew.Sound`: What strokes conserve.

## Theorems

* `Crew.act_cases`: A stroke is one scrape's, and changes no other scrape.
* `Crew.exists_run_isDone`: Scrapes side by side never get stuck.
* `Crew.Sound.act`, `Crew.Sound.run`: What is conserved by all strokes.
* `Crew.Sound.get?_act_of_foreign`: What no stroke changes.
* `Crew.Sound.endsAs`: Scrapes that are over show what was due.
* `Crew.Sound.outcome_eq`: They have ended as scrapes at once do.
-/

namespace StorageGauges

/-- The store, and the scrapes that a tick has dispatched. -/
structure Crew where
  store : Store
  strands : List Strand

/-- The series that are live, or that some scrape will write. -/
def Known (o : Options) (interval : Duration) (e : Exporter) (allowed : AllowList)
    (errands : List Errand) (s : Series) : Prop :=
  s ∈ e.store.index ∨
    ∃ a ∈ errands, ∃ stroke ∈ a.strokes o interval e allowed, s ∈ stroke.series

/-- How a scrape that is over has ended. -/
def Strand.outcome (interval : Duration) (a : Strand) : Outcome :=
  match a.errand.answer with
  | none => .queryFailed
  | some payload =>
    match Summary.parse? payload with
    | none => .parseFailed
    | some _ => .recorded a.written (remainingTime interval a.errand.elapsed)

namespace Crew

/-- A tick has dispatched some scrapes, and their nodes have answered. -/
def dispatched (o : Options) (interval : Duration) (e : Exporter) (allowed : AllowList)
    (errands : List Errand) : Crew :=
  { store := e.store
    strands := errands.map fun a =>
      { errand := a, left := a.strokes o interval e allowed, written := 0 } }

/-- One of the scrapes makes its next stroke. -/
def act (c : Crew) (pick : Nat × Nat) : Crew :=
  match c.strands[pick.1]? with
  | some a =>
    let (store, a) := a.act c.store pick.2
    { store, strands := c.strands.set pick.1 a }
  | none => c

/-- Scrapes make strokes in some order. -/
def run (c : Crew) (picks : List (Nat × Nat)) : Crew :=
  picks.foldl act c

/-- All scrapes are over. -/
def isDone (c : Crew) : Bool :=
  c.strands.all fun a => a.left.isEmpty

/-- A stroke is a stroke of one scrape, and changes no other one. -/
theorem act_cases (c : Crew) (pick : Nat × Nat) :
    c.act pick = c ∨ ∃ before a after store a', c.strands[pick.1]? = some a ∧
      c.strands = before ++ a :: after ∧ a.Moves c.store store a' ∧
        c.act pick = { store, strands := before ++ a' :: after } := by
  unfold act
  cases hpick : c.strands[pick.1]? with
  | none => exact Or.inl rfl
  | some a =>
      rcases List.getElem?_eq_some_iff.mp hpick with ⟨hlt, hget⟩
      have hsplit : ∃ before after, c.strands = before ++ c.strands[pick.1] :: after ∧
          before.length = pick.1 ∧
            c.strands.set pick.1 (a.act c.store pick.2).2 =
              before ++ (a.act c.store pick.2).2 :: after := List.exists_of_set hlt
      rcases hsplit with ⟨before, after, hstrands, -, hset⟩
      rw [hget] at hstrands
      refine Or.inr ⟨before, a, after, _, _, rfl, hstrands, a.moves_act c.store pick.2, ?_⟩
      simp only [hset]

/-- Strokes of one scrape change that scrape and the store. -/
theorem run_one (c : Crew) (i : Nat) (a : Strand) (h : c.strands[i]? = some a) (ks : List Nat) :
    c.run (ks.map fun k => (i, k)) =
      { store := (a.acts c.store ks).1, strands := c.strands.set i (a.acts c.store ks).2 } := by
  rcases List.getElem?_eq_some_iff.mp h with ⟨hlt, hget⟩
  induction ks generalizing c a with
  | nil =>
      have hsame : c.strands.set i a = c.strands := by
        rw [← hget]
        exact List.set_getElem_self hlt
      change c = { store := c.store, strands := c.strands.set i a }
      rw [hsame]
  | cons k ks ih =>
      -- The crew has the scrape at its place again after the stroke.
      have hact : c.act (i, k) =
          { store := (a.act c.store k).1, strands := c.strands.set i (a.act c.store k).2 } := by
        unfold act
        rw [h]
      have hlt' : i < (c.act (i, k)).strands.length := by
        rw [hact, List.length_set]
        exact hlt
      have hget' : (c.act (i, k)).strands[i]? = some (a.act c.store k).2 := by
        rw [hact, List.getElem?_set_self hlt]
      have hrest := ih (c.act (i, k)) (a.act c.store k).2 hget' hlt'
        (List.getElem?_eq_some_iff.mp hget').2
      rw [List.map_cons, run, List.foldl_cons]
      rw [run] at hrest
      rw [hrest, hact, List.set_set]
      rfl

/-- The first scrapes of a crew can be brought to their ends, one after the
    other. -/
theorem exists_run_first (c : Crew) (n : Nat) (hn : n ≤ c.strands.length) :
    ∃ picks, (c.run picks).strands.length = c.strands.length ∧
      ∀ i < n, ∀ a, (c.run picks).strands[i]? = some a → a.left = [] := by
  induction n with
  | zero => exact ⟨[], rfl, fun i hi => absurd hi (Nat.not_lt_zero i)⟩
  | succ n ih =>
      rcases ih (Nat.le_of_succ_le hn) with ⟨picks, hlength, hfirst⟩
      have hlt : n < (c.run picks).strands.length := by
        rw [hlength]
        exact hn
      have hget := List.getElem?_eq_getElem hlt
      -- The next scrape goes on alone until it is over.
      rcases Strand.exists_acts_nil _ (c.run picks).store (c.run picks).strands[n] rfl with
        ⟨ks, hks⟩
      have hone := (c.run picks).run_one n _ hget ks
      have hrun : c.run (picks ++ ks.map fun k => (n, k)) =
          (c.run picks).run (ks.map fun k => (n, k)) := List.foldl_append
      refine ⟨picks ++ ks.map fun k => (n, k), ?_, fun i hi a ha => ?_⟩
      · rw [hrun, hone, List.length_set]
        exact hlength
      · rw [hrun, hone] at ha
        by_cases hin : i = n
        · rw [hin, List.getElem?_set_self hlt] at ha
          rw [← Option.some.inj ha]
          exact hks
        · -- The scrapes before it are not changed by its strokes.
          rw [List.getElem?_set_ne (Ne.symm hin)] at ha
          exact hfirst i (by omega) a ha

/-- Scrapes side by side can always be brought to their ends. -/
theorem exists_run_isDone (c : Crew) : ∃ picks, (c.run picks).isDone = true := by
  rcases c.exists_run_first c.strands.length le_rfl with ⟨picks, hlength, hfirst⟩
  refine ⟨picks, List.all_eq_true.mpr fun a ha => ?_⟩
  rcases List.getElem?_of_mem ha with ⟨i, hi⟩
  have hlt := (List.getElem?_eq_some_iff.mp hi).1
  rw [hlength] at hlt
  exact List.isEmpty_iff.mpr (hfirst i hlt a hi)

end Crew

/-- What the strokes of scrapes side by side conserve. Each scrape keeps to its
    node, and together with the store it accounts for what was due to the series
    of its node when the scrapes began. -/
structure Crew.Sound (kind : Series → Prop) (o : Options) (interval : Duration) (e : Exporter)
    (allowed : AllowList) (errands : List Errand) (c : Crew) : Prop where
  same : c.strands.map Strand.errand = errands
  live : ∀ s ∈ c.store.index, kind s
  within : ∀ a ∈ c.strands, a.Within kind
  own : ∀ a ∈ c.strands, ∀ s, kind s → s.value? .nodeName = some a.errand.node →
    due s a.left (c.store.get? s) =
      due s (a.errand.strokes o interval e allowed) (e.store.get? s)
  other : ∀ s, kind s → (∀ a ∈ errands, s.value? .nodeName ≠ some a.node) →
    c.store.get? s = e.store.get? s
  counted : ∀ a ∈ c.strands, a.written + a.left.countP Stroke.isCount =
    (a.errand.strokes o interval e allowed).countP Stroke.isCount

namespace Crew

variable {kind : Series → Prop} {o : Options} {interval : Duration} {e : Exporter}
  {allowed : AllowList} {errands : List Errand}

/-- A stroke conserves it, since no two scrapes are of one node. -/
theorem Sound.act {c : Crew} (h : c.Sound kind o interval e allowed errands)
    (hapart : Series.Apart kind) (hnodes : (errands.map Errand.node).Nodup) (pick : Nat × Nat) :
    (c.act pick).Sound kind o interval e allowed errands := by
  rcases act_cases c pick with hact | ⟨before, a, after, store, a', -, hstrands, hmoves, hact⟩
  · rw [hact]
    exact h
  have hmem : a ∈ c.strands := by
    rw [hstrands]
    exact List.mem_append_right before List.mem_cons_self
  have hnodup : ((a :: (before ++ after)).map fun b => b.errand.node).Nodup := by
    rw [← h.same, List.map_map, hstrands] at hnodes
    exact (List.perm_middle.map _).nodup_iff.mp hnodes
  -- After the stroke every scrape is the one that made it, or one of another node.
  have hold : ∀ b ∈ before ++ a' :: after,
      b = a' ∨ (b ∈ c.strands ∧ b.errand.node ≠ a.errand.node) := by
    intro b hb
    refine (List.mem_cons.mp (List.perm_middle.mem_iff.mp hb)).imp_right fun hother => ⟨?_, ?_⟩
    · rw [hstrands]
      exact List.perm_middle.mem_iff.mpr (List.mem_cons_of_mem a hother)
    · intro heq
      have hnode := List.mem_map_of_mem (f := fun b : Strand => b.errand.node) hother
      simp only [heq] at hnode
      exact (List.nodup_cons.mp hnodup).1 hnode
  have hforeign : ∀ s, s.value? .nodeName ≠ some a.errand.node →
      store.get? s = c.store.get? s :=
    hmoves.get?_of_foreign hapart h.live (h.within a hmem)
  rw [hact]
  constructor
  · rw [← h.same, hstrands, List.map_append, List.map_append, List.map_cons, List.map_cons,
      hmoves.errand]
  · exact hmoves.live h.live (h.within a hmem)
  · intro b hb
    rcases hold b hb with rfl | ⟨hb, -⟩
    · exact hmoves.within h.live (h.within a hmem)
    · exact h.within b hb
  · intro b hb s hs hnode
    rcases hold b hb with rfl | ⟨hb, hne⟩
    · rw [hmoves.errand] at hnode ⊢
      exact (hmoves.due_eq hapart (h.within a hmem) s hs hnode).trans (h.own a hmem s hs hnode)
    · rw [hforeign s fun heq => hne (Option.some.inj (hnode.symm.trans heq))]
      exact h.own b hb s hs hnode
  · intro s hs hno
    have hne := hno a.errand (by rw [← h.same]; exact List.mem_map_of_mem hmem)
    exact (hforeign s hne).trans (h.other s hs hno)
  · intro b hb
    rcases hold b hb with rfl | ⟨hb, -⟩
    · rw [hmoves.errand, hmoves.written]
      exact h.counted a hmem
    · exact h.counted b hb

theorem Sound.run {c : Crew} (h : c.Sound kind o interval e allowed errands)
    (hapart : Series.Apart kind) (hnodes : (errands.map Errand.node).Nodup)
    (picks : List (Nat × Nat)) : (c.run picks).Sound kind o interval e allowed errands := by
  induction picks generalizing c with
  | nil => exact h
  | cons pick rest ih => exact ih (h.act hapart hnodes pick)

theorem sound_dispatched (hlive : ∀ s ∈ e.store.index, kind s)
    (hkind : ∀ a ∈ errands, ∀ stroke ∈ a.strokes o interval e allowed, ∀ s ∈ stroke.series,
      kind s) :
    (dispatched o interval e allowed errands).Sound kind o interval e allowed errands := by
  -- A scrape that has just been dispatched has all of its strokes left.
  have hfresh : ∀ b ∈ (dispatched o interval e allowed errands).strands,
      b.errand ∈ errands ∧ b.left = b.errand.strokes o interval e allowed ∧ b.written = 0 := by
    intro b hb
    rcases List.mem_map.mp hb with ⟨a, ha, rfl⟩
    exact ⟨ha, rfl, rfl⟩
  constructor
  · rw [dispatched, List.map_map]
    exact List.map_id errands
  · exact hlive
  · intro b hb stroke hstroke s hs
    rcases hfresh b hb with ⟨ha, hleft, -⟩
    rw [hleft] at hstroke
    exact ⟨hkind b.errand ha stroke hstroke s hs,
      Errand.value?_nodeName_of_mem_strokes o interval e allowed b.errand stroke hstroke s hs⟩
  · intro b hb s _ _
    rw [(hfresh b hb).2.1]
    rfl
  · exact fun s _ _ => rfl
  · intro b hb
    rw [(hfresh b hb).2.1, (hfresh b hb).2.2, Nat.zero_add]

/-- Whatever a crew has done so far, its next stroke leaves the series of other
    nodes than the one whose scrape makes it. -/
theorem Sound.get?_act_of_foreign {c : Crew} (h : c.Sound kind o interval e allowed errands)
    (hapart : Series.Apart kind) (pick : Nat × Nat) (a : Strand)
    (hpick : c.strands[pick.1]? = some a) (s : Series)
    (hnode : s.value? .nodeName ≠ some a.errand.node) :
    (c.act pick).store.get? s = c.store.get? s := by
  rcases act_cases c pick with hact | ⟨before, b, after, store, b', hb, hstrands, hmoves, hact⟩
  · rw [hact]
  · rw [hpick] at hb
    rw [← Option.some.inj hb] at hstrands hmoves
    rw [hact]
    refine hmoves.get?_of_foreign hapart h.live (h.within a ?_) s hnode
    rw [hstrands]
    exact List.mem_append_right before List.mem_cons_self

/-- Scrapes that are over show what was due. -/
theorem Sound.endsAs {c : Crew} (h : c.Sound kind o interval e allowed errands)
    (hdone : c.isDone = true) : EndsAs kind o interval e allowed errands c.store where
  live := h.live
  own := by
    intro a ha s hs hnode
    rw [← h.same] at ha
    rcases List.mem_map.mp ha with ⟨b, hb, rfl⟩
    have hleft : b.left = [] := List.isEmpty_iff.mp (List.all_eq_true.mp hdone b hb)
    have hown := h.own b hb s hs hnode
    rw [hleft] at hown
    exact hown
  other := h.other

/-- Scrapes that are over have ended as they do when they are finished at
    once. -/
theorem Sound.outcome_eq {c : Crew} (h : c.Sound kind o interval e allowed errands)
    (hdone : c.isDone = true) :
    c.strands.map (·.outcome interval) =
      errands.map fun a => Exporter.scrapeOutcome interval a.answer allowed a.elapsed := by
  rw [← h.same, List.map_map]
  refine List.map_congr_left fun a ha => ?_
  have hleft : a.left = [] := List.isEmpty_iff.mp (List.all_eq_true.mp hdone a ha)
  have hcounted := h.counted a ha
  rw [hleft, List.countP_nil, Nat.add_zero] at hcounted
  rw [Function.comp_apply]
  unfold Strand.outcome Exporter.scrapeOutcome
  cases hanswer : a.errand.answer with
  | none => rfl
  | some payload =>
      cases hparse : Summary.parse? payload with
      | none => simp only [hparse]
      | some summary =>
          -- Nothing is left to count, so the scrape has counted all of its pods.
          rw [Errand.countP_strokes o interval e allowed a.errand summary
            ⟨payload, hanswer, hparse⟩] at hcounted
          simp only [hparse, hcounted]

end Crew

/-- Scrapes of pairwise different nodes make their strokes in any order. They can
    always go on to their ends. When they are over, the live series and their
    values are those that the same scrapes leave when they are finished one after
    the other in any order, and each has ended as it ends then. At no time does
    the scrape of one node change what is read of a series of another. -/
theorem scrapes_side_by_side (o : Options) (interval : Duration) (e : Exporter)
    (allowed : AllowList) (errands : List Errand) (picks : List (Nat × Nat)) (c : Crew)
    (hc : c = (Crew.dispatched o interval e allowed errands).run picks)
    (hnodes : (errands.map Errand.node).Nodup)
    (hapart : Series.Apart (Known o interval e allowed errands)) :
    (∃ more, (c.run more).isDone = true) ∧
      (c.isDone = true →
        (∀ order : List Errand, order.Perm errands → ∀ s,
          (s ∈ c.store.index ↔ s ∈ (Errand.finishAll o interval e allowed order).store.index) ∧
            c.store.get? s = (Errand.finishAll o interval e allowed order).store.get? s) ∧
          c.strands.map (·.outcome interval) =
            errands.map fun a => Exporter.scrapeOutcome interval a.answer allowed a.elapsed) ∧
      ∀ (pick : Nat × Nat) (a : Strand), c.strands[pick.1]? = some a →
        ∀ s, s.value? .nodeName ≠ some a.errand.node →
          (c.act pick).store.get? s = c.store.get? s := by
  have hlive : ∀ s ∈ e.store.index, Known o interval e allowed errands s := fun s hs => Or.inl hs
  have hkind : ∀ a ∈ errands, ∀ stroke ∈ a.strokes o interval e allowed, ∀ s ∈ stroke.series,
      Known o interval e allowed errands s :=
    fun a ha stroke hstroke s hs => Or.inr ⟨a, ha, stroke, hstroke, hs⟩
  -- All that is asked for follows from what the strokes conserve.
  have hsound : c.Sound (Known o interval e allowed errands) o interval e allowed errands := by
    rw [hc]
    exact (Crew.sound_dispatched hlive hkind).run hapart hnodes picks
  refine ⟨c.exists_run_isDone, fun hdone => ⟨fun order hperm s => ?_, ?_⟩, ?_⟩
  · -- One after the other the scrapes show what was due as well.
    have horder : EndsAs (Known o interval e allowed errands) o interval e allowed errands
        (Errand.finishAll o interval e allowed order).store :=
      (Errand.endsAs_finishAll hapart o interval allowed order e
        ((hperm.map Errand.node).nodup_iff.mpr hnodes) hlive
        fun a ha => hkind a (hperm.mem_iff.mp ha)).perm hperm
    have hget := (hsound.endsAs hdone).get?_eq horder s
    refine ⟨?_, hget⟩
    rw [← not_iff_not, ← Store.get?_eq_none_iff, ← Store.get?_eq_none_iff, hget]
  · exact hsound.outcome_eq hdone
  · exact fun pick a hpick s => hsound.get?_act_of_foreign hapart pick a hpick s

/-- An exporter that shows a series of the first of two nodes. -/
def oneShown : Exporter :=
  { Exporter.initial .empty with store := Store.empty.set (pollingRate "first") 3.0 }

/-- The first node does not answer. The second has no pods. -/
def silentAndIdle : List Errand :=
  [{ node := "first", answer := none, elapsed := 0 },
    { node := "second", answer := some [0x7B, 0x7D], elapsed := 0 }]

/-- The scrape of a node that has no pods makes one write. -/
theorem strokes_idle (e : Exporter) (node : String) (elapsed : Nat) :
    ({ node, answer := some [0x7B, 0x7D], elapsed } : Errand).strokes .standard (.ofSeconds 15) e
        none =
      [.write ⟨pollingRate node, Float.ofInt (remainingTime (.ofSeconds 15) elapsed)⟩] :=
  Errand.strokes_of_brings .standard (.ofSeconds 15) e none _ ⟨"", []⟩
    ⟨[0x7B, 0x7D], rfl, parse?_noPods⟩

theorem dispatched_silentAndIdle :
    Crew.dispatched .standard (.ofSeconds 15) oneShown none silentAndIdle =
      { store := oneShown.store
        strands :=
          [⟨silentAndIdle[0], Family.all.map .find, 0⟩,
            ⟨silentAndIdle[1], [.write ⟨pollingRate "second", Float.ofInt
              (remainingTime (.ofSeconds 15) 0)⟩], 0⟩] } := by
  rw [← strokes_idle oneShown "second" 0]
  rfl

/-- Of all series only the rates of the two nodes are live or written. -/
theorem known_silentAndIdle (s : Series)
    (h : Known .standard (.ofSeconds 15) oneShown none silentAndIdle s) :
    s = pollingRate "first" ∨ s = pollingRate "second" := by
  rcases h with hlive | ⟨a, ha, stroke, hstroke, hs⟩
  · exact Or.inl (List.mem_singleton.mp hlive)
  · rcases List.mem_cons.mp ha with rfl | ha
    · rcases List.mem_map.mp hstroke with ⟨f, -, rfl⟩
      exact absurd hs List.not_mem_nil
    · obtain rfl : a = ⟨"second", some [0x7B, 0x7D], 0⟩ := List.mem_singleton.mp ha
      rw [strokes_idle] at hstroke
      rw [List.mem_singleton.mp hstroke] at hs
      exact Or.inr (List.mem_singleton.mp hs)

/-- The second node's scrape makes its stroke while the series of the first one
    are being deleted. -/
def between : List (Nat × Nat) :=
  (0, 0) :: (1, 0) :: List.replicate 22 (0, 0)

/-- What is shown of the second node is what the scrapes leave in either order. -/
theorem between_ends_as_in_order :
    ((Crew.dispatched .standard (.ofSeconds 15) oneShown none silentAndIdle).run between).store.get?
        (pollingRate "second") =
      (Errand.finishAll .standard (.ofSeconds 15) oneShown none silentAndIdle.reverse).store.get?
        (pollingRate "second") := by
  have hapart : Series.Apart (Known .standard (.ofSeconds 15) oneShown none silentAndIdle) := by
    intro s t hs ht _ hkey
    have hne : (pollingRate "first").key ≠ (pollingRate "second").key := by decide
    rcases known_silentAndIdle s hs with rfl | rfl <;>
      rcases known_silentAndIdle t ht with rfl | rfl
    · rfl
    · exact absurd hkey hne
    · exact absurd hkey.symm hne
    · rfl
  have hdone : ((Crew.dispatched .standard (.ofSeconds 15) oneShown none silentAndIdle).run
      between).isDone = true := by
    rw [dispatched_silentAndIdle]
    decide
  exact (((scrapes_side_by_side .standard (.ofSeconds 15) oneShown none silentAndIdle between _
    rfl (by decide) hapart).2.1 hdone).1 silentAndIdle.reverse (List.reverse_perm _) _).2

/-- Two nodes without pods whose names have one hash. The second takes its time
    to answer. -/
def twinErrands : List Errand :=
  [{ node := Series.twin, answer := some [0x7B, 0x7D], elapsed := 0 },
    { node := Series.otherTwin, answer := some [0x7B, 0x7D], elapsed := 100 }]

/-- Their scrapes, each before its only stroke. -/
def twinCrew : Crew :=
  { store := .empty
    strands :=
      [⟨twinErrands[0], [.write ⟨pollingRate Series.twin, Float.ofInt
          (remainingTime (.ofSeconds 15) 0)⟩], 0⟩,
        ⟨twinErrands[1], [.write ⟨pollingRate Series.otherTwin, Float.ofInt
          (remainingTime (.ofSeconds 15) 100)⟩], 0⟩] }

theorem dispatched_twinErrands :
    Crew.dispatched .standard (.ofSeconds 15) (.initial .empty) none twinErrands = twinCrew := by
  rw [twinCrew, ← strokes_idle (.initial .empty) Series.twin 0,
    ← strokes_idle (.initial .empty) Series.otherTwin 100]
  rfl

/-- Of all series only the rates of the two nodes are live or written, and they
    join to different texts. -/
theorem eq_of_known_twinErrands (s t : Series)
    (hs : Known .standard (.ofSeconds 15) (.initial .empty) none twinErrands s)
    (ht : Known .standard (.ofSeconds 15) (.initial .empty) none twinErrands t)
    (hbytes : s.bytes = t.bytes) : s = t := by
  have hrates : ∀ u, Known .standard (.ofSeconds 15) (.initial .empty) none twinErrands u →
      u = pollingRate Series.twin ∨ u = pollingRate Series.otherTwin := by
    rintro u (hlive | ⟨a, ha, stroke, hstroke, hu⟩)
    · exact absurd hlive List.not_mem_nil
    · simp only [twinErrands, List.mem_cons, List.not_mem_nil, or_false] at ha
      rcases ha with rfl | rfl <;> rw [strokes_idle] at hstroke <;>
        rw [List.mem_singleton.mp hstroke] at hu
      · exact Or.inl (List.mem_singleton.mp hu)
      · exact Or.inr (List.mem_singleton.mp hu)
  have hne := (Series.sharesGauge_twins .adjustedPollingRate rfl).2
  rcases hrates s hs with rfl | rfl <;> rcases hrates t ht with rfl | rfl
  · rfl
  · exact absurd hbytes hne
  · exact absurd hbytes.symm hne
  · rfl

/-- Texts that are apart do not make what is read independent of the order of
    strokes: of two nodes whose names have one hash, either shows what is left to
    the one that was scraped last. -/
theorem rates_depend_on_order :
    ¬ ∀ (o : Options) (interval : Duration) (e : Exporter) (allowed : AllowList)
      (errands : List Errand) (picks : List (Nat × Nat)),
      (errands.map Errand.node).Nodup →
      (∀ s t, Known o interval e allowed errands s → Known o interval e allowed errands t →
        s.family = t.family → s.bytes = t.bytes → s = t) →
      ((Crew.dispatched o interval e allowed errands).run picks).isDone = true →
      ∀ s, ((Crew.dispatched o interval e allowed errands).run picks).store.get? s =
        (Errand.finishAll o interval e allowed errands).store.get? s := by
  intro h
  have hread : ∀ picks, ((Crew.dispatched .standard (.ofSeconds 15) (.initial .empty) none
      twinErrands).run picks).isDone = true → _ := fun picks hdone =>
    h .standard (.ofSeconds 15) (.initial .empty) none twinErrands picks (by decide)
      (fun s t hs ht _ => eq_of_known_twinErrands s t hs ht) hdone (pollingRate Series.twin)
  rw [dispatched_twinErrands] at hread
  -- The first order ends with the second node, the other one with the first.
  have hsame := (hread [(0, 0), (1, 0)] (by decide)).trans (hread [(1, 0), (0, 0)] (by decide)).symm
  have hsecond : (twinCrew.run [(0, 0), (1, 0)]).store.get? (pollingRate Series.twin) =
      some (Float.ofInt 14900) := by rfl
  have hfirst : (twinCrew.run [(1, 0), (0, 0)]).store.get? (pollingRate Series.twin) =
      some (Float.ofInt 15000) := by rfl
  rw [hsecond, hfirst] at hsame
  exact absurd (Option.some.inj hsame) (by decide +kernel)

end StorageGauges
