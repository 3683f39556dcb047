import Mathlib.Algebra.BigOperators.Group.List.Basic
import Mathlib.Algebra.GroupWithZero.Nat
import StorageGauges.Proofs.Gauge.Reading

/-!
# Evictions

When a node goes, its series go; when a pod goes, what carries its name goes,
and then what carries the name of one of its containers. The families are
looked through one after the other, each label by itself, and every deletion
says how many series it took. A series that could be found under several labels
is found under the first of them and is gone before the next is looked for.

So an eviction in many steps is one deletion, of what any of its steps picks
out (`Store.foldl_andThen`), and everything that can be said of evictions is
said of single deletions: what they leave, that they count every series once,
that they leave nothing for the second time, and that their order does not
matter. A series that stays is read as before, unless its gauge went with a
series that shared it.

## Main definitions

* `Store.Eviction.andThen`: One more deletion.
* `Departure`: A node or a pod that goes.
* `Departure.marks`: The labels by which its series are found.
* `Departure.Takes`: A series goes with it.
* `Store.depart`: What a departure deletes.
* `Store.searchFamilies`: Families are looked through one after the other.

## Theorems

* `Store.evict_andThen`: Two deletions are one.
* `Store.evictPod_eq`: The eviction of a pod is one deletion.
* `Store.foldl_searchFamilies`: So is a search through the families.
* `Store.evict_again`: A deletion leaves nothing for the second time.
* `Store.gauge?_remove`: The gauge of a series after a deletion.
* `Store.sum_familySize`: The series of all families are all series.
* `depart_settles`: What an eviction does.
-/

namespace StorageGauges

namespace Store

/-- Deleting nothing leaves the store as it is. -/
theorem remove_none (st : Store) : (st.remove fun _ => false) = st := by
  have hgone : (st.index.filter fun _ => false) = [] :=
    List.filter_eq_nil_iff.mpr fun _ _ => Bool.false_ne_true
  have hindex : (st.index.filter fun _ => !false) = st.index :=
    List.filter_eq_self.mpr fun _ _ => rfl
  have hgauges : (st.gauges.filter fun _ => !false) = st.gauges :=
    List.filter_eq_self.mpr fun _ _ => rfl
  rw [remove, hgone, hindex]
  simp only [List.any_nil, hgauges]

/-- A deletion of nothing is where a search through the families begins. -/
theorem evict_none (st : Store) : (st.evict fun _ => false) = { removed := 0, store := st } := by
  rw [evict, remove_none, List.countP_false]
  rfl

/-- One more deletion, which is counted with those before it. -/
def Eviction.andThen (gone : Eviction) (test : Series → Bool) : Eviction :=
  let next := gone.store.evict test
  { removed := gone.removed + next.removed, store := next.store }

/-- Two deletions are one, of what either picks out. What both pick out is
    counted by the first. -/
theorem evict_andThen (st : Store) (test other : Series → Bool) :
    (st.evict test).andThen other = st.evict fun s => test s || other s := by
  have hstore : ((st.evict test).andThen other).store =
      (st.evict fun s => test s || other s).store := remove_remove st test other
  -- The counts are what is missing, and the same is missing of both.
  have hfirst := st.size_remove test
  have hsecond := (st.remove test).size_remove other
  have hboth := st.size_remove fun s => test s || other s
  rw [remove_remove] at hsecond
  have hcount : ((st.evict test).andThen other).removed =
      (st.evict fun s => test s || other s).removed := by
    change st.index.countP test + (st.remove test).index.countP other =
      st.index.countP fun s => test s || other s
    omega
  cases h : (st.evict test).andThen other
  rw [h] at hstore hcount
  exact congrArg₂ Eviction.mk hcount hstore

/-- Deletions one after the other are one. -/
theorem foldl_andThen (st : Store) (tests : List (Series → Bool)) (test : Series → Bool) :
    tests.foldl Eviction.andThen (st.evict test) =
      st.evict fun s => test s || tests.any fun other => other s := by
  induction tests generalizing test with
  | nil => simp only [List.foldl_nil, List.any_nil, Bool.or_false]
  | cons other rest ih =>
      -- The deletions so far are one, and so are they with the next.
      rw [List.foldl_cons, evict_andThen, ih]
      simp only [List.any_cons, Bool.or_assoc]

/-- The eviction of a pod is one deletion of what has its name or the name of
    one of its containers. -/
theorem evictPod_eq (st : Store) (pod : String) (containers : List String) :
    st.evictPod pod containers = st.evict fun s =>
      s.matchesLabel .podName pod || containers.any (s.matchesLabel .container) := by
  have hturns : st.evictPod pod containers =
      (containers.map fun name (s : Series) => s.matchesLabel .container name).foldl
        Eviction.andThen (st.evict fun s => s.matchesLabel .podName pod) := by
    rw [List.foldl_map]
    rfl
  rw [hturns, foldl_andThen]
  simp only [List.any_map, Function.comp_def]

/-- Deletes the series that have a value for a label, in one family after the
    other. Families without the label are passed over. -/
def searchFamilies (gone : Eviction) (mark : Label × String) : Eviction :=
  (Family.all.filter fun f => f.hasLabel mark.1).foldl
    (fun gone f =>
      let next := gone.store.deleteMatching f mark.1 mark.2
      { removed := gone.removed + next.removed, store := next.store }) gone

/-- Whatever has a value for a label is of one of the families with the label,
    so looking through these finds it. -/
theorem searchFamilies_evict (st : Store) (test : Series → Bool) (mark : Label × String) :
    searchFamilies (st.evict test) mark =
      st.evict fun s => test s || s.matchesLabel mark.1 mark.2 := by
  have hturns : searchFamilies (st.evict test) mark =
      ((Family.all.filter fun f => f.hasLabel mark.1).map fun f (s : Series) =>
        s.family = f && s.matchesLabel mark.1 mark.2).foldl Eviction.andThen (st.evict test) := by
    rw [List.foldl_map]
    rfl
  rw [hturns, foldl_andThen]
  congr 1
  funext s
  congr 1
  rw [Bool.eq_iff_iff, List.any_eq_true]
  simp only [List.mem_map, List.mem_filter, exists_exists_and_eq_and, Bool.and_eq_true,
    decide_eq_true_iff]
  constructor
  · -- In one direction the family does not matter, in the other it is that of the series.
    rintro ⟨f, -, -, hmatches⟩
    exact hmatches
  · intro hmatches
    have hvalue := (Series.matchesLabel_eq_true_iff s mark.1 mark.2).mp hmatches
    have hlabel : mark.1 ∈ s.family.labels :=
      (s.value?_isSome_iff mark.1).mp (by rw [hvalue, Option.isSome_some])
    exact ⟨s.family, ⟨s.family.mem_all, List.contains_iff_mem.mpr hlabel⟩, rfl, hmatches⟩

/-- A search for several labels, one after the other, is one deletion. -/
theorem foldl_searchFamilies (st : Store) (marks : List (Label × String)) :
    marks.foldl searchFamilies { removed := 0, store := st } =
      st.evict fun s => marks.any fun mark => s.matchesLabel mark.1 mark.2 := by
  -- A search that begins after a deletion, so that the induction has something to add to.
  have hall : ∀ test : Series → Bool, marks.foldl searchFamilies (st.evict test) =
      st.evict fun s => test s || marks.any fun mark => s.matchesLabel mark.1 mark.2 := by
    induction marks with
    | nil =>
        intro test
        simp only [List.foldl_nil, List.any_nil, Bool.or_false]
    | cons mark rest ih =>
        intro test
        rw [List.foldl_cons, searchFamilies_evict, ih]
        simp only [List.any_cons, Bool.or_assoc]
  have hfirst := hall fun _ => false
  rw [evict_none] at hfirst
  rw [hfirst]
  simp only [Bool.false_or]

/-- What is gone cannot be deleted again. -/
theorem evict_again (st : Store) (test : Series → Bool) :
    (st.evict test).store.evict test = { removed := 0, store := (st.evict test).store } := by
  have hself : (fun s => test s || test s) = test := funext fun s => Bool.or_self (test s)
  have hstore : ((st.evict test).store.evict test).store = (st.evict test).store := by
    change (st.remove test).remove test = st.remove test
    rw [remove_remove, hself]
  have hcount : ((st.evict test).store.evict test).removed = 0 := by
    have hsize := (st.remove test).size_remove test
    rw [remove_remove, hself] at hsize
    change (st.remove test).index.countP test = 0
    omega
  cases h : (st.evict test).store.evict test
  rw [h] at hstore hcount
  exact congrArg₂ Eviction.mk hcount hstore

/-- The gauge of a series goes exactly with what shares it. -/
theorem gauge?_remove (st : Store) (test : Series → Bool) (s : Series) :
    (st.remove test).gauge? s =
      if ∃ t ∈ st.index, test t = true ∧ t.sharesGauge s = true then none else st.gauge? s := by
  split
  · rename_i hshared
    rcases hshared with ⟨t, ht, htest, hshares⟩
    refine (gauge?_eq_none_iff _ s).mpr fun g hg => ?_
    rw [← Bool.not_eq_true]
    intro hserves
    -- A gauge of `s` is one of `t` as well, and those went with `t`.
    have hleft := ((mem_gauges_remove st test g).mp hg).2 t ht htest
    have hback : s.sharesGauge t = true := Series.sharesGauge_comm t s ▸ hshares
    exact Bool.eq_false_iff.mp hleft (Series.sharesGauge_trans g.series s t hserves hback)
  · -- Nothing that goes shares a gauge with the series.
    rename_i hshared
    refine gauge?_remove_of_apart st test s fun t ht htest => ?_
    rw [← Bool.not_eq_true]
    exact fun hshares => hshared ⟨t, ht, htest, hshares⟩

/-- The series of all families together are all series. -/
theorem sum_familySize (st : Store) : (Family.all.map st.familySize).sum = st.size := by
  rcases st with ⟨index, gauges⟩
  induction index with
  | nil => rfl
  | cons s rest ih =>
      have hone : (Family.all.map fun f => if s.family = f then 1 else 0).sum = 1 := by
        cases s.family <;> rfl
      have hsplit : (Family.all.map fun f => familySize ⟨s :: rest, gauges⟩ f) =
          Family.all.map fun f => familySize ⟨rest, gauges⟩ f + if s.family = f then 1 else 0 := by
        refine List.map_congr_left fun f _ => ?_
        unfold familySize
        rw [List.countP_cons]
        simp only [decide_eq_true_iff]
      have hsize : size ⟨s :: rest, gauges⟩ = size ⟨rest, gauges⟩ + 1 := rfl
      -- A series counts in the one family it is of.
      rw [hsplit, List.sum_map_add, hone, ih, hsize]

end Store

/-- A node that goes, or a pod with containers of some names. -/
inductive Departure
  | node (name : String)
  | pod (name : String) (containers : List String)

namespace Departure

/-- The labels by which the series of what goes are found, in the order in which
    they are looked for. -/
def marks : Departure → List (Label × String)
  | node name => [(.nodeName, name)]
  | pod name containers => (.podName, name) :: containers.map fun c => (.container, c)

/-- A series goes with a node if it has the name of the node, and with a pod if
    it has the name of the pod or of one of the containers. -/
def Takes (s : Series) : Departure → Prop
  | node name => s.value? .nodeName = some name
  | pod name containers =>
    s.value? .podName = some name ∨ ∃ c ∈ containers, s.value? .container = some c

/-- A series is found by one of the labels. -/
def finds (d : Departure) (s : Series) : Bool :=
  d.marks.any fun mark => s.matchesLabel mark.1 mark.2

/-- The search by labels finds what goes, no more and no less. -/
theorem finds_iff (d : Departure) (s : Series) : d.finds s = true ↔ d.Takes s := by
  rw [finds, List.any_eq_true]
  simp only [Series.matchesLabel_eq_true_iff]
  cases d <;> simp [marks, Takes]

instance (d : Departure) (s : Series) : Decidable (d.Takes s) :=
  decidable_of_iff _ (d.finds_iff s)

end Departure

/-- Deletes what goes with a node or a pod. -/
def Store.depart (st : Store) : Departure → Store.Eviction
  | .node name => st.evictNode name
  | .pod name containers => st.evictPod name containers

/-- An eviction that searches label by label is one deletion of all that any of the
    labels finds. All that is known of one deletion then applies. -/
theorem Store.depart_eq (st : Store) (d : Departure) : st.depart d = st.evict d.finds := by
  cases d with
  | node name =>
      have hfinds : (Departure.node name).finds = fun s => s.matchesLabel .nodeName name := by
        funext s
        simp only [Departure.finds, Departure.marks, List.any_cons, List.any_nil, Bool.or_false]
      rw [hfinds]
      rfl
  | pod name containers =>
      have hfinds : (Departure.pod name containers).finds = fun s =>
          s.matchesLabel .podName name || containers.any (s.matchesLabel .container) := by
        funext s
        simp only [Departure.finds, Departure.marks, List.any_cons, List.any_map,
          Function.comp_def]
      rw [hfinds]
      exact st.evictPod_eq name containers

/-- An eviction looks for its labels one after the other, in one family after
    the other, and takes all that has one of them. It counts every series once,
    and a second one finds nothing. Two evictions leave the same and take as
    many together in either order. A series that stays has its value, unless a
    series of its family that goes has the same key. -/
theorem depart_settles (st : Store) (d other : Departure) :
    st.depart d = d.marks.foldl Store.searchFamilies { removed := 0, store := st } ∧
    (∀ s, s ∈ (st.depart d).store.index ↔ s ∈ st.index ∧ ¬ d.Takes s) ∧
    (st.depart d).removed + (Family.all.map (st.depart d).store.familySize).sum =
      (Family.all.map st.familySize).sum ∧
    (st.depart d).store.depart d = { removed := 0, store := (st.depart d).store } ∧
    (((st.depart d).store.depart other).store = ((st.depart other).store.depart d).store ∧
      (st.depart d).removed + ((st.depart d).store.depart other).removed =
        (st.depart other).removed + ((st.depart other).store.depart d).removed) ∧
    ∀ s ∈ (st.depart d).store.index,
      (∀ t ∈ st.index, d.Takes t → t.family = s.family → t.key ≠ s.key) →
        (st.depart d).store.get? s = st.get? s := by
  simp only [Store.depart_eq, Store.sum_familySize]
  refine ⟨(st.foldl_searchFamilies d.marks).symm, fun s => ?_, ?_, st.evict_again d.finds, ?_,
    fun s hs hapart => ?_⟩
  · rw [Store.mem_index_evict, ← d.finds_iff, Bool.not_eq_true]
  · rw [Nat.add_comm]
    exact st.size_remove d.finds
  · -- Both orders are one deletion, of what either eviction finds.
    have hsame : (st.evict d.finds).andThen other.finds =
        (st.evict other.finds).andThen d.finds := by
      simp only [Store.evict_andThen, Bool.or_comm]
    have hstore := congrArg Store.Eviction.store hsame
    have hremoved := congrArg Store.Eviction.removed hsame
    exact ⟨hstore, hremoved⟩
  · refine Store.get?_remove_of_apart st d.finds s fun t ht hfinds => ?_
    rw [← Bool.not_eq_true, Series.sharesGauge_iff]
    exact fun hshares => hapart t ht ((d.finds_iff t).mp hfinds) hshares.1 hshares.2

/-- The series of a pod with one container. -/
def webSeries : Store :=
  (Store.empty.set ⟨.podUsage, ["web", "blue", "node"], rfl⟩ 7.0).set
    (.ofContainer "web" "blue" "node" "app" "node") 50.0

/-- When another pod goes that has a container of the same name, the series of
    the container goes and the usage of the pod stays, with its value. -/
theorem depart_settles_namesake :
    (webSeries.depart (.pod "old" ["app", "app"])).store.index =
        [.ofPod .podUsage "web" "blue" "node"] ∧
      (webSeries.depart (.pod "old" ["app", "app"])).store.get?
        (.ofPod .podUsage "web" "blue" "node") = some 7.0 := by
  have hleft : (webSeries.depart (.pod "old" ["app", "app"])).store.index =
      [.ofPod .podUsage "web" "blue" "node"] := by decide
  -- What stays is of another family than what goes, so its key is of no importance.
  have hvalue := (depart_settles webSeries (.pod "old" ["app", "app"]) (.node "node")).2.2.2.2.2
    (.ofPod .podUsage "web" "blue" "node") (by rw [hleft]; exact List.mem_cons_self) (by decide)
  exact ⟨hleft, hvalue.trans rfl⟩

/-- Two nodes are shown whose names have one hash. -/
def twinsShown : Store :=
  (Store.empty.set Series.twinAvailable 1.0).set Series.otherTwinAvailable 1.0

/-- A series that stays can lose its value though nothing that goes joins to the
    text of its values: the gauge goes with the node whose name has the same
    hash. -/
theorem depart_takes_gauge :
    ¬ ∀ (st : Store) (d : Departure) (s : Series), s ∈ (st.depart d).store.index →
      (∀ t ∈ st.index, d.Takes t → t.family = s.family → t.bytes ≠ s.bytes) →
        (st.depart d).store.get? s = st.get? s := by
  intro h
  have hread := h twinsShown (.node Series.otherTwin) Series.twinAvailable
    (by decide +kernel) (by decide +kernel)
  have hbefore : twinsShown.get? Series.twinAvailable = some 1.0 := by rfl
  have hafter : (twinsShown.depart (.node Series.otherTwin)).store.get? Series.twinAvailable =
      some 0.0 := by rfl
  -- Only the other node was evicted, and the number that is read is another.
  rw [hbefore, hafter] at hread
  exact absurd (Option.some.inj hread) (by decide)

end StorageGauges
