import StorageGauges.Gauge.Series

/-!
# The Gauge Store

The exporter has to delete series by one label, and what exposes the gauges
can only be asked about whole series. So the store has two parts: the index
of the series that are live, and the gauges themselves.

The gauges of a family are found by a hash of their label values, into which
the values go one after the other. Two series of a family whose values have the
same hash therefore share one gauge. That is so if they join to the same text,
and it can be so if they do not, as there are only so many hashes. The labels
that a shared gauge shows are those of the series that came first, its value is
that of the last write, and when either of the two is deleted the gauge goes. A
series that is live but whose gauge went gets a new one, which is zero, when
somebody reads it.

## Main definitions

* `Gauge`: A value, with the series it was created for.
* `Store`: The index and the gauges.
* `Store.set`: Writes a series.
* `Store.get?`: Reads a series.
* `Store.touch`: What reading a series leaves behind.
* `Store.remove`: Deletes the series that a test picks out.
* `Store.evictNode`, `Store.evictPod`: Deletes what belongs to a node or pod.
* `Store.size`: How many series are live.

## Theorems

* `Store.mem_index_set`: Writing adds the series and no other.
* `Store.mem_index_remove`: Deleting leaves what the test does not pick out.
* `Store.size_remove`: What was counted is what went.
-/

namespace StorageGauges

/-- A value, with the series it was created for. -/
structure Gauge where
  series : Series
  value : Float
deriving Repr

/-- Two series share a gauge: they are of one family and have the same key. -/
def Series.sharesGauge (s t : Series) : Bool :=
  decide (s.family = t.family) && decide (s.key = t.key)

namespace Gauge

/-- The gauge is the one of a series. -/
def serves (g : Gauge) (s : Series) : Bool :=
  g.series.sharesGauge s

end Gauge

/-- The live series and their gauges. -/
structure Store where
  index : List Series
  gauges : List Gauge
deriving Repr

namespace Store

/-- Nothing is live. -/
def empty : Store :=
  { index := [], gauges := [] }

instance : Inhabited Store := ⟨empty⟩

/-- The series is live. -/
def tracks (st : Store) (s : Series) : Bool :=
  st.index.contains s

/-- The gauge of a series. -/
def gauge? (st : Store) (s : Series) : Option Gauge :=
  st.gauges.find? fun g => g.serves s

/-- Adds a series to the index. -/
def track (st : Store) (s : Series) : List Series :=
  if st.tracks s then st.index else st.index ++ [s]

/-- Gives the gauge of a series a value, and creates it if there is none. -/
def assign (gauges : List Gauge) (s : Series) (x : Float) : List Gauge :=
  if gauges.any fun g => g.serves s then
    gauges.map fun g => if g.serves s then { g with value := x } else g
  else gauges ++ [{ series := s, value := x }]

/-- Writes a series. -/
def set (st : Store) (s : Series) (x : Float) : Store :=
  { index := st.track s, gauges := assign st.gauges s x }

/-- The value of a series, if it is live. -/
def get? (st : Store) (s : Series) : Option Float :=
  if st.tracks s then
    match st.gauge? s with
    | some g => some g.value
    | none => some 0.0
  else none

/-- What reading a series leaves behind: a live series has a gauge from then
    on. -/
def touch (st : Store) (s : Series) : Store :=
  if st.tracks s && (st.gauge? s).isNone then
    { st with gauges := st.gauges ++ [{ series := s, value := 0.0 }] }
  else st

/-- Deletes the live series that a test picks out, and their gauges. -/
def remove (st : Store) (test : Series → Bool) : Store :=
  let gone := st.index.filter test
  { index := st.index.filter fun s => !test s
    gauges := st.gauges.filter fun g => !gone.any g.serves }

/-- How many series are live. -/
def size (st : Store) : Nat :=
  st.index.length

/-- How many series of a family are live. -/
def familySize (st : Store) (f : Family) : Nat :=
  st.index.countP fun s => s.family = f

/-- A step on the store, with the number of series it deleted. -/
structure Eviction where
  removed : Nat
  store : Store
deriving Repr

/-- Deletes what a test picks out, and counts it. -/
def evict (st : Store) (test : Series → Bool) : Eviction :=
  { removed := st.index.countP test, store := st.remove test }

/-- Deletes the series of a family that have a value for a label. -/
def deleteMatching (st : Store) (f : Family) (l : Label) (text : String) : Eviction :=
  st.evict fun s => s.family = f && s.matchesLabel l text

/-- Deletes the series of all families that have a value for a label. -/
def evictLabel (st : Store) (l : Label) (text : String) : Eviction :=
  st.evict fun s => s.matchesLabel l text

/-- Deletes what belongs to a node. -/
def evictNode (st : Store) (node : String) : Eviction :=
  st.evictLabel .nodeName node

/-- Deletes what belongs to a container of some name, after what has been
    deleted before. -/
def Eviction.container (e : Eviction) (name : String) : Eviction :=
  let next := e.store.evictLabel .container name
  { removed := e.removed + next.removed, store := next.store }

/-- Deletes what belongs to a pod, and then what belongs to containers of the
    given names in any pod. -/
def evictPod (st : Store) (pod : String) (containers : List String) : Eviction :=
  containers.foldl Eviction.container (st.evictLabel .podName pod)

theorem mem_index_set (st : Store) (s t : Series) (x : Float) :
    t ∈ (st.set s x).index ↔ t = s ∨ t ∈ st.index := by
  unfold set track tracks
  by_cases h : st.index.contains s = true
  · simp only [h, if_true]
    constructor
    · exact Or.inr
    · rintro (rfl | ht)
      · simpa using h
      · exact ht
  · simp only [h]
    simp [or_comm]

theorem mem_index_remove (st : Store) (test : Series → Bool) (s : Series) :
    s ∈ (st.remove test).index ↔ s ∈ st.index ∧ test s = false := by
  simp [remove]

theorem size_remove (st : Store) (test : Series → Bool) :
    (st.remove test).size + st.index.countP test = st.size := by
  simp only [remove, size]
  have h := List.length_eq_countP_add_countP test (l := st.index)
  have hfilter : (st.index.filter fun s => !test s).length
      = st.index.countP fun s => !test s := List.countP_eq_length_filter.symm
  rw [hfilter, h]
  simp only [Bool.not_eq_true, Bool.decide_eq_false]
  omega

end Store

end StorageGauges
