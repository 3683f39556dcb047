import StorageGauges.Gauge.Family
import StorageGauges.Text.Fnv
import StorageGauges.Text.Utf8

/-!
# Series

A series is a family together with one text for each of its labels. That the
texts are as many as the labels is part of the type; `Series.of?` is the test
for texts that come from outside.

## Main definitions

* `Series`: A family and its label values.
* `Series.of?`: The series with given values, if they are as many as needed.
* `Series.value?`: The value of a label.
* `Series.bytes`: The label values written one after the other.
* `Series.key`: The hash of these.
* `Series.ofNode`, `Series.ofPod`, `Series.ofContainer`, `Series.ofVolume`:
  The series that scrapes write.

## Theorems

* `Series.value?_isSome_iff`: A series has a value for exactly the labels of
  its family.
-/

namespace StorageGauges

/-- A family with a value for each of its labels. -/
structure Series where
  family : Family
  values : List String
  length_values : values.length = family.labels.length
deriving DecidableEq, Repr

namespace Series

/-- The series with given label values, if they are as many as needed. -/
def of? (f : Family) (values : List String) : Option Series :=
  if h : values.length = f.labels.length then some ⟨f, values, h⟩ else none

/-- The value of a label, if the family has it. -/
def value? (s : Series) (l : Label) : Option String :=
  (s.family.labels.zip s.values).lookup l

/-- A label has a value. -/
def matchesLabel (s : Series) (l : Label) (text : String) : Bool :=
  s.value? l == some text

/-- The bytes of the label values, one value after the other and with nothing in
    between. -/
def bytes (s : Series) : List UInt8 :=
  s.values.flatMap Utf8.encode

/-- What the gauge of a series is found by: the hash of its label values. -/
def key (s : Series) : UInt64 :=
  Fnv.hash s.bytes

/-- A series of a node. -/
def ofNode (f : Family) (node : String) (h : f.labels = Family.nodeLabels := by rfl) : Series :=
  ⟨f, [node], by rw [h]; rfl⟩

/-- A series of a pod. -/
def ofPod (f : Family) (pod ns node : String) (h : f.labels = Family.podLabels := by rfl) :
    Series :=
  ⟨f, [pod, ns, node], by rw [h]; rfl⟩

/-- A series of a container. The source says what its percentage is of. -/
def ofContainer (pod ns node container source : String) : Series :=
  ⟨.containerLimitPercentage, [pod, ns, node, container, source], rfl⟩

/-- A series of a volume that is mounted into a container. -/
def ofVolume (f : Family) (pod ns node container volume path : String)
    (h : f.labels = Family.volumeLabels := by rfl) : Series :=
  ⟨f, [pod, ns, node, container, volume, path], by rw [h]; rfl⟩

theorem lookup_zip_isSome_iff (ls : List Label) (vs : List String)
    (h : vs.length = ls.length) (l : Label) :
    ((ls.zip vs).lookup l).isSome = true ↔ l ∈ ls := by
  induction ls generalizing vs with
  | nil => simp
  | cons m rest ih =>
      cases vs with
      | nil => simp at h
      | cons v tail =>
          have ih := ih tail (by simpa using h)
          by_cases hl : l = m
          · simp [hl]
          · have hb : (l == m) = false := by simp [hl]
            simp [List.lookup_cons, hb, hl, ih]

theorem value?_isSome_iff (s : Series) (l : Label) :
    (s.value? l).isSome = true ↔ l ∈ s.family.labels :=
  lookup_zip_isSome_iff s.family.labels s.values s.length_values l

end Series

end StorageGauges
