import StorageGauges.Json.Reader
import StorageGauges.Json.Record

/-!
# Stats Summaries

The payload of a scrape: what a node says about itself and its pods, reduced
to the figures that are exposed. Every field may be missing and has a default
then. The three inode figures may also be `null`; any other field that is
there must hold a value of its type, and one field that does not makes the
payload unreadable as a whole.

## Main definitions

* `StorageFigures`: What a pod uses.
* `VolumeFigures`: What one of its volumes uses.
* `PodSample`: A pod in a payload.
* `Summary`: A payload.
* `Summary.ofJson?`: The summary that a document holds.
* `Summary.parse?`: The summary that bytes hold.
-/

namespace StorageGauges

/-- What a pod uses of its node's storage. -/
structure StorageFigures where
  available : Float
  capacity : Float
  used : Float
  inodes : Option Float
  inodesFree : Option Float
  inodesUsed : Option Float
deriving Repr, Inhabited

/-- What a volume uses. -/
structure VolumeFigures where
  name : String
  available : Float
  capacity : Float
  used : Float
deriving Repr, Inhabited

/-- A pod in a payload. -/
structure PodSample where
  name : String
  ns : String
  storage : StorageFigures
  volumes : List VolumeFigures
deriving Repr, Inhabited

/-- A payload. The node's name in it is not the one that series are labelled
    with. -/
structure Summary where
  nodeName : String
  pods : List PodSample
deriving Repr, Inhabited

namespace StorageFigures

/-- Nothing is known. -/
def zero : StorageFigures :=
  { available := 0.0, capacity := 0.0, used := 0.0, inodes := none, inodesFree := none,
    inodesUsed := none }

/-- A figure that is zero or absent. -/
def isAbsent (x : Option Float) : Bool :=
  x.getD 0.0 == 0.0

/-- Every figure is zero or absent. -/
def isEmpty (f : StorageFigures) : Bool :=
  f.available == 0.0 && f.capacity == 0.0 && f.used == 0.0 && isAbsent f.inodes
    && isAbsent f.inodesFree && isAbsent f.inodesUsed

/-- The figures in a document. -/
def ofJson? (v : Json) : Option StorageFigures := do
  let fs ← Json.fields?
    ["availableBytes", "capacityBytes", "usedBytes", "inodes", "inodesFree", "inodesUsed"] v
  some
    { available := ← fs.getOr "availableBytes" Json.float? 0.0
      capacity := ← fs.getOr "capacityBytes" Json.float? 0.0
      used := ← fs.getOr "usedBytes" Json.float? 0.0
      inodes := ← fs.optional? "inodes" Json.float?
      inodesFree := ← fs.optional? "inodesFree" Json.float?
      inodesUsed := ← fs.optional? "inodesUsed" Json.float? }

end StorageFigures

namespace VolumeFigures

/-- The figures of a volume in a document. -/
def ofJson? (v : Json) : Option VolumeFigures := do
  let fs ← Json.fields? ["name", "availableBytes", "capacityBytes", "usedBytes"] v
  some
    { name := ← fs.getOr "name" Json.text? ""
      available := ← fs.getOr "availableBytes" Json.float? 0.0
      capacity := ← fs.getOr "capacityBytes" Json.float? 0.0
      used := ← fs.getOr "usedBytes" Json.float? 0.0 }

end VolumeFigures

namespace PodSample

/-- The name and the namespace of a pod in a document. -/
def reference? (v : Json) : Option (String × String) := do
  let fs ← Json.fields? ["name", "namespace"] v
  some (← fs.getOr "name" Json.text? "", ← fs.getOr "namespace" Json.text? "")

/-- A pod in a document. -/
def ofJson? (v : Json) : Option PodSample := do
  let fs ← Json.fields? ["podRef", "ephemeral-storage", "volume"] v
  let (name, ns) ← fs.getOr "podRef" reference? ("", "")
  some
    { name, ns
      storage := ← fs.getOr "ephemeral-storage" StorageFigures.ofJson? .zero
      volumes := ← fs.getOr "volume" (Json.list? VolumeFigures.ofJson?) [] }

end PodSample

namespace Summary

/-- The name of a node in a document. -/
def nodeName? (v : Json) : Option String := do
  let fs ← Json.fields? ["nodeName"] v
  fs.getOr "nodeName" Json.text? ""

/-- The summary that a document holds. -/
def ofJson? (v : Json) : Option Summary := do
  let fs ← Json.fields? ["node", "pods"] v
  some
    { nodeName := ← fs.getOr "node" nodeName? ""
      pods := ← fs.getOr "pods" (Json.list? PodSample.ofJson?) [] }

/-- The summary that bytes hold. -/
def parse? (bytes : List UInt8) : Option Summary :=
  (Json.read? bytes).bind ofJson?

/-- What is said about a payload that is no summary. -/
def parseFailure : String := "Failed to parse stats summary"

end Summary

end StorageGauges
