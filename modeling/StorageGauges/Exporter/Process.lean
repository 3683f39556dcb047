import StorageGauges.Exporter.Basic
import StorageGauges.Stats.Percentage
import StorageGauges.Stats.Summary

/-!
# Writing Gauges

A payload becomes a list of writes. Every pod in it that is not skipped
writes the gauges of its node and its own, and, when its profile is cached,
those of its containers and their volumes. All of them carry the name of the
node that was queried, whatever the payload says.

A pod is skipped when it says nothing at all, or when its namespace is not
among those that are monitored.

## Main definitions

* `Write`: A series and the value it gets.
* `PodSample.isSkipped`: A pod writes nothing.
* `nodeWrites`, `podWrites`, `containerWrites`, `volumeWrites`: What a pod
  writes.
* `Exporter.process`: A payload is written.
* `processed`: How many pods were written and how many skipped.
-/

namespace StorageGauges

/-- A series and the value it gets. -/
structure Write where
  series : Series
  value : Float
deriving Repr

/-- Makes a write. -/
def Store.apply (st : Store) (w : Write) : Store :=
  st.set w.series w.value

/-- Makes some writes in order. -/
def Store.applyAll (st : Store) (ws : List Write) : Store :=
  ws.foldl Store.apply st

/-- The namespaces that are monitored; all of them when there is no list. -/
abbrev AllowList := Option (List String)

/-- A namespace is monitored. -/
def AllowList.allows (allowed : AllowList) (ns : String) : Bool :=
  match allowed with
  | some names => names.contains ns
  | none => true

/-- A pod writes nothing. -/
def PodSample.isSkipped (allowed : AllowList) (s : PodSample) : Bool :=
  (s.ns.isEmpty && s.storage.isEmpty) || !allowed.allows s.ns

/-- A write that a feature turns on. -/
def whenOn (on : Bool) (series : Series) (x : Float) : List Write :=
  if on then [{ series, value := x }] else []

/-- A write of a figure that may be absent. -/
def whenPresent (on : Bool) (series : Series) (x : Option Float) : List Write :=
  match x with
  | some x => whenOn on series x
  | none => []

/-- What a pod writes about its node. -/
def nodeWrites (fs : Features) (node : String) (s : PodSample) : List Write :=
  whenOn fs.nodeAvailable (.ofNode .nodeAvailable node) s.storage.available
    ++ whenOn fs.nodeCapacity (.ofNode .nodeCapacity node) s.storage.capacity
    ++ whenOn fs.nodePercentage (.ofNode .nodePercentage node)
        (Percentage.node s.storage.available s.storage.capacity)

/-- What a pod writes about itself. -/
def podWrites (fs : Features) (node : String) (s : PodSample) : List Write :=
  whenOn fs.podUsage (.ofPod .podUsage s.name s.ns node) s.storage.used
    ++ whenPresent fs.inodes (.ofPod .inodes s.name s.ns node) s.storage.inodes
    ++ whenPresent fs.inodes (.ofPod .inodesFree s.name s.ns node) s.storage.inodesFree
    ++ whenPresent fs.inodes (.ofPod .inodesUsed s.name s.ns node) s.storage.inodesUsed

/-- A size limit that a volume can be measured against. -/
def positive (x : Option Float) : Option Float :=
  x.filter fun l => 0.0 < l

/-- What a pod writes about a volume in a container. A volume that the payload
    lacks writes nothing. -/
def volumeWrites (fs : Features) (node : String) (s : PodSample) (container : String)
    (m : Mount) : List Write :=
  match s.volumes.find? fun v => v.name = m.volume with
  | some v =>
    whenOn fs.containerVolumeUsage
        (.ofVolume .containerVolumeUsage s.name s.ns node container v.name m.path) v.used
      ++ whenPresent fs.containerVolumeLimitPercentage
          (.ofVolume .containerVolumeLimitPercentage s.name s.ns node container v.name m.path)
          ((positive m.sizeLimit).map (Percentage.volume v.used))
  | none => []

/-- What a pod writes about a container. -/
def containerWrites (fs : Features) (node : String) (s : PodSample) (c : ContainerProfile) :
    List Write :=
  let (pct, source) :=
    Percentage.container s.storage.used c.limit s.storage.available s.storage.capacity
  whenOn fs.containerLimitPercentage (.ofContainer s.name s.ns node c.name source.label) pct
    ++ c.mounts.flatMap (volumeWrites fs node s c.name)

/-- What a pod writes about its containers, when its profile is cached. -/
def profileWrites (fs : Features) (node : String) (s : PodSample)
    (profile : Option PodProfile) : List Write :=
  match profile with
  | some p => p.containers.flatMap (containerWrites fs node s)
  | none => []

/-- The profile by which a pod is written. -/
def Exporter.profileOf (o : Options) (e : Exporter) (pod : String) : Option PodProfile :=
  if o.features.needsPodProfiles && o.caching then e.profiles.find? pod else none

/-- What a pod writes. -/
def sampleWrites (o : Options) (e : Exporter) (node : String) (s : PodSample) : List Write :=
  nodeWrites o.features node s ++ podWrites o.features node s
    ++ profileWrites o.features node s (e.profileOf o s.name)

/-- What a payload writes. -/
def summaryWrites (o : Options) (e : Exporter) (node : String) (summary : Summary)
    (allowed : AllowList) : List Write :=
  (summary.pods.filter fun s => !s.isSkipped allowed).flatMap (sampleWrites o e node)

/-- How many pods of a payload were written and how many skipped. -/
structure Processed where
  written : Nat
  skipped : Nat
deriving DecidableEq, Repr, Inhabited

/-- How many pods of a payload are written and how many skipped. -/
def processed (summary : Summary) (allowed : AllowList) : Processed :=
  { written := summary.pods.countP fun s => !s.isSkipped allowed
    skipped := summary.pods.countP fun s => s.isSkipped allowed }

/-- A payload is written. -/
def Exporter.process (o : Options) (e : Exporter) (node : String) (summary : Summary)
    (allowed : AllowList) : Exporter :=
  { e with store := e.store.applyAll (summaryWrites o e node summary allowed) }

end StorageGauges
