import StorageGauges.Gauge.Family

/-!
# Features

Which gauges are written is a setting. A feature turns on one family, or the
three inode families together. Some features need more than the payload of a
node: the container families need the limits and volumes that the pods'
specifications declare, so the pods have to be known before the first scrape.

## Main definitions

* `Feature`: What can be turned on.
* `Features`: What is turned on.
* `Features.needsPodProfiles`: Specifications have to be known.
* `Features.needsVolumeProfiles`: So have the volumes in them.
* `Features.tracksPods`: Some family belongs to pods.
* `Features.describe`: All settings as one text.
-/

namespace StorageGauges

/-- What can be turned on. -/
inductive Feature
  | podUsage
  | nodeAvailable
  | nodeCapacity
  | nodePercentage
  | containerLimitPercentage
  | containerVolumeLimitPercentage
  | containerVolumeUsage
  | inodes
  | adjustedPollingRate
deriving DecidableEq, Repr

namespace Feature

/-- Every feature. -/
def all : List Feature :=
  [podUsage, nodeAvailable, nodeCapacity, nodePercentage, containerLimitPercentage,
    containerVolumeLimitPercentage, containerVolumeUsage, inodes, adjustedPollingRate]

/-- The family whose short name is also the name of the feature. -/
def family : Feature → Family
  | podUsage => .podUsage
  | nodeAvailable => .nodeAvailable
  | nodeCapacity => .nodeCapacity
  | nodePercentage => .nodePercentage
  | containerLimitPercentage => .containerLimitPercentage
  | containerVolumeLimitPercentage => .containerVolumeLimitPercentage
  | containerVolumeUsage => .containerVolumeUsage
  | inodes => .inodes
  | adjustedPollingRate => .adjustedPollingRate

/-- The name of a feature. -/
def name (f : Feature) : String :=
  f.family.shortName

/-- The feature with a name. -/
def ofName? (s : String) : Option Feature :=
  all.find? fun f => f.name = s

end Feature

/-- What is turned on. -/
structure Features where
  podUsage : Bool
  nodeAvailable : Bool
  nodeCapacity : Bool
  nodePercentage : Bool
  containerLimitPercentage : Bool
  containerVolumeLimitPercentage : Bool
  containerVolumeUsage : Bool
  inodes : Bool
  adjustedPollingRate : Bool
deriving DecidableEq, Repr

namespace Features

/-- The features that a test picks out. -/
def ofTest (test : Feature → Bool) : Features :=
  { podUsage := test .podUsage
    nodeAvailable := test .nodeAvailable
    nodeCapacity := test .nodeCapacity
    nodePercentage := test .nodePercentage
    containerLimitPercentage := test .containerLimitPercentage
    containerVolumeLimitPercentage := test .containerVolumeLimitPercentage
    containerVolumeUsage := test .containerVolumeUsage
    inodes := test .inodes
    adjustedPollingRate := test .adjustedPollingRate }

/-- A feature is turned on. -/
def has (fs : Features) : Feature → Bool
  | .podUsage => fs.podUsage
  | .nodeAvailable => fs.nodeAvailable
  | .nodeCapacity => fs.nodeCapacity
  | .nodePercentage => fs.nodePercentage
  | .containerLimitPercentage => fs.containerLimitPercentage
  | .containerVolumeLimitPercentage => fs.containerVolumeLimitPercentage
  | .containerVolumeUsage => fs.containerVolumeUsage
  | .inodes => fs.inodes
  | .adjustedPollingRate => fs.adjustedPollingRate

/-- Everything is turned on. -/
def all : Features :=
  ofTest fun _ => true

/-- The features that are turned on, in order. -/
def enabled (fs : Features) : List Feature :=
  Feature.all.filter fs.has

/-- Some family needs the pods' specifications. -/
def needsPodProfiles (fs : Features) : Bool :=
  fs.containerLimitPercentage || fs.containerVolumeLimitPercentage || fs.containerVolumeUsage

/-- Some family needs the volumes in the pods' specifications. -/
def needsVolumeProfiles (fs : Features) : Bool :=
  fs.containerVolumeLimitPercentage || fs.containerVolumeUsage

/-- Some family belongs to pods. -/
def tracksPods (fs : Features) : Bool :=
  fs.podUsage || fs.inodes || fs.needsPodProfiles

/-- One setting as a text. -/
def describeOne (fs : Features) (f : Feature) : String :=
  f.name ++ ": " ++ (if fs.has f then "true" else "false")

/-- All settings as one text, as the startup record shows them. -/
def describe (fs : Features) : String :=
  "MetricFeatures \x7b " ++ String.intercalate ", " (Feature.all.map fs.describeOne) ++ " \x7d"

end Features

end StorageGauges
