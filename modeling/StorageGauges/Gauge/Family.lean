import StorageGauges.Gauge.Label

/-!
# Gauge Families

The exporter has eleven gauge families. Each is one constructor here, with
the labels that its series carry in the order in which values are given.

Node families are written from the pod samples of a node, so a node's figures
are those of the last sample of its payload.

## Main definitions

* `Family`: The eleven families.
* `Family.shortName`: What a family measures, as one word.
* `Family.name`: The name under which a family is exposed.
* `Family.help`: The line that explains a family to its readers.
* `Family.labels`: The labels of a family, in order.
* `Family.ofShortName?`: The family with a short name.
-/

namespace StorageGauges

/-- A gauge family. -/
inductive Family
  | podUsage
  | nodeAvailable
  | nodeCapacity
  | nodePercentage
  | containerLimitPercentage
  | containerVolumeLimitPercentage
  | containerVolumeUsage
  | inodes
  | inodesFree
  | inodesUsed
  | adjustedPollingRate
deriving DecidableEq, Repr

namespace Family

/-- Every family. -/
def all : List Family :=
  [podUsage, nodeAvailable, nodeCapacity, nodePercentage, containerLimitPercentage,
    containerVolumeLimitPercentage, containerVolumeUsage, inodes, inodesFree, inodesUsed,
    adjustedPollingRate]

/-- What a family measures, as one word. -/
def shortName : Family → String
  | podUsage => "pod_usage"
  | nodeAvailable => "node_available"
  | nodeCapacity => "node_capacity"
  | nodePercentage => "node_percentage"
  | containerLimitPercentage => "container_limit_percentage"
  | containerVolumeLimitPercentage => "container_volume_limit_percentage"
  | containerVolumeUsage => "container_volume_usage"
  | inodes => "inodes"
  | inodesFree => "inodes_free"
  | inodesUsed => "inodes_used"
  | adjustedPollingRate => "adjusted_polling_rate"

/-- The name under which a family is exposed. -/
def name (f : Family) : String :=
  "ephemeral_storage_" ++ f.shortName

/-- The line that explains a family to its readers. -/
def help : Family → String
  | podUsage => "Current ephemeral byte usage of pod"
  | nodeAvailable => "Available ephemeral storage for a node"
  | nodeCapacity => "Capacity of ephemeral storage for a node"
  | nodePercentage => "Percentage of ephemeral storage available on a node"
  | containerLimitPercentage => "Percentage of ephemeral storage used by a container in a pod"
  | containerVolumeLimitPercentage =>
    "Percentage of ephemeral storage used by a container's volume in a pod"
  | containerVolumeUsage => "Current ephemeral storage used by a container's volume in a pod"
  | inodes => "Maximum number of inodes in the pod"
  | inodesFree => "Number of free inodes in the pod"
  | inodesUsed => "Number of used inodes in the pod"
  | adjustedPollingRate =>
    "Time left in the polling interval after a node query, in milliseconds"

/-- The labels of series that belong to a pod. -/
def podLabels : List Label :=
  [.podName, .podNamespace, .nodeName]

/-- The labels of series that belong to a node. -/
def nodeLabels : List Label :=
  [.nodeName]

/-- The labels of series that belong to a container. -/
def containerLabels : List Label :=
  [.podName, .podNamespace, .nodeName, .container, .source]

/-- The labels of series that belong to a volume in a container. -/
def volumeLabels : List Label :=
  [.podName, .podNamespace, .nodeName, .container, .volumeName, .mountPath]

/-- The labels of a family, in the order in which values are given. -/
def labels : Family → List Label
  | podUsage => podLabels
  | nodeAvailable => nodeLabels
  | nodeCapacity => nodeLabels
  | nodePercentage => nodeLabels
  | containerLimitPercentage => containerLabels
  | containerVolumeLimitPercentage => volumeLabels
  | containerVolumeUsage => volumeLabels
  | inodes => podLabels
  | inodesFree => podLabels
  | inodesUsed => podLabels
  | adjustedPollingRate => nodeLabels

/-- The series of a family carry a label. -/
def hasLabel (f : Family) (l : Label) : Bool :=
  f.labels.contains l

/-- The family with a short name. -/
def ofShortName? (s : String) : Option Family :=
  all.find? fun f => f.shortName = s

theorem mem_all (f : Family) : f ∈ all := by
  cases f <;> decide

end Family

end StorageGauges
