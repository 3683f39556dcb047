/-!
# Labels

The labels that tell the series of one gauge family apart. A family fixes
which of them its series carry, so a label is one of seven and never a text.

## Main definitions

* `Label`: The seven labels.
* `Label.name`: The name under which a label is exposed.
* `Label.ofName?`: The label with a name.
-/

namespace StorageGauges

/-- What distinguishes the series of a gauge family. -/
inductive Label
  | podName
  | podNamespace
  | nodeName
  | container
  | source
  | volumeName
  | mountPath
deriving DecidableEq, Repr

namespace Label

/-- Every label. -/
def all : List Label :=
  [podName, podNamespace, nodeName, container, source, volumeName, mountPath]

/-- The name under which a label is exposed. -/
def name : Label → String
  | podName => "pod_name"
  | podNamespace => "pod_namespace"
  | nodeName => "node_name"
  | container => "container"
  | source => "source"
  | volumeName => "volume_name"
  | mountPath => "mount_path"

/-- The label with a name. -/
def ofName? (s : String) : Option Label :=
  all.find? fun l => l.name = s

theorem mem_all (l : Label) : l ∈ all := by
  cases l <;> decide

end Label

end StorageGauges
