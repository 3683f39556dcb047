import StorageGauges.Cluster.Pod.Shape
import StorageGauges.Profile
import StorageGauges.Quantity
import StorageGauges.NameMap

/-!
# Pods

What the exporter reads of a pod, and the profile that it keeps of a running
one: its containers in order, each with the limit it declares for ephemeral
storage and with the temporary volumes that are mounted into it. A mount of
any other volume is left out. Where two volumes have one name, the later one
counts.

A limit or size that is no quantity is as good as none.

## Main definitions

* `Pod`: What is read of a pod.
* `Pod.ofJson?`: The pod that a document holds.
* `Pod.isRunning`: The pod runs.
* `Pod.Captured`: What goes into profiles.
* `Pod.profile?`: The profile of a running pod.
-/

namespace StorageGauges

namespace Pod

/-- A volume that is mounted into a container. -/
structure VolumeMount where
  volume : String
  path : String
deriving DecidableEq, Repr, Inhabited

/-- A container, with the text of its limit. -/
structure Container where
  name : String
  limit : Option String
  mounts : List VolumeMount
deriving DecidableEq, Repr, Inhabited

/-- A temporary volume, with the text of its size limit. -/
structure TemporaryVolume where
  name : String
  sizeLimit : Option String
deriving DecidableEq, Repr, Inhabited

/-- What goes into profiles: container limits, temporary volumes, or both. -/
structure Captured where
  containerLimits : Bool
  volumes : Bool
deriving DecidableEq, Repr, Inhabited

end Pod

/-- What is read of a pod. Volumes that are not temporary are left out. The
    namespace tells pods of one name apart in the cluster, but profiles are
    kept by the name alone. -/
structure Pod where
  name : String
  ns : String := ""
  phase : Option String
  containers : List Pod.Container
  volumes : List Pod.TemporaryVolume
deriving DecidableEq, Repr, Inhabited

namespace Pod

/-- The resource whose limits count. -/
def resource : String := "ephemeral-storage"

/-- The phase of a running pod. -/
def runningPhase : String := "Running"

/-- A container in a document. -/
def containerOf (v : Json) : Container :=
  { name := Object.textField v "name"
    limit := (((v.field "resources").field "limits").field resource).text?
    mounts := (v.field "volumeMounts").elements.map fun m =>
      { volume := Object.textField m "name", path := Object.textField m "mountPath" } }

/-- A volume in a document, if it is temporary. -/
def volumeOf? (v : Json) : Option TemporaryVolume :=
  let source := v.field "emptyDir"
  if source.isNull then none
  else some { name := Object.textField v "name", sizeLimit := (source.field "sizeLimit").text? }

/-- The pod that a document holds. -/
def ofJson? (v : Json) : Option Pod :=
  if PodShape.pod v then
    let spec := v.field "spec"
    some
      { name := Object.name v
        ns := Object.ns v
        phase := ((v.field "status").field "phase").text?
        containers := (spec.field "containers").elements.map containerOf
        volumes := (spec.field "volumes").elements.filterMap volumeOf? }
  else none

/-- The pod runs. -/
def isRunning (p : Pod) : Bool :=
  p.phase == some runningPhase

/-- The names of the containers in order. -/
def containerNames (p : Pod) : List String :=
  p.containers.map (·.name)

/-- The last temporary volume of a name. -/
def volume? (p : Pod) (name : String) : Option TemporaryVolume :=
  p.volumes.reverse.find? fun v => v.name = name

/-- A mount in a profile, if its volume is temporary. -/
def mountProfile? (p : Pod) (m : VolumeMount) : Option Mount :=
  (p.volume? m.volume).map fun v =>
    { volume := m.volume, path := m.path, sizeLimit := v.sizeLimit.bind Quantity.parse? }

/-- A container in a profile. -/
def containerProfile (p : Pod) (what : Captured) (c : Container) : ContainerProfile :=
  { name := c.name
    limit := if what.containerLimits then c.limit.bind Quantity.parse? else none
    mounts := if what.volumes then c.mounts.filterMap p.mountProfile? else [] }

/-- The profile of a running pod. -/
def profile? (p : Pod) (what : Captured) : Option PodProfile :=
  if p.isRunning then some { containers := p.containers.map (p.containerProfile what) } else none

end Pod

end StorageGauges
