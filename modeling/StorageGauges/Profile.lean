import StorageGauges.Json.Record

/-!
# Pod Profiles

What is kept of a pod's specification: the containers in order, each with its
declared limit and the temporary volumes that are mounted into it.

## Main definitions

* `Mount`: A temporary volume in a container.
* `ContainerProfile`: A container.
* `PodProfile`: A pod.
* `PodProfile.toJson`, `PodProfile.ofJson?`: A profile as a document.
-/

namespace StorageGauges

/-- A temporary volume that is mounted into a container, with its declared
    size limit in bytes. -/
structure Mount where
  volume : String
  path : String
  sizeLimit : Option Float
deriving Repr, Inhabited

/-- A container, with its declared limit in bytes. -/
structure ContainerProfile where
  name : String
  limit : Option Float
  mounts : List Mount
deriving Repr, Inhabited

/-- A pod's containers in order. -/
structure PodProfile where
  containers : List ContainerProfile
deriving Repr, Inhabited

namespace Mount

/-- A mount as a document. -/
def toJson (m : Mount) : Json :=
  Json.ofMembers
    [("volume_name", Json.ofText m.volume), ("mount_path", Json.ofText m.path),
      ("size_limit", Json.ofOption Json.ofFloat m.sizeLimit)]

/-- The mount that a document holds. -/
def ofJson? (v : Json) : Option Mount := do
  let fs ← Json.allFields? ["volume_name", "mount_path", "size_limit"] v
  some
    { volume := ← fs.need? "volume_name" Json.text?
      path := ← fs.need? "mount_path" Json.text?
      sizeLimit := ← fs.optional? "size_limit" Json.float? }

end Mount

namespace ContainerProfile

/-- A container as a document. -/
def toJson (c : ContainerProfile) : Json :=
  Json.ofMembers
    [("name", Json.ofText c.name), ("limit", Json.ofOption Json.ofFloat c.limit),
      ("empty_dir_mounts", .array (c.mounts.map Mount.toJson))]

/-- The container that a document holds. -/
def ofJson? (v : Json) : Option ContainerProfile := do
  let fs ← Json.allFields? ["name", "limit", "empty_dir_mounts"] v
  some
    { name := ← fs.need? "name" Json.text?
      limit := ← fs.optional? "limit" Json.float?
      mounts := ← fs.need? "empty_dir_mounts" (Json.list? Mount.ofJson?) }

end ContainerProfile

namespace PodProfile

/-- The names of the containers in order. -/
def containerNames (p : PodProfile) : List String :=
  p.containers.map (·.name)

/-- A profile as a document. -/
def toJson (p : PodProfile) : Json :=
  Json.ofMembers [("containers", .array (p.containers.map ContainerProfile.toJson))]

/-- The profile that a document holds. -/
def ofJson? (v : Json) : Option PodProfile := do
  let fs ← Json.allFields? ["containers"] v
  some { containers := ← fs.need? "containers" (Json.list? ContainerProfile.ofJson?) }

end PodProfile

end StorageGauges
