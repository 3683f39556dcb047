import StorageGauges.Cluster.Shape

/-!
# Objects of the API Server

What all objects have in common: a kind with its version, which are checked
when they are there, and metadata with the object's name. An object that has
not been named yet goes by the text that its name will begin with.

## Main definitions

* `Object.metadata`: The shape of metadata.
* `Object.isOfKind`: The kind and the version fit.
* `Object.name`, `Object.ns`, `Object.version`: The name, the namespace and the
  version of an object.
* `Namespace`: A namespace, of which only the name counts.
-/

namespace StorageGauges

namespace Object

/-- An owner of an object. -/
def owner : Shape :=
  .record
    [("apiVersion", .text), ("blockOwnerDeletion", .truth), ("controller", .truth),
      ("kind", .text), ("name", .text), ("uid", .text)]

/-- Who manages which fields of an object. -/
def managed : Shape :=
  .record
    [("apiVersion", .text), ("fieldsType", .text), ("manager", .text), ("operation", .text),
      ("subresource", .text), ("time", .text)]

/-- The metadata of an object. -/
def metadata : Shape :=
  .record
    [("annotations", .map .text), ("creationTimestamp", .text),
      ("deletionGracePeriodSeconds", .int64), ("deletionTimestamp", .text),
      ("finalizers", .list .text), ("generateName", .text), ("generation", .int64),
      ("labels", .map .text), ("managedFields", .list managed), ("name", .text),
      ("namespace", .text), ("ownerReferences", .list owner), ("resourceVersion", .text),
      ("selfLink", .text), ("uid", .text)]

/-- A requirement of a label selector. -/
def requirement : Shape :=
  .record [("key", .text), ("operator", .text), ("values", .list .text)]

/-- A label selector. -/
def selector : Shape :=
  .record [("matchExpressions", .list requirement), ("matchLabels", .map .text)]

/-- A field that is missing or holds a given text. -/
def isMissingOr (v : Json) (name text : String) : Bool :=
  match v with
  | .object members =>
    members.all fun m => Json.textOf? m.1 != some name || Json.text? m.2 == some text
  | _ => true

/-- The kind and the version of an object fit, where they are given. -/
def isOfKind (kind : String) (v : Json) : Bool :=
  isMissingOr v "apiVersion" "v1" && isMissingOr v "kind" kind

/-- An object of a kind, with the shapes of what is particular to it. -/
def ofKind (kind : String) (fields : List (String × Shape)) : Shape := fun v =>
  isOfKind kind v && Shape.record ([("metadata", metadata)] ++ fields) v

/-- The text of a field, empty when it is missing. -/
def textField (v : Json) (name : String) : String :=
  ((v.field name).text?).getD ""

/-- The version of an object, empty when it has none. -/
def version (v : Json) : String :=
  textField (v.field "metadata") "resourceVersion"

/-- The namespace of an object, empty when it has none. -/
def ns (v : Json) : String :=
  textField (v.field "metadata") "namespace"

/-- The name of an object. -/
def name (v : Json) : String :=
  let data := v.field "metadata"
  match (data.field "name").text? with
  | some n => n
  | none => textField data "generateName"

end Object

/-- A namespace. -/
structure Namespace where
  name : String
deriving DecidableEq, Repr, Inhabited

namespace Namespace

/-- A condition of a namespace. -/
def condition : Shape :=
  .record
    [("lastTransitionTime", .text), ("message", .text), ("reason", .text), ("status", .text),
      ("type", .text)]

/-- A namespace as the API server has it. -/
def shape : Shape :=
  Object.ofKind "Namespace"
    [("spec", .record [("finalizers", .list .text)]),
      ("status", .record [("conditions", .list condition), ("phase", .text)])]

/-- The namespace that a document holds. -/
def ofJson? (v : Json) : Option Namespace :=
  if shape v then some { name := Object.name v } else none

end Namespace

end StorageGauges
