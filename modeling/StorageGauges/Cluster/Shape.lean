import StorageGauges.Json.Basic

/-!
# Shapes of Documents

An object of the API server is usable when every field that its type knows
holds a value of the field's type, whether the exporter looks at the field or
not. A shape is that test, as a predicate on documents, and shapes of records
are put together from the shapes of their fields.

A field that is `null` is a missing field. An element of a list and a value of
a map cannot be missing, so there `null` is an error like any other value of
a wrong type.

## Main definitions

* `Shape`: A predicate on documents.
* `Shape.text`, `Shape.truth`, `Shape.int32`, `Shape.int64`: Leaves.
* `Shape.list`, `Shape.map`, `Shape.record`: Containers.
* `Json.field`: The value of a field.
-/

namespace StorageGauges

namespace Json

/-- Nothing is there. -/
def isNull : Json → Bool
  | .null => true
  | _ => false

/-- The value of a field, `null` when it is missing. Of a field that stands
    twice the last value counts. -/
def field (v : Json) (name : String) : Json :=
  match v with
  | .object members =>
    match members.reverse.find? fun m => textOf? m.1 == some name with
    | some m => m.2
    | none => .null
  | _ => .null

/-- The elements of a list; a missing list has none. -/
def elements : Json → List Json
  | .array vs => vs
  | _ => []

end Json

/-- A test for documents. -/
abbrev Shape := Json → Bool

namespace Shape

/-- A text. -/
def text : Shape := fun v => (Json.text? v).isSome

/-- A truth value. -/
def truth : Shape := fun v => (Json.bool? v).isSome

/-- A whole number of 32 bits. -/
def int32 : Shape := fun v => (Json.integer? (-2147483648) 2147483647 v).isSome

/-- A whole number of 64 bits. -/
def int64 : Shape := fun v =>
  (Json.integer? (-9223372036854775808) 9223372036854775807 v).isSome

/-- A whole number of 32 bits, or a text. -/
def int32OrText : Shape := fun v => int32 v || text v

/-- A list. -/
def list (s : Shape) : Shape
  | .array vs => vs.all s
  | _ => false

/-- A map with text keys. -/
def map (s : Shape) : Shape
  | .object members => members.all fun m => (Json.textOf? m.1).isSome && s m.2
  | _ => false

/-- A field of a record: missing, or of its type. Fields that the record does
    not know can hold anything. -/
def field (fields : List (String × Shape)) (name : String) (v : Json) : Bool :=
  match fields.lookup name with
  | some s => v.isNull || s v
  | none => true

/-- A record with the given fields. -/
def record (fields : List (String × Shape)) : Shape
  | .object members => members.all fun m =>
    match Json.textOf? m.1 with
    | some name => field fields name m.2
    | none => false
  | _ => false

end Shape

end StorageGauges
