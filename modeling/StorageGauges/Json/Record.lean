import StorageGauges.Json.Basic

/-!
# Records in JSON

A record is written as an object with its fields as members, or as an array
of its fields in the order in which they are declared. Reading one finds the
value of each field that is there; what a missing field means is up to the
record. An object may have other members, of which only the key is read. A
field that is there twice is an error, and so is an array with more elements
than there are fields.

## Main definitions

* `Fields`: The values found, by field name.
* `fields?`: The fields of a record whose fields may all be missing.
* `allFields?`: The same, where an array must have every field.
* `Fields.getOr`, `Fields.need?`, `Fields.optional?`: Reading one field.
* `tag?`: The name of a variant without contents.
* `entries?`: The entries of a map.
-/

namespace StorageGauges

namespace Json

/-- The values of a record's fields that are there. -/
abbrev Fields := List (String × Json)

/-- The members of an object with their keys as texts. -/
def keyed? (members : List (List Piece × Json)) : Option Fields :=
  members.mapM fun m => (textOf? m.1).map fun k => (k, m.2)

/-- No name stands twice. -/
def noRepeats (names : List String) : Bool :=
  match names with
  | [] => true
  | n :: rest => !rest.contains n && noRepeats rest

/-- The fields of a record, given their names in order. -/
def fields? (names : List String) : Json → Option Fields
  | .array elements =>
    if elements.length ≤ names.length then some (names.zip elements) else none
  | .object members => do
    let all ← keyed? members
    let known := all.filter fun f => names.contains f.1
    if noRepeats (known.map (·.1)) then some known else none
  | _ => none

/-- The fields of a record that is complete when it is written as an array. -/
def allFields? (names : List String) : Json → Option Fields
  | .array elements =>
    if elements.length = names.length then some (names.zip elements) else none
  | v => fields? names v

namespace Fields

/-- A field that stands for a default value when it is missing. -/
def getOr {α : Type} (fs : Fields) (name : String) (read : Json → Option α) (default : α) :
    Option α :=
  match fs.lookup name with
  | none => some default
  | some v => read v

/-- A field that must be there. -/
def need? {α : Type} (fs : Fields) (name : String) (read : Json → Option α) : Option α :=
  (fs.lookup name).bind read

/-- A field that may be missing or `null`. -/
def optional? {α : Type} (fs : Fields) (name : String) (read : Json → Option α) :
    Option (Option α) :=
  fs.getOr name (Json.optional? read) none

end Fields

/-- The name of a variant without contents: a text, or an object with this
    name as its only key and `null` as its value. -/
def tag? : Json → Option String
  | .text pieces => textOf? pieces
  | .object [(key, .null)] => textOf? key
  | _ => none

/-- The entries of a map; of a key that stands twice the last one counts. -/
def entries? {α : Type} (read : Json → Option α) : Json → Option (List (String × α))
  | .object members => do
    let all ← keyed? members
    all.foldlM
      (fun found m => (read m.2).map fun a => found.filter (·.1 ≠ m.1) ++ [(m.1, a)]) []
  | _ => none

end Json

end StorageGauges
