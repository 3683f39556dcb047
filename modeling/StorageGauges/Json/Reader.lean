import StorageGauges.Json.Token

/-!
# Reading JSON Documents

The tokens of a document drive a machine that holds the containers which are
open. Each token is one step, so reading is a fold over the tokens and a
document may be nested to any depth.

## Main definitions

* `Frame`: An open container with what it holds already.
* `State`: What may come next.
* `State.step?`: One token.
* `read?`: The document that bytes hold, which is one value and nothing after
  it.
* `ofString?`: The document that a text holds.
-/

namespace StorageGauges

namespace Json

/-- An open container. What it holds is in reverse order; an object also
    holds the key whose value is being read. -/
inductive Frame
  | array (elements : List Json)
  | object (members : List (List Piece × Json)) (key : List Piece)
deriving Repr

/-- What may come next, inside the open containers, the innermost first. -/
inductive State
  | value (frames : List Frame)
  | elementOrEnd (frames : List Frame)
  | keyOrEnd (frames : List Frame)
  | key (members : List (List Piece × Json)) (frames : List Frame)
  | colon (members : List (List Piece × Json)) (k : List Piece) (frames : List Frame)
  | afterElement (elements : List Json) (frames : List Frame)
  | afterMember (members : List (List Piece × Json)) (frames : List Frame)
  | finished (v : Json)
deriving Repr

namespace State

/-- A value is complete and goes to the container that waits for it. -/
def deliver (v : Json) : List Frame → State
  | [] => .finished v
  | .array elements :: frames => .afterElement (v :: elements) frames
  | .object members k :: frames => .afterMember ((k, v) :: members) frames

/-- The first token of a value. -/
def beginValue? (frames : List Frame) : Token → Option State
  | .leaf v => some (deliver v frames)
  | .text pieces => some (deliver (.text pieces) frames)
  | .beginArray => some (.elementOrEnd frames)
  | .beginObject => some (.keyOrEnd frames)
  | _ => none

/-- One token. -/
def step? : State → Token → Option State
  | .value frames, t => beginValue? frames t
  | .elementOrEnd frames, .endArray => some (deliver (.array []) frames)
  | .elementOrEnd frames, t => beginValue? (.array [] :: frames) t
  | .keyOrEnd frames, .endObject => some (deliver (.object []) frames)
  | .keyOrEnd frames, .text k => some (.colon [] k frames)
  | .key members frames, .text k => some (.colon members k frames)
  | .colon members k frames, .colon => some (.value (.object members k :: frames))
  | .afterElement elements frames, .comma => some (.value (.array elements :: frames))
  | .afterElement elements frames, .endArray =>
    some (deliver (.array elements.reverse) frames)
  | .afterMember members frames, .comma => some (.key members frames)
  | .afterMember members frames, .endObject => some (deliver (.object members.reverse) frames)
  | _, _ => none

end State

/-- The document that tokens spell. -/
def ofTokens? (ts : List Token) : Option Json :=
  match ts.foldlM State.step? (.value []) with
  | some (.finished v) => some v
  | _ => none

/-- The document that bytes hold. -/
def read? (bytes : List UInt8) : Option Json :=
  (tokens? bytes).bind ofTokens?

/-- The document that a text holds. -/
def ofString? (s : String) : Option Json :=
  read? (Utf8.encode s)

end Json

end StorageGauges
