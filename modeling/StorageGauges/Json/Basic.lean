import StorageGauges.Decimal.Reader
import StorageGauges.Decimal.Layout
import StorageGauges.Json.Number
import StorageGauges.Text.Utf8

/-!
# JSON Documents

The tree of a JSON document as its syntax has it. Strings are kept as the
pieces between their quotation marks, numbers with the digits that they were
written with, and objects as the list of their members with repeated keys in
place. What a document
means is not settled here: a string may hold bytes that are no text or half a
surrogate pair, a number may be too large for a double. That is an error only
where somebody reads that string or that number, and members that nobody asks
for can hold anything that is syntactically right.

## Main definitions

* `Json.Piece`: A byte of a string, or a code unit written in hexadecimal.
* `Json`: The tree.
* `Json.textOf?`: The text that the pieces of a string stand for.
* `Json.float?`, `Json.integer?`, `Json.bool?`, `Json.text?`: Reading a leaf.
* `Json.ofText`, `Json.ofNat`, `Json.ofFloat`: Writing a leaf.
-/

namespace StorageGauges

namespace Json

/-- Part of a string: a byte, also one that was written with a short escape,
    or a code unit of four hexadecimal digits. -/
inductive Piece
  | byte (b : UInt8)
  | unit (n : Nat)
deriving DecidableEq, Repr

end Json

/-- A JSON document. -/
inductive Json
  | null
  | bool (b : Bool)
  | number (n : Json.Number)
  | text (pieces : List Json.Piece)
  | array (elements : List Json)
  | object (members : List (List Json.Piece × Json))
deriving Repr

namespace Json

/-- The first half of a surrogate pair. -/
def isHighSurrogate (n : Nat) : Bool :=
  0xD800 ≤ n && n < 0xDC00

/-- The second half of a surrogate pair. -/
def isLowSurrogate (n : Nat) : Bool :=
  0xDC00 ≤ n && n < 0xE000

/-- The bytes of a string. Code units outside the surrogates are characters,
    a first and a second half together are one, and a half alone is an
    error. -/
def bytesOf? : List Piece → Option (List UInt8)
  | [] => some []
  | .byte b :: rest => (bytesOf? rest).map (b :: ·)
  | .unit n :: rest =>
    if isLowSurrogate n then none
    else if isHighSurrogate n then
      match rest with
      | .unit m :: rest =>
        if isLowSurrogate m then
          let c := Char.ofNat (0x10000 + (n - 0xD800) * 0x400 + (m - 0xDC00))
          (bytesOf? rest).map (Utf8.encodeChar c ++ ·)
        else none
      | _ => none
    else (bytesOf? rest).map (Utf8.encodeChar (Char.ofNat n) ++ ·)

/-- The text of a string, when its halves pair and its bytes are UTF-8. -/
def textOf? (pieces : List Piece) : Option String :=
  (bytesOf? pieces).bind Utf8.decode?

/-- The pieces of a text, every byte as it is. -/
def piecesOf (s : String) : List Piece :=
  (Utf8.encode s).map .byte

/-- Reads a double. -/
def float? : Json → Option Float
  | .number n => n.float?
  | _ => none

/-- Reads an integer between two bounds. -/
def integer? (low high : Int) : Json → Option Int
  | .number n => n.integer?.filter fun i => low ≤ i && i ≤ high
  | _ => none

/-- Reads a truth value. -/
def bool? : Json → Option Bool
  | .bool b => some b
  | _ => none

/-- Reads a text. -/
def text? : Json → Option String
  | .text pieces => textOf? pieces
  | _ => none

/-- Reads `null` as absent, anything else as present. -/
def optional? {α : Type} (read : Json → Option α) : Json → Option (Option α)
  | .null => some none
  | v => (read v).map some

/-- Reads every element of an array. -/
def list? {α : Type} (read : Json → Option α) : Json → Option (List α)
  | .array elements => elements.mapM read
  | _ => none

/-- A text. -/
def ofText (s : String) : Json :=
  .text (piecesOf s)

/-- An integer. -/
def ofInt (i : Int) : Json :=
  .number { negative := i < 0, whole := Decimal.digitsOf i.natAbs, fraction := [], power := none }

/-- A natural number. -/
def ofNat (n : Nat) : Json :=
  ofInt n

/-- A double, as its shortest decimal; JSON has no number that is infinite or
    none, and `null` stands for both. -/
def ofFloat (x : Float) : Json :=
  let bits := Decimal.Layout.magnitudeBits x
  if Decimal.Layout.infinityBits ≤ bits then .null
  else
    let (digits, exponent) := if bits = 0 then (0, 0) else Decimal.shortest .even bits
    .number
      { negative := Decimal.Layout.signBit ≤ x.toBits.toNat
        whole := Decimal.digitsOf digits
        fraction := []
        power := some exponent }

/-- A value that may be absent, `null` when it is. -/
def ofOption {α : Type} (write : α → Json) : Option α → Json
  | none => .null
  | some a => write a

/-- An object with text keys. -/
def ofMembers (members : List (String × Json)) : Json :=
  .object (members.map fun m => (piecesOf m.1, m.2))

end Json

end StorageGauges
