import StorageGauges.Json.Basic

/-!
# Writing JSON Documents

A document is written without blanks, its members in the order they have.
In strings a quotation mark, a backslash and the bytes below the space are
escaped, with the short escape where there is one; all other bytes stand as
they are. Whole numbers are written in digits and all others in the layout
`compact`, so that a double keeps its point or its power of ten.

## Main definitions

* `writePiece`: A piece of a string.
* `writeNumber`: A number.
* `write`: A document, as bytes.
* `toText`: A document, as a text.
-/

namespace StorageGauges

namespace Json

/-- The byte of a hexadecimal digit, in lower case. -/
def hexByte (n : Nat) : UInt8 :=
  if n < 10 then UInt8.ofNat (48 + n) else UInt8.ofNat (87 + n)

/-- A code unit as an escape. -/
def writeUnit (n : Nat) : List UInt8 :=
  [0x5C, 0x75, hexByte (n / 4096 % 16), hexByte (n / 256 % 16), hexByte (n / 16 % 16),
    hexByte (n % 16)]

/-- A byte of a string. -/
def writeByte (b : UInt8) : List UInt8 :=
  if b = 0x22 ∨ b = 0x5C then [0x5C, b]
  else if b = 0x08 then [0x5C, 0x62]
  else if b = 0x09 then [0x5C, 0x74]
  else if b = 0x0A then [0x5C, 0x6E]
  else if b = 0x0C then [0x5C, 0x66]
  else if b = 0x0D then [0x5C, 0x72]
  else if b < 0x20 then writeUnit b.toNat
  else [b]

/-- A piece of a string. -/
def writePiece : Piece → List UInt8
  | .byte b => writeByte b
  | .unit n => writeUnit n

/-- A string with its quotation marks. -/
def writeText (pieces : List Piece) : List UInt8 :=
  [0x22] ++ pieces.flatMap writePiece ++ [0x22]

/-- A decimal with its point or its power of ten. -/
def writeDecimal (d : Decimal) : List Char :=
  let text := Decimal.ofNatText d.digits
  let e := d.exponent + text.length - 1
  if d.digits = 0 then Decimal.compact.positional ['0'] 0
  else if Decimal.compact.isPositional e then Decimal.compact.positional text d.exponent
  else Decimal.Layout.scientific text e

/-- A number. -/
def writeNumber (n : Number) : List UInt8 :=
  let sign := if n.negative then ['-'] else []
  let text := if n.isWhole then Decimal.ofNatText n.value.digits else writeDecimal n.value
  Utf8.encodeChars (sign ++ text)

/-- Parts with a byte between them. -/
def separated (separator : UInt8) : List (List UInt8) → List UInt8
  | [] => []
  | [part] => part
  | part :: parts => part ++ [separator] ++ separated separator parts

mutual

/-- A document. -/
def write : Json → List UInt8
  | .null => [0x6E, 0x75, 0x6C, 0x6C]
  | .bool true => [0x74, 0x72, 0x75, 0x65]
  | .bool false => [0x66, 0x61, 0x6C, 0x73, 0x65]
  | .number n => writeNumber n
  | .text pieces => writeText pieces
  | .array elements => [0x5B] ++ separated 0x2C (writeElements elements) ++ [0x5D]
  | .object members => [0x7B] ++ separated 0x2C (writeMembers members) ++ [0x7D]

/-- The elements of an array, each by itself. -/
def writeElements : List Json → List (List UInt8)
  | [] => []
  | v :: rest => write v :: writeElements rest

/-- The members of an object, each by itself. -/
def writeMembers : List (List Piece × Json) → List (List UInt8)
  | [] => []
  | (key, v) :: rest => (writeText key ++ [0x3A] ++ write v) :: writeMembers rest

end

/-- A document as a text. -/
def toText (v : Json) : String :=
  Utf8.decodeLossy (write v)

end Json

end StorageGauges
