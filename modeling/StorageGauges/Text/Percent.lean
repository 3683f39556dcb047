import StorageGauges.Text.Hexadecimal
import StorageGauges.Text.Utf8

/-!
# Percent Encoding

In a URL a byte that cannot stand for itself is a percent sign and two
hexadecimal digits. Which characters cannot stand for themselves depends on
where in the URL they are; characters outside ASCII never can. A percent sign
that no two digits follow stands for itself.

The parts of a form are pairs, in which moreover a plus sign stands for a
space.

## Main definitions

* `Percent.encode`: A text with some characters encoded.
* `Percent.decode`: The bytes that a text stands for.
* `Percent.pairs`: The pairs of a form.
-/

namespace StorageGauges

namespace Percent

/-- A byte as a percent sign and two digits. -/
def encodeByte (b : UInt8) : List Char :=
  ['%', Text.hexCapital (b.toNat / 16), Text.hexCapital (b.toNat % 16)]

/-- A character, encoded if it cannot stand for itself. -/
def encodeChar (special : Char → Bool) (c : Char) : List Char :=
  if c.toNat < 0x80 && !special c then [c] else (Utf8.encodeChar c).flatMap encodeByte

/-- A text in which the special characters are encoded. -/
def encode (special : Char → Bool) (s : List Char) : List Char :=
  s.flatMap (encodeChar special)

/-- The bytes that encoded bytes stand for. -/
def decode : List UInt8 → List UInt8
  | 0x25 :: a :: b :: rest =>
    match Text.hexValue? a.toNat, Text.hexValue? b.toNat with
    | some h, some l => UInt8.ofNat (h * 16 + l) :: decode rest
    | _, _ => 0x25 :: decode (a :: b :: rest)
  | b :: rest => b :: decode rest
  | [] => []

/-- A character in a form, with a space for a plus sign. -/
def plusAsSpace (b : UInt8) : UInt8 :=
  if b = 0x2B then 0x20 else b

/-- A text in a form. -/
def formText (s : List Char) : String :=
  Utf8.decodeLossy (decode ((Utf8.encodeChars s).map plusAsSpace))

/-- A pair of a form: what is before the first equals sign, and what is
    behind it. -/
def pair (s : List Char) : String × String :=
  (formText (s.takeWhile (· ≠ '=')), formText ((s.dropWhile (· ≠ '=')).drop 1))

/-- The pairs of a form. -/
def pairs (s : List Char) : List (String × String) :=
  ((s.splitOn '&').filter fun p => !p.isEmpty).map pair

end Percent

end StorageGauges
