import StorageGauges.Decimal.Basic
import StorageGauges.Text.Hexadecimal

/-!
# Internet Addresses

Addresses as the host of a URL may spell them, and as it is written in the
end. An address of 32 bits has up to four parts between points, each decimal,
octal or hexadecimal, and the last part may stand for several. An address of
128 bits has eight pieces between colons, of which one run of zeros may be
left out, and its last two pieces may be an address of 32 bits.

## Main definitions

* `Address4.read?`, `Address4.write`: Addresses of 32 bits.
* `Address4.isNumeric`: A host that has to be such an address.
* `Address6.read?`, `Address6.write`: Addresses of 128 bits.
-/

namespace StorageGauges

namespace Url

namespace Address4

/-- The value of digits in a base, if all of them are digits in it. -/
def valueIn? (base : Nat) (s : List Char) : Option Nat :=
  s.foldlM
    (fun n c => ((Text.hexValue? c.toNat).filter fun d => d < base).map fun d => n * base + d) 0

/-- The number that a part spells: hexadecimal behind `0x`, octal behind a
    zero, and decimal otherwise. -/
def part? : List Char → Option Nat
  | [] => none
  | '0' :: 'x' :: rest => valueIn? 16 rest
  | '0' :: 'X' :: rest => valueIn? 16 rest
  | '0' :: c :: rest => valueIn? 8 (c :: rest)
  | s => valueIn? 10 s

/-- The parts of a host; a point at the very end has nothing behind it. -/
def parts (s : List Char) : List (List Char) :=
  let all := s.splitOn '.'
  match all.getLast? with
  | some [] => if all.length = 1 then all else all.dropLast
  | _ => all

/-- A host whose last part is a number is an address of 32 bits or nothing. -/
def isNumeric (s : List Char) : Bool :=
  match (parts s).getLast? with
  | some last => (!last.isEmpty && last.all Char.isDigit) || (part? last).isSome
  | none => false

/-- The address of up to four numbers, of which the last stands for all bytes
    that are left. -/
def ofNumbers? : List Nat → Option Nat
  | [] => none
  | ns =>
    let front := ns.dropLast
    let last := ns.getLast?.getD 0
    let room := Nat.pow 256 (4 - front.length)
    if 4 < ns.length || front.any (255 < ·) || room ≤ last then none
    else some (front.foldl (fun a n => a * 256 + n) 0 * room + last)

/-- The address that a host spells. -/
def read? (s : List Char) : Option Nat :=
  ((parts s).mapM part?).bind ofNumbers?

/-- An address with its four bytes between points. -/
def write (a : Nat) : List Char :=
  let byte (n : Nat) := Decimal.ofNatText (n % 256)
  byte (a / 16777216) ++ ['.'] ++ byte (a / 65536) ++ ['.'] ++ byte (a / 256) ++ ['.'] ++ byte a

end Address4

namespace Address6

/-- A piece of up to four digits. -/
def piece? (s : List Char) : Option Nat :=
  if s.isEmpty || 4 < s.length then none else Address4.valueIn? 16 s

/-- A byte without leading zeros. -/
def byte? (s : List Char) : Option Nat :=
  match s with
  | [] => none
  | '0' :: _ :: _ => none
  | _ => (Address4.valueIn? 10 s).filter (· ≤ 255)

/-- The two pieces of an address of 32 bits at the end. -/
def tail? (s : List Char) : Option (List Nat) :=
  match (s.splitOn '.').mapM byte? with
  | some [a, b, c, d] => some [a * 256 + b, c * 256 + d]
  | _ => none

/-- The pieces between colons. -/
def pieces? : List (List Char) → Option (List Nat)
  | [] => some []
  | [last] => if last.contains '.' then tail? last else (piece? last).map fun p => [p]
  | p :: rest => do
    let p ← piece? p
    let rest ← pieces? rest
    some (p :: rest)

/-- The pieces in a text, which may be empty. -/
def side? (s : List Char) : Option (List Nat) :=
  if s.isEmpty then some [] else pieces? (s.splitOn ':')

/-- What is before the first two colons in a row, and what is behind them. -/
def gap? : List Char → Option (List Char × List Char)
  | ':' :: ':' :: rest => some ([], rest)
  | c :: rest => (gap? rest).map fun g => (c :: g.1, g.2)
  | [] => none

/-- The eight pieces of an address. -/
def read? (s : List Char) : Option (List Nat) :=
  match gap? s with
  | none => (side? s).filter fun ps => ps.length = 8
  | some (left, right) => do
    let front ← side? left
    let back ← side? right
    if left.contains '.' || 7 < front.length + back.length then none
    else some (front ++ List.replicate (8 - front.length - back.length) 0 ++ back)

/-- How many zeros are at the front. -/
def zeros (ps : List Nat) : Nat :=
  (ps.takeWhile (· = 0)).length

/-- The length of the longest run of zeros. -/
def longest : List Nat → Nat
  | [] => 0
  | p :: rest => max (zeros (p :: rest)) (longest rest)

/-- Pieces between colons. -/
def colons (ps : List Nat) : List Char :=
  (List.intercalate [':'] (ps.map Text.hexadecimal))

/-- Pieces of which the first run of so many zeros is left out. `front` holds
    the pieces before it in reverse order. -/
def writeFrom (run : Nat) (front : List Nat) : List Nat → List Char
  | [] => colons front.reverse
  | p :: rest =>
    if zeros (p :: rest) = run then
      colons front.reverse ++ [':', ':'] ++ colons ((p :: rest).drop run)
    else writeFrom run (p :: front) rest

/-- An address; a zero by itself is not left out. -/
def write (ps : List Nat) : List Char :=
  if longest ps < 2 then colons ps else writeFrom (longest ps) [] ps

end Address6

end Url

end StorageGauges
