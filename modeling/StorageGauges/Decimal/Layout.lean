import StorageGauges.Decimal.Shortest

/-!
# Writing Doubles

The digits of a double are settled by `shortest`. Where the point goes, when
a power of ten is split off and what stands for the numbers without digits is
a matter of the format, and a `Layout` is that decision in one record.

## Main definitions

* `Layout`: The decisions of a format.
* `Layout.write`: A double in a format.
* `plain`: Never a power of ten, no point behind a whole number.
* `compact`: A power of ten for large and small numbers, and always a point
  or a power of ten.
-/

namespace StorageGauges

namespace Decimal

/-- How a format writes doubles. A number whose first digit stands at
    `10 ^ e` is written without a power of ten when `e` lies between `least`
    and `most`. -/
structure Layout where
  least : Option Int
  most : Option Int
  pointZero : Bool
  tie : Tie
  nan : String
  infinity : String
deriving DecidableEq, Repr

namespace Layout

/-- The bit that the sign of a double has. -/
def signBit : Nat := 0x8000000000000000

/-- The bits of a double without the sign. -/
def magnitudeBits (x : Float) : Nat :=
  x.toBits.toNat % signBit

/-- The bits of infinity. -/
def infinityBits : Nat := 0x7FF0000000000000

/-- A number is written without a power of ten. -/
def isPositional (l : Layout) (e : Int) : Bool :=
  (match l.least with | some m => m ≤ e | none => true)
    && (match l.most with | some m => e ≤ m | none => true)

/-- Digits with the point in place, for `digits * 10 ^ exponent`. -/
def positional (l : Layout) (digits : List Char) (exponent : Int) : List Char :=
  if 0 ≤ exponent then
    digits ++ List.replicate exponent.toNat '0' ++ (if l.pointZero then ['.', '0'] else [])
  else
    let places := exponent.natAbs
    if places < digits.length then
      digits.take (digits.length - places) ++ ['.'] ++ digits.drop (digits.length - places)
    else ['0', '.'] ++ List.replicate (places - digits.length) '0' ++ digits

/-- One digit, the others behind a point, and the power of ten with its
    sign. -/
def scientific (digits : List Char) (e : Int) : List Char :=
  let mantissa :=
    match digits with
    | d :: [] => [d]
    | d :: rest => d :: '.' :: rest
    | [] => []
  let power := ofNatText e.natAbs
  mantissa ++ ['e', if e < 0 then '-' else '+'] ++ power

/-- A positive finite double. -/
def writePositive (l : Layout) (bits : Nat) : List Char :=
  let (digits, exponent) := shortest l.tie bits
  let text := ofNatText digits
  let e := exponent + text.length - 1
  if l.isPositional e then l.positional text exponent else scientific text e

/-- A double without its sign. -/
def writeMagnitude (l : Layout) (bits : Nat) : List Char :=
  if bits = 0 then l.positional ['0'] 0
  else if bits = infinityBits then l.infinity.toList
  else l.writePositive bits

/-- A double in a format. Only numbers carry a sign. -/
def write (l : Layout) (x : Float) : String :=
  let bits := magnitudeBits x
  if infinityBits < bits then l.nan
  else
    let sign := if x.toBits.toNat < signBit then [] else ['-']
    String.ofList (sign ++ l.writeMagnitude bits)

end Layout

/-- Every digit in its place: the format of exposed gauges and of numbers
    that become settings texts. -/
def plain : Layout :=
  { least := none, most := none, pointZero := false, tie := .away, nan := "NaN",
    infinity := "inf" }

/-- The format of JSON documents: a power of ten from `1e+16` upwards and
    below `1e-5`. A double that JSON cannot hold is `null`. -/
def compact : Layout :=
  { least := some (-5), most := some 15, pointZero := true, tie := .even, nan := "null",
    infinity := "null" }

end Decimal

end StorageGauges
