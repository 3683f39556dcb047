import StorageGauges.Decimal.Basic

/-!
# JSON Numbers

A number of a document is kept as it is written: with the digits before the
point, those behind it and the power of ten. As a decimal it is exact, and one
without point and power is an integer.

A double is not made of that decimal. The digits are read from the left into a
word of 64 bits, those before the point and then those behind it, up to the
first that does not fit; the others are only counted. The word becomes a double,
which is then multiplied or divided by a power of ten. Each of these steps
rounds, so the double is not always the one nearest to the number:
`51.199999999999996` is read as `51.2`. It is the nearest one if the number has
few digits.

Digits that are only counted, digits behind the point and the power of ten are
all counted with 32 bits and a sign. A document of a few gigabytes can have more
digits than that.

## Main definitions

* `Json.Number`: A number as it is written.
* `Json.Number.value`, `Json.Number.integer?`: What it is exactly.
* `Json.Number.fill`: As many digits as fit.
* `Json.Number.scale?`: A double times a power of ten.
* `Json.Number.float?`: The double that a number is read as.
-/

namespace StorageGauges

namespace Json

/-- A number with its digits as they are written. If there is a point there are
    digits behind it, and before it there always are. -/
structure Number where
  negative : Bool
  whole : List Nat
  fraction : List Nat
  power : Option Int
deriving DecidableEq, Repr

namespace Number

/-- Neither a point nor a power of ten was written. -/
def isWhole (n : Number) : Bool :=
  n.fraction.isEmpty && n.power.isNone

/-- The number itself. -/
def value (n : Number) : Decimal :=
  { negative := n.negative
    digits := Decimal.ofDigits (n.whole ++ n.fraction)
    exponent := n.power.getD 0 - n.fraction.length }

/-- The integer that a number is, when it was written as one. A negative zero
    is no integer, since an integer has no sign to keep it by. -/
def integer? (n : Number) : Option Int :=
  if !n.isWhole then none
  else if n.negative then
    if n.value.digits = 0 then none else some (-(n.value.digits : Int))
  else some n.value.digits

/-! ## Digits -/

/-- Digits are put behind a number up to the first with which it would no longer
    fit into 64 bits, and that one and all others are left. -/
def fill (m : Nat) : List Nat → Nat × List Nat
  | [] => (m, [])
  | d :: ds => if 10 * m + d < UInt64.size then fill (10 * m + d) ds else (m, d :: ds)

/-- What the digits before the point come to. -/
def wholeFill (n : Number) : Nat × List Nat :=
  fill 0 n.whole

/-- What all digits come to. A digit behind the point may fit again although one
    before it did not. -/
def digitFill (n : Number) : Nat × List Nat :=
  fill n.wholeFill.1 n.fraction

/-- The digits behind the point that were put behind the others. -/
def places (n : Number) : Nat :=
  n.fraction.length - n.digitFill.2.length

/-- What a counter of 32 bits with a sign shows. -/
def counted (i : Int) : Int :=
  i.bmod 4294967296

/-- There are digits behind the point, and they all fit, but their counter shows
    none. -/
def countsNoPlace (n : Number) : Bool :=
  !n.fraction.isEmpty && n.digitFill.2.isEmpty && counted n.places == 0

/-- The power of ten that the digits have by their place. -/
def start (n : Number) : Int :=
  counted (n.wholeFill.2.length - n.places)

/-! ## Doubles -/

/-- The double nearest to a power of ten. -/
def powerOfTen (k : Nat) : Float :=
  Float.ofScientific 1 false k

/-- The largest number of 32 bits with a sign. -/
def mostCount : Int := 2147483647

/-- A double is divided by a power of ten. No power above `10 ^ 308` is a double,
    so a larger one is split, unless there is nothing left to divide. -/
def divide (x : Float) (k : Nat) : Float :=
  if k ≤ 308 then x / powerOfTen k
  else if x == 0.0 then x
  else divide (x / powerOfTen 308) (k - 308)
termination_by k

/-- A double is multiplied by a power of ten, which may be too much for one. -/
def multiply? (x : Float) (k : Nat) : Option Float :=
  if k ≤ 308 then
    let y := x * powerOfTen k
    if y.isInf then none else some y
  else if x == 0.0 then some x
  else none

/-- A double times a power of ten. -/
def scale? (x : Float) (e : Int) : Option Float :=
  if 0 ≤ e then multiply? x e.natAbs else some (divide x e.natAbs)

/-- The power of ten of the digits and the written one together, which stay at
    the bounds of 32 bits with a sign. -/
def exponent (start power : Int) : Int :=
  max (-mostCount - 1) (min mostCount (start + power))

/-- The double without its sign. A written power of ten beyond 32 bits settles it
    alone, unless there is nothing that it could be a power of. -/
def magnitude? (n : Number) : Option Float :=
  let m := n.digitFill.1
  let x := (UInt64.ofNat m).toFloat
  match n.power with
  | none => scale? x n.start
  | some p =>
    if p.natAbs ≤ mostCount then scale? x (exponent n.start p)
    else if 0 < p ∧ m ≠ 0 then none
    else some 0.0

/-- The double that a number is read as, when there is one. -/
def float? (n : Number) : Option Float :=
  if n.countsNoPlace then none
  else n.magnitude?.map fun x => if n.negative then -x else x

end Number

end Json

end StorageGauges
