/-!
# Decimal Numbers

A number as people write it: digits, a power of ten and a sign. The exporter
computes in doubles, and outside JSON documents `toFloat` is the one place where
a decimal becomes one: the double nearest to it, infinity when it is too large
for any.

Powers of ten that leave the range of doubles are answered before they are
computed, so an exponent of a million digits costs nothing.

## Main definitions

* `Decimal`: Sign, digits and power of ten.
* `Decimal.toFloat`: The nearest double.
* `digitsOf`: The decimal digits of a number, most significant first.
* `Decimal.ofDigits`: The number that digits stand for.
-/

namespace StorageGauges

/-- The number `digits * 10 ^ exponent`, negated when `negative`. The sign is
    kept apart so that a negative zero can be written. -/
structure Decimal where
  negative : Bool
  digits : Nat
  exponent : Int
deriving DecidableEq, Repr

namespace Decimal

/-- The value of digits read from the left. -/
def ofDigits (ds : List Nat) : Nat :=
  ds.foldl (fun n d => 10 * n + d) 0

/-- The decimal digits of a number from the left; zero has one digit. -/
def digitsOf (n : Nat) : List Nat :=
  if n < 10 then [n] else digitsOf (n / 10) ++ [n % 10]
termination_by n
decreasing_by omega

/-- The character of a decimal digit. -/
def digitChar (d : Nat) : Char :=
  Char.ofNat (48 + d)

/-- A number in decimal digits. -/
def ofNatText (n : Nat) : List Char :=
  (digitsOf n).map digitChar

/-- The double nearest to the number without its sign. At more than 310
    digits before the point every double is too small, and at more than 330
    zeros behind it only zero is left. -/
def magnitude (digits : Nat) (exponent : Int) : Float :=
  let size : Int := exponent + (digitsOf digits).length
  if digits = 0 then 0.0
  else if size > 310 then 1.0 / 0.0
  else if size < -330 then 0.0
  else if exponent < 0 then Float.ofScientific digits true exponent.natAbs
  else Float.ofScientific digits false exponent.natAbs

/-- The double nearest to the number. -/
def toFloat (d : Decimal) : Float :=
  if d.negative then -(magnitude d.digits d.exponent) else magnitude d.digits d.exponent

end Decimal

end StorageGauges
