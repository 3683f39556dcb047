import StorageGauges.Decimal.Basic

/-!
# Shortest Decimal of a Double

A double is written with the fewest digits that read back as it. Every
decimal that does lies in the interval between the points half way to the
double's two neighbours; the ends belong to it when the double's significand
is even, since reading rounds a tie to the even one.

The search goes through decimal grids from coarse to fine. On a grid only the
two points around the double can be the nearest in the interval, so each grid
costs two comparisons in whole numbers, and the first grid with a point in
the interval has the fewest digits.

## Main definitions

* `Parts`: A positive double as a whole number times a power of two.
* `partsOf`: The parts of a double's bits.
* `Tie`: Which of two equally near points is taken.
* `shortest`: Digits and exponent of the shortest decimal.
-/

namespace StorageGauges

namespace Decimal

/-- Which of two equally near points a search takes. -/
inductive Tie
  | even
  | away
deriving DecidableEq, Repr

/-- A positive double `significand * 2 ^ power`. The neighbour below is nearer
    than the one above when `narrow`, just above a power of two. -/
structure Parts where
  significand : Nat
  power : Int
  narrow : Bool
deriving DecidableEq, Repr

/-- The bit of a significand that is not stored, just above those that are. -/
def hiddenBit : Nat := 0x10000000000000

/-- The parts of a finite positive double, from its bits without the sign. -/
def partsOf (bits : Nat) : Parts :=
  let mantissa : Nat := bits % hiddenBit
  let biased : Nat := bits / hiddenBit
  if biased = 0 then { significand := mantissa, power := -1074, narrow := false }
  else
    { significand := hiddenBit + mantissa, power := Int.ofNat biased - 1075,
      narrow := mantissa = 0 && 1 < biased }

/-- `base ^ e` as a quotient of whole numbers. -/
def powerRatio (base : Nat) (e : Int) : Nat × Nat :=
  if 0 ≤ e then (base.pow e.toNat, 1) else (1, base.pow e.natAbs)

/-- The point of the grid of step `10 ^ k` to write for the double, if the
    grid has one in the interval. Lengths are in quarters of the unit of the
    significand. -/
def onGrid (tie : Tie) (p : Parts) (k : Int) : Option Nat :=
  let (two, twoBelow) := powerRatio 2 (p.power - 2)
  let (ten, tenBelow) := powerRatio 10 k
  let scale := two * tenBelow
  let step := ten * twoBelow
  let value := 4 * p.significand * scale
  let low := (4 * p.significand - (if p.narrow then 1 else 2)) * scale
  let high := (4 * p.significand + 2) * scale
  let closed := p.significand % 2 = 0
  let inside (d : Nat) : Bool :=
    if closed then low ≤ d * step && d * step ≤ high else low < d * step && d * step < high
  let below := value / step
  let above := below + 1
  match inside below, inside above with
  | false, false => none
  | true, false => some below
  | false, true => some above
  | true, true =>
    let left := value - below * step
    let right := above * step - value
    if left < right then some below
    else if right < left then some above
    else
      match tie with
      | .away => some above
      | .even => some (if below % 2 = 0 then below else above)

/-- The first grid from step `10 ^ k` downwards, in at most `count` grids,
    with a point in the interval. -/
def searchGrids (tie : Tie) (p : Parts) : Nat → Int → Nat × Int
  | 0, k => (0, k)
  | count + 1, k =>
    match onGrid tie p k with
    | some d => (d, k)
    | none => searchGrids tie p count (k - 1)

/-- Digits and exponent of the shortest decimal of a finite positive double,
    given by its bits. The search starts above the double's own power of ten
    and seventeen digits always suffice, so thirty grids do. -/
def shortest (tie : Tie) (bits : Nat) : Nat × Int :=
  let p := partsOf bits
  let size : Int := (p.significand.log2 : Int) + p.power
  searchGrids tie p 30 (size * 30103 / 100000 + 2)

end Decimal

end StorageGauges
