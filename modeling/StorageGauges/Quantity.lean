import StorageGauges.Decimal.Reader
import StorageGauges.Text.Blank

/-!
# Quantities

Limits in a pod's specification are quantities: a number and a suffix that
multiplies it, `1Gi`, `500M`, `1e3` or `100m`. The number is the longest
front of the text made of digits, points and signs, and has to be a number
as a whole; all that follows has to be a suffix. So `Ei` and a lone `E` are
suffixes and are never read as powers of ten.

Powers of ten are computed by squaring, and a negative one is the inverse of
the positive one: `1e-320` is zero, because the inverse of infinity is, and
`0e400` is no number.

## Main definitions

* `powerOfTen`: A power of ten by squaring.
* `multiplier?`: What a suffix multiplies by.
* `parse?`: The value of a quantity.
-/

namespace StorageGauges

namespace Quantity

/-- `r * a ^ n`, from the lowest binary digit of `n` upwards. -/
def powerBySquaring (r a : Float) (n : Nat) : Float :=
  let r := if n % 2 = 1 then r * a else r
  if n / 2 = 0 then r else powerBySquaring r (a * a) (n / 2)
termination_by n
decreasing_by omega

/-- A power of ten. -/
def powerOfTen (n : Int) : Float :=
  let p := powerBySquaring 1.0 10.0 n.natAbs
  if n < 0 then 1.0 / p else p

/-- A 32-bit exponent. -/
def exponent? (s : List Char) : Option Int :=
  (Decimal.integer? s).filter fun n => -2147483648 ≤ n && n ≤ 2147483647

/-- The suffixes with a fixed multiplier. -/
def suffixes : List (String × Float) :=
  [("", 1.0),
    ("Ki", 1024.0), ("Mi", 1048576.0), ("Gi", 1073741824.0), ("Ti", 1099511627776.0),
    ("Pi", 1125899906842624.0), ("Ei", 1152921504606846976.0),
    ("n", 1e-9), ("u", 1e-6), ("m", 1e-3),
    ("k", 1e3), ("M", 1e6), ("G", 1e9), ("T", 1e12), ("P", 1e15), ("E", 1e18)]

/-- What a suffix multiplies by. -/
def multiplier? (suffix : List Char) : Option Float :=
  match suffixes.lookup (String.ofList suffix) with
  | some m => some m
  | none =>
    match suffix with
    | c :: rest => if c = 'e' ∨ c = 'E' then (exponent? rest).map powerOfTen else none
    | [] => none

/-- A character of the number in front of the suffix. -/
def isNumberChar (c : Char) : Bool :=
  (Decimal.digit? c).isSome || c = '.' || c = '+' || c = '-'

/-- The value of a quantity. -/
def parse? (s : String) : Option Float := do
  let text := Text.trim s.toList
  let number ← Decimal.read? (text.takeWhile isNumberChar)
  let m ← multiplier? (text.dropWhile isNumberChar)
  some (number.toFloat * m)

end Quantity

end StorageGauges
