import StorageGauges.Decimal.Basic

/-!
# Reading Decimal Numbers

The text of a number outside JSON: at most one sign, digits with at most one
point among or beside them, and possibly a power of ten. A point needs a digit
on one side only, so `1.` and `.5` are numbers and `.` is none. The words
`inf`, `infinity` and `nan` are numbers too, in any case.

## Main definitions

* `takeDigits`: The digits at the front of a text, and the rest.
* `takeSign`: A sign at the front, and the rest.
* `integer?`: A whole number with an optional sign.
* `read?`: A decimal number.
* `readFloat?`: The double that a text stands for, the words included.
-/

namespace StorageGauges

namespace Decimal

/-- The value of an ASCII digit. -/
def digit? (c : Char) : Option Nat :=
  if '0' ≤ c ∧ c ≤ '9' then some (c.toNat - 48) else none

/-- The digits at the front of a text, and what follows them. -/
def takeDigits : List Char → List Nat × List Char
  | [] => ([], [])
  | c :: rest =>
    match digit? c with
    | some d => (d :: (takeDigits rest).1, (takeDigits rest).2)
    | none => ([], c :: rest)

/-- Whether a minus sign is at the front, and what follows the sign. -/
def takeSign : List Char → Bool × List Char
  | '+' :: rest => (false, rest)
  | '-' :: rest => (true, rest)
  | rest => (false, rest)

/-- A whole number: a sign at most, then digits and nothing else. -/
def integer? (s : List Char) : Option Int :=
  let (negative, rest) := takeSign s
  match takeDigits rest with
  | ([], _) => none
  | (ds, []) => some (if negative then -(ofDigits ds : Int) else ofDigits ds)
  | _ => none

/-- The power of ten at the end of a number: nothing, or `e` and a whole
    number. -/
def power? : List Char → Option Int
  | [] => some 0
  | c :: rest => if c = 'e' ∨ c = 'E' then integer? rest else none

/-- A decimal number. -/
def read? (s : List Char) : Option Decimal :=
  let (negative, s) := takeSign s
  let (whole, s) := takeDigits s
  let (fraction, s) :=
    match s with
    | '.' :: rest => takeDigits rest
    | rest => ([], rest)
  if whole.isEmpty && fraction.isEmpty then none
  else
    (power? s).map fun p =>
      { negative, digits := ofDigits (whole ++ fraction), exponent := p - fraction.length }

/-- The words for the numbers that have no digits. -/
def word? (s : List Char) : Option Float :=
  let (negative, rest) := takeSign s
  let word := rest.map Char.toLower
  if word = "inf".toList ∨ word = "infinity".toList then
    some (if negative then -1.0 / 0.0 else 1.0 / 0.0)
  else if word = "nan".toList then some (0.0 / 0.0)
  else none

/-- The double that a text stands for. -/
def readFloat? (s : List Char) : Option Float :=
  match word? s with
  | some x => some x
  | none => (read? s).map toFloat

theorem ofDigit?_toChar (c : Char) (d : Nat) (h : digit? c = some d) : digitChar d = c := by
  unfold digit? at h
  split at h
  · rename_i hc
    simp only [Option.some.injEq] at h
    have h48 : 48 ≤ c.toNat := hc.1
    rw [← h, digitChar, show 48 + (c.toNat - 48) = c.toNat by omega, Char.ofNat_toNat]
  · simp at h

end Decimal

end StorageGauges
