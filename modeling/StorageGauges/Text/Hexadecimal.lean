/-!
# Hexadecimal Digits

Numbers in base sixteen, as escapes in JSON, in quoted texts, in addresses and
in URLs write them. Digits are written in lower case except in URLs.

## Main definitions

* `hexDigit`: The character of a digit, in lower case.
* `hexCapital`: The character of a digit, in upper case.
* `hexadecimal`: A number, without leading zeros.
* `hexValue?`: The value of a digit in either case.
-/

namespace StorageGauges

namespace Text

/-- A hexadecimal digit, in lower case. -/
def hexDigit (n : Nat) : Char :=
  if n < 10 then Char.ofNat (48 + n) else Char.ofNat (87 + n)

/-- A hexadecimal digit, in upper case. -/
def hexCapital (n : Nat) : Char :=
  if n < 10 then Char.ofNat (48 + n) else Char.ofNat (55 + n)

/-- A number in hexadecimal, without leading zeros. -/
def hexadecimal (n : Nat) : List Char :=
  if n < 16 then [hexDigit n] else hexadecimal (n / 16) ++ [hexDigit (n % 16)]
termination_by n
decreasing_by omega

/-- The value of a hexadecimal digit, given by its code. -/
def hexValue? (code : Nat) : Option Nat :=
  if 48 ≤ code ∧ code ≤ 57 then some (code - 48)
  else if 65 ≤ code ∧ code ≤ 70 then some (code - 55)
  else if 97 ≤ code ∧ code ≤ 102 then some (code - 87)
  else none

end Text

end StorageGauges
