/-!
# Base64

Bytes as text, three bytes in four characters of an alphabet of sixty-four.
A text whose length is no multiple of four is not accepted, nor one whose
last character before the padding says more than the bytes need.

## Main definitions

* `Base64.encode`: The text of some bytes.
* `Base64.decode?`: The bytes of a text.
-/

namespace StorageGauges

namespace Base64

/-- The character of six bits. -/
def character (n : Nat) : Char :=
  if n < 26 then Char.ofNat (65 + n)
  else if n < 52 then Char.ofNat (71 + n)
  else if n < 62 then Char.ofNat (n - 4)
  else if n = 62 then '+'
  else '/'

/-- The six bits of a character. -/
def value? (c : Char) : Option Nat :=
  let n := c.toNat
  if 65 ≤ n ∧ n ≤ 90 then some (n - 65)
  else if 97 ≤ n ∧ n ≤ 122 then some (n - 71)
  else if 48 ≤ n ∧ n ≤ 57 then some (n + 4)
  else if c = '+' then some 62
  else if c = '/' then some 63
  else none

/-- The text of some bytes, padded to a multiple of four. -/
def encode : List UInt8 → List Char
  | a :: b :: c :: rest =>
    let n := (a.toNat * 256 + b.toNat) * 256 + c.toNat
    character (n / 262144) :: character (n / 4096 % 64) :: character (n / 64 % 64)
      :: character (n % 64) :: encode rest
  | [a, b] =>
    let n := a.toNat * 256 + b.toNat
    [character (n / 1024), character (n / 16 % 64), character (n % 16 * 4), '=']
  | [a] => [character (a.toNat / 4), character (a.toNat % 4 * 16), '=', '=']
  | [] => []

/-- The bytes of four characters with one padding or none. -/
def group? (a b c : Nat) (d : Option Nat) : Option (List UInt8) :=
  let n := (a * 64 + b) * 64 + c
  match d with
  | some d =>
    let m := n * 64 + d
    some [UInt8.ofNat (m / 65536), UInt8.ofNat (m / 256 % 256), UInt8.ofNat (m % 256)]
  | none =>
    if n % 4 = 0 then some [UInt8.ofNat (n / 1024), UInt8.ofNat (n / 4 % 256)] else none

/-- The bytes of a text. -/
def decode? : List Char → Option (List UInt8)
  | [] => some []
  | [a, b, '=', '='] => do
    let n := (← value? a) * 64 + (← value? b)
    if n % 16 = 0 then some [UInt8.ofNat (n / 16)] else none
  | [a, b, c, '='] => do
    group? (← value? a) (← value? b) (← value? c) none
  | a :: b :: c :: d :: rest => do
    let first ← group? (← value? a) (← value? b) (← value? c) (some (← value? d))
    some (first ++ (← decode? rest))
  | _ => none

end Base64

end StorageGauges
