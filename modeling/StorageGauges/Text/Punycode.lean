/-!
# Punycode

The form that RFC 3492 gives a label of a host name with letters outside
ASCII: the ASCII letters first, then for every other letter, in order of code
points, how far it is from the one before. The distances are numbers of
digits without separators, for which the weight of each digit adapts to the
size of the distances so far.

## Main definitions

* `Punycode.adapt`: How the weights follow the distances.
* `Punycode.number`: The digits of a distance.
* `Punycode.encode`: A label.
-/

namespace StorageGauges

namespace Punycode

/-- The character of a digit below 36. -/
def digit (n : Nat) : Char :=
  if n < 26 then Char.ofNat (97 + n) else Char.ofNat (22 + n)

/-- The least value at which a digit ends its number. -/
def threshold (k bias : Nat) : Nat :=
  if k ≤ bias then 1 else if bias + 26 ≤ k then 26 else k - bias

theorem threshold_pos (k bias : Nat) : 1 ≤ threshold k bias := by
  unfold threshold
  split
  · omega
  · split <;> omega

/-- Divides a distance until it is small, counting the divisions. -/
def shrink (delta k : Nat) : Nat :=
  if 455 < delta then shrink (delta / 35) (k + 36) else k + 36 * delta / (delta + 38)
termination_by delta
decreasing_by exact Nat.div_lt_self (by omega) (by omega)

/-- The bias after a distance, given how many letters there are by then. -/
def adapt (delta count : Nat) (first : Bool) : Nat :=
  let delta := if first then delta / 700 else delta / 2
  shrink (delta + delta / count) 0

/-- The digits of a distance. -/
def number (bias k q : Nat) : List Char :=
  let t := threshold k bias
  if q < t then [digit q]
  else digit (t + (q - t) % (36 - t)) :: number bias (k + 36) ((q - t) / (36 - t))
termination_by q
decreasing_by
  have hpos := threshold_pos k bias
  calc (q - threshold k bias) / (36 - threshold k bias)
      ≤ q - threshold k bias := Nat.div_le_self _ _
    _ < q := by omega

/-- What has been written, and where the next distance counts from. -/
structure State where
  written : List Char
  handled : Nat
  delta : Nat
  bias : Nat

/-- A letter of the label, when the letters with code `n` are being written. -/
def step (basic n : Nat) (s : State) (c : Char) : State :=
  if c.toNat < n then { s with delta := s.delta + 1 }
  else if c.toNat = n then
    { written := s.written ++ number s.bias 36 s.delta
      handled := s.handled + 1
      delta := 0
      bias := adapt s.delta (s.handled + 1) (s.handled = basic) }
  else s

/-- Writes the letters with the given codes, which ascend. -/
def encodeFrom (label : List Char) (basic : Nat) : List Nat → Nat → State → State
  | [], _, s => s
  | n :: rest, last, s =>
    let s := { s with delta := s.delta + (n - last) * (s.handled + 1) }
    let s := label.foldl (step basic n) s
    encodeFrom label basic rest (n + 1) { s with delta := s.delta + 1 }

/-- Numbers in order, each once. -/
def ascending (ns : List Nat) : List Nat :=
  (ns.mergeSort (· ≤ ·)).eraseReps

/-- A label with letters outside ASCII. -/
def encode (label : List Char) : List Char :=
  let ascii := label.filter fun c => c.toNat < 0x80
  let others := ascending ((label.filter fun c => 0x80 ≤ c.toNat).map Char.toNat)
  let start := if ascii.isEmpty then [] else ascii ++ ['-']
  let final := encodeFrom label ascii.length others 0x80
    { written := start, handled := ascii.length, delta := 0, bias := 72 }
  final.written

end Punycode

end StorageGauges
