import StorageGauges.Decimal.Layout
import StorageGauges.Decimal.Reader
import StorageGauges.Duration

/-!
# Setting Values

A setting comes as a text, and the text is taken for what it looks like
before it is known which setting it is for: a truth value, a whole number of
64 bits, a double, or else a text. A setting then converts what it got to its
own type. So a port can be `true`, which is 1, an interval can be `2.5`, which
is 3 seconds, and a text that looks like a number is written anew: `1.10`
becomes `1.1`.

## Main definitions

* `Settings.Value`: What a text looks like.
* `Settings.Value.ofText`: Taking a text for what it looks like.
* `Settings.Value.natural?`, `Settings.Value.truth?`, `Settings.Value.toText`:
  Converting a value.
-/

namespace StorageGauges

namespace Settings

/-- A text in lower case, as far as ASCII letters can come out of it: the
    Kelvin sign is the one other character whose lower case is such a
    letter. -/
def lowered (s : String) : String :=
  String.ofList (s.toList.map fun c => if c = '\u212A' then 'k' else c.toLower)

/-- What the text of a setting looks like. -/
inductive Value
  | truth (b : Bool)
  | whole (n : Int)
  | fraction (x : Float)
  | text (s : String)
deriving Repr

namespace Value

/-- The truth value that a text spells. -/
def truthWord? (s : String) : Option Bool :=
  match lowered s with
  | "true" => some true
  | "false" => some false
  | _ => none

/-- The whole number of 64 bits that a text spells. -/
def whole? (s : String) : Option Int :=
  (Decimal.integer? s.toList).filter fun n =>
    -9223372036854775808 ≤ n && n ≤ 9223372036854775807

/-- Takes a text for what it looks like. -/
def ofText (s : String) : Value :=
  match truthWord? s with
  | some b => .truth b
  | none =>
    match whole? s with
    | some n => .whole n
    | none =>
      match Decimal.readFloat? s.toList with
      | some x => .fraction x
      | none => .text s

/-- The double, rounded to a whole number with halves away from zero, and cut
    to the range of a word; what is no number is 0. -/
def wordOf (x : Float) : Nat :=
  x.round.toUInt64.toNat

/-- Converts to a natural number of a limited size. No text that is still one
    can spell a number, so only the words for yes and no are left. -/
def natural? (greatest : Nat) (v : Value) : Option Nat :=
  let n : Option Nat :=
    match v with
    | .truth b => some (if b then 1 else 0)
    | .whole n => if 0 ≤ n then some n.toNat else none
    | .fraction x => some (wordOf x)
    | .text s =>
      match lowered s with
      | "on" => some 1
      | "yes" => some 1
      | "off" => some 0
      | "no" => some 0
      | _ => none
  n.filter fun n => n ≤ greatest

/-- Converts to a truth value. -/
def truth? : Value → Option Bool
  | .truth b => some b
  | .whole n => some (n != 0)
  | .fraction x => some (x != 0.0)
  | .text s =>
    match lowered s with
    | "on" => some true
    | "yes" => some true
    | "off" => some false
    | "no" => some false
    | _ => none

/-- A whole number in decimal digits. -/
def integerText (n : Int) : String :=
  let digits := String.ofList (Decimal.ofNatText n.natAbs)
  if n < 0 then "-" ++ digits else digits

/-- Converts to a text. -/
def toText : Value → String
  | .truth true => "true"
  | .truth false => "false"
  | .whole n => integerText n
  | .fraction x => Decimal.plain.write x
  | .text s => s

end Value

end Settings

end StorageGauges
