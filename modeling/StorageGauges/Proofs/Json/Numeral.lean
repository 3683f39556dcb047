import StorageGauges.Json.Token

/-!
# How Numbers Are Written

A JSON number is an optional minus sign, digits that do not begin with a
needless zero, and, if there are any, digits behind a point and a power of ten.
Every way to write a number is a `Numeral` here, and what it is a number of is
told without reading it.

The reader takes the whole numeral and nothing more, as long as what follows
could not go on with it. In a document a number is followed by a blank, a comma
or a bracket, or by nothing.

## Main definitions

* `Json.Digits`: One digit or more.
* `Json.Numeral`: A way to write a number.
* `Json.Numeral.bytes`: How it is written.
* `Json.Numeral.number`: What it stands for.
* `Json.EndsNumber`: What follows does not go on with a number.

## Theorems

* `Json.takeDigits_append`, `Json.takeWhole?_append`,
  `Json.takeFraction?_append`, `Json.takePower?_append`: Its parts are read.
* `Json.takeNumber?_append`: A numeral is read as what it stands for.
-/

namespace StorageGauges

namespace Json

/-- A decimal digit as it is written. -/
def digitByte (d : Fin 10) : UInt8 :=
  UInt8.ofNat (48 + d.val)

/-- One decimal digit or more. -/
structure Digits where
  list : List (Fin 10)
  ne_nil : list ≠ []

namespace Digits

/-- The digits as numbers. -/
def values (ds : Digits) : List Nat :=
  ds.list.map Fin.val

/-- The digits as they are written. -/
def bytes (ds : Digits) : List UInt8 :=
  ds.list.map digitByte

end Digits

/-- A power of ten: a small or a capital letter, a sign if there is one, which
    is a minus or a plus, and digits. -/
structure Power where
  capital : Bool
  minus : Option Bool
  digits : Digits

namespace Power

/-- The sign as it is written. -/
def signBytes : Option Bool → List UInt8
  | none => []
  | some true => [0x2D]
  | some false => [0x2B]

/-- A power of ten as it is written. -/
def bytes (p : Power) : List UInt8 :=
  (if p.capital then 0x45 else 0x65) :: (signBytes p.minus ++ p.digits.bytes)

/-- The exponent. -/
def exponent (p : Power) : Int :=
  if p.minus = some true then -(Decimal.ofDigits p.digits.values : Int)
  else Decimal.ofDigits p.digits.values

end Power

/-- A way to write a number. The part before the point is a zero alone or does
    not begin with one. -/
structure Numeral where
  negative : Bool
  whole : Digits
  no_leading_zero : whole.list = [0] ∨ whole.list.head? ≠ some 0
  fraction : Option Digits
  power : Option Power

namespace Numeral

/-- The sign of a number as it is written. -/
def signBytes (negative : Bool) : List UInt8 :=
  if negative then [0x2D] else []

/-- The part behind the point as it is written. -/
def fractionBytes : Option Digits → List UInt8
  | none => []
  | some ds => 0x2E :: ds.bytes

/-- The power of ten as it is written, if there is one. -/
def powerBytes : Option Power → List UInt8
  | none => []
  | some p => p.bytes

/-- A number as it is written. -/
def bytes (n : Numeral) : List UInt8 :=
  signBytes n.negative ++ (n.whole.bytes ++ (fractionBytes n.fraction ++ powerBytes n.power))

/-- The digits behind the point. -/
def places (n : Numeral) : List Nat :=
  (n.fraction.map Digits.values).getD []

/-- What a numeral stands for. -/
def number (n : Numeral) : Number :=
  { negative := n.negative
    whole := n.whole.values
    fraction := n.places
    power := n.power.map Power.exponent }

end Numeral

/-- A byte that is a decimal digit. -/
def IsDigit (b : UInt8) : Prop :=
  48 ≤ b.toNat ∧ b.toNat ≤ 57

instance (b : UInt8) : Decidable (IsDigit b) :=
  inferInstanceAs (Decidable (_ ∧ _))

/-- What follows does not go on with digits. -/
def EndsDigits (s : List UInt8) : Prop :=
  ∀ b, s.head? = some b → ¬ IsDigit b

/-- What follows does not go on with a number. -/
def EndsNumber (s : List UInt8) : Prop :=
  ∀ b, s.head? = some b → ¬ IsDigit b ∧ b ≠ 0x2E ∧ b ≠ 0x65 ∧ b ≠ 0x45

theorem EndsNumber.endsDigits {s : List UInt8} (h : EndsNumber s) : EndsDigits s :=
  fun b hb => (h b hb).1

theorem endsDigits_cons {b : UInt8} (s : List UInt8) (h : ¬ IsDigit b) : EndsDigits (b :: s) := by
  intro c hc
  cases hc
  exact h

theorem toNat_digitByte (d : Fin 10) : (digitByte d).toNat = 48 + d.val := by
  have hd := d.isLt
  exact UInt8.toNat_ofNat_of_lt' (show 48 + d.val < 256 by omega)

theorem isDigit_digitByte (d : Fin 10) : IsDigit (digitByte d) := by
  have hd := d.isLt
  rw [IsDigit, toNat_digitByte]
  omega

theorem Digits.bytes_eq_cons (ds : Digits) :
    ∃ d rest, ds.list = d :: rest ∧ ds.bytes = digitByte d :: rest.map digitByte := by
  rcases List.exists_cons_of_ne_nil ds.ne_nil with ⟨d, rest, hlist⟩
  exact ⟨d, rest, hlist, by rw [bytes, hlist, List.map_cons]⟩

/-- The digits of a number are taken up to the first byte that is none. -/
theorem takeDigits_append (ds : List (Fin 10)) (rest : List UInt8) (h : EndsDigits rest) :
    takeDigits (ds.map digitByte ++ rest) = (ds.map Fin.val, rest) := by
  induction ds with
  | nil =>
      cases rest with
      | nil => rfl
      | cons b rest =>
          have hb : ¬ (48 ≤ b.toNat ∧ b.toNat ≤ 57) := h b rfl
          rw [List.map_nil, List.nil_append, takeDigits, if_neg hb]
          rfl
  | cons d ds ih =>
      have hd : 48 ≤ (digitByte d).toNat ∧ (digitByte d).toNat ≤ 57 := isDigit_digitByte d
      rw [List.map_cons, List.cons_append, takeDigits, if_pos hd, ih, toNat_digitByte,
        Nat.add_sub_cancel_left]
      rfl

/-- The digits that a reader takes are as many as are written, so there is at
    least one. -/
theorem takeDigits_bytes (ds : Digits) (rest : List UInt8) (h : EndsDigits rest) :
    ∃ d values, ds.values = d :: values ∧ takeDigits (ds.bytes ++ rest) = (d :: values, rest) := by
  rcases ds.bytes_eq_cons with ⟨d, tail, hlist, -⟩
  refine ⟨d.val, tail.map Fin.val, by rw [Digits.values, hlist, List.map_cons], ?_⟩
  rw [Digits.bytes, takeDigits_append ds.list rest h, hlist, List.map_cons]

/-- A whole part is taken to its end, since a zero in front is all of it. -/
theorem takeWhole?_append (ds : Digits) (rest : List UInt8) (hrest : EndsDigits rest)
    (hzero : ds.list = [0] ∨ ds.list.head? ≠ some 0) :
    takeWhole? (ds.bytes ++ rest) = some (ds.values, rest) := by
  rcases ds.bytes_eq_cons with ⟨d, tail, hlist, hbytes⟩
  rcases hzero with hzero | hzero
  · -- A zero stands alone, whatever follows.
    have hzeroBytes : ds.bytes = [0x30] := by
      rw [Digits.bytes, hzero]
      rfl
    rw [hzeroBytes, Digits.values, hzero]
    rfl
  · rcases takeDigits_bytes ds rest hrest with ⟨v, values, hvalues, htake⟩
    -- The branch for a zero would make the first digit a zero.
    unfold takeWhole?
    split
    · rename_i front heq
      rw [hbytes, List.cons_append] at heq
      have hd := toNat_digitByte d
      rw [(List.cons.inj heq).1] at hd
      have hd : d = 0 := Fin.ext (Nat.add_left_cancel (n := 48) hd.symm)
      rw [hlist, hd] at hzero
      exact absurd rfl hzero
    · rw [htake, hvalues]

/-- A part behind the point is taken to its end, and none is taken where there is no
    point. -/
theorem takeFraction?_append (fraction : Option Digits) (rest : List UInt8)
    (hrest : EndsDigits rest) (hpoint : rest.head? ≠ some 0x2E) :
    takeFraction? (Numeral.fractionBytes fraction ++ rest) =
      some (fraction.map Digits.values, rest) := by
  cases fraction with
  | none =>
      rw [Numeral.fractionBytes, List.nil_append]
      unfold takeFraction?
      -- The reader looks for a point, and what follows begins with none.
      split
      · exact absurd rfl hpoint
      · rfl
  | some ds =>
      rcases takeDigits_bytes ds rest hrest with ⟨d, values, hvalues, htake⟩
      rw [Numeral.fractionBytes, List.cons_append, takeFraction?, htake, Option.map_some, hvalues]

/-- A sign in front of digits is taken, and nothing else is. -/
theorem takePowerSign_append (minus : Option Bool) (ds : Digits) (rest : List UInt8) :
    takePowerSign (Power.signBytes minus ++ (ds.bytes ++ rest)) =
      (minus == some true, ds.bytes ++ rest) := by
  rcases minus with _ | _ | _
  · rcases ds.bytes_eq_cons with ⟨d, tail, -, hbytes⟩
    rw [Power.signBytes, List.nil_append, hbytes, List.cons_append]
    -- A digit is no sign.
    have hd := isDigit_digitByte d
    unfold takePowerSign
    split
    · rename_i front heq
      rw [(List.cons.inj heq).1] at hd
      exact absurd hd (by decide)
    · rename_i front heq
      rw [(List.cons.inj heq).1] at hd
      exact absurd hd (by decide)
    · rfl
  · rfl
  · rfl

/-- A power of ten is taken to its end, and none is taken where there is no letter
    for it. -/
theorem takePower?_append (power : Option Power) (rest : List UInt8) (hrest : EndsNumber rest) :
    takePower? (Numeral.powerBytes power ++ rest) = some (power.map Power.exponent, rest) := by
  cases power with
  | none =>
      rw [Numeral.powerBytes, List.nil_append]
      unfold takePower?
      split
      · rename_i e tail
        -- The letter is in front of what ends the number, which excludes both forms.
        have he := hrest e rfl
        rw [if_neg (not_or_intro he.2.2.1 he.2.2.2)]
        rfl
      · rfl
  | some p =>
      rcases takeDigits_bytes p.digits rest hrest.endsDigits with ⟨d, values, hvalues, htake⟩
      have hletter : (if p.capital = true then 0x45 else 0x65 : UInt8) = 0x65 ∨
          (if p.capital = true then 0x45 else 0x65 : UInt8) = 0x45 := by
        cases p.capital <;> simp
      rw [Numeral.powerBytes, Power.bytes, List.cons_append, List.append_assoc, takePower?,
        if_pos hletter, takePowerSign_append]
      simp only [htake, Option.map_some, Power.exponent, hvalues, beq_iff_eq]

/-- Neither a point nor the letter of a power goes on with the digits before
    it. -/
theorem endsDigits_powerBytes (power : Option Power) (rest : List UInt8) (hrest : EndsNumber rest) :
    EndsDigits (Numeral.powerBytes power ++ rest) := by
  cases power with
  | none => exact hrest.endsDigits
  | some p =>
      refine endsDigits_cons _ ?_
      cases p.capital <;> decide

/-- No point stands in front of the power of ten. -/
theorem head?_powerBytes (power : Option Power) (rest : List UInt8) (hrest : EndsNumber rest) :
    (Numeral.powerBytes power ++ rest).head? ≠ some 0x2E := by
  cases power with
  | none => exact fun hhead => (hrest 0x2E hhead).2.1 rfl
  | some p =>
      rw [Numeral.powerBytes, Power.bytes]
      cases p.capital <;> simp

/-- The whole part ends at a point, at the letter of a power or where the number
    ends. -/
theorem endsDigits_fractionBytes (fraction : Option Digits) (power : Option Power)
    (rest : List UInt8) (hrest : EndsNumber rest) :
    EndsDigits (Numeral.fractionBytes fraction ++ (Numeral.powerBytes power ++ rest)) := by
  cases fraction with
  | none => exact endsDigits_powerBytes power rest hrest
  | some ds => exact endsDigits_cons _ (by decide)

/-- A numeral is read as what it stands for, and what follows is left. -/
theorem takeNumber?_append (n : Numeral) (rest : List UInt8) (hrest : EndsNumber rest) :
    takeNumber? (n.bytes ++ rest) = some (n.number, rest) := by
  -- Each part ends where the next one begins, so the readers are applied one after the
  -- other.
  have hwhole := takeWhole?_append n.whole _
    (endsDigits_fractionBytes n.fraction n.power rest hrest) n.no_leading_zero
  have hfraction := takeFraction?_append n.fraction _ (endsDigits_powerBytes n.power rest hrest)
    (head?_powerBytes n.power rest hrest)
  have hpower := takePower?_append n.power rest hrest
  unfold takeNumber? Numeral.bytes Numeral.signBytes
  cases hnegative : n.negative with
  | true =>
      simp only [if_true, List.cons_append, List.nil_append, List.append_assoc, hwhole, hfraction,
        hpower, bind, Option.bind_some, Numeral.number, Numeral.places, hnegative]
  | false =>
      rcases n.whole.bytes_eq_cons with ⟨d, tail, -, hbytes⟩
      have hd := isDigit_digitByte d
      simp only [Bool.false_eq_true, if_false, List.nil_append, List.append_assoc]
      split
      · -- The first byte is a digit and no sign.
        rename_i front heq
        rw [hbytes, List.cons_append] at heq
        rw [(List.cons.inj heq).1] at hd
        exact absurd hd (by decide)
      · simp only [hwhole, hfraction, hpower, bind, Option.bind_some, Numeral.number,
          Numeral.places, hnegative]

end Json

end StorageGauges
