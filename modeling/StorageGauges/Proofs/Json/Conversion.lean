import Mathlib.Algebra.GroupWithZero.Nat
import StorageGauges.Json.Number
import StorageGauges.Proofs.Decimal.Digits

/-!
# Which Double a Number Is

What a number is as a double is told here without reading it. Some of its digits
count, and they are as many as fit into 64 bits, from the left before the point
and then again from the left behind it. There is one way to split a number so
(`Split`), and everything else is arithmetic: the digits that count are a number,
rounded to a double, and that is multiplied or divided by a power of ten
(`Scales`), and rounded again.

Neither rounding is of any account if the number has few digits and its power of
ten is small. Then the digits are a double themselves, the power is one too, and
only their product or quotient is rounded. That is the double nearest to the
number.

## Main definitions

* `Json.Number.Split`: Which digits of a number count.
* `Json.Number.Scales`: A double times a power of ten.
* `Json.Number.Converts`: A double is what a number is read as.

## Theorems

* `Json.Number.fill_of_full`, `Json.Number.exists_full`: As many digits as fit.
* `Json.Number.scale?_eq_some_iff`: What scaling comes to.
* `Json.Number.float?_eq_some_iff`: A number is read as the double that it is.
* `Json.Number.eq_toFloat_of_float?`: It is the nearest one if there are few
  digits.
-/

namespace StorageGauges

namespace Json

namespace Number

/-- The digits of a number that count, and those behind them. All that count fit,
    and with the next one they would not. -/
structure Split (n : Number) where
  whole : List Nat
  wholeRest : List Nat
  fraction : List Nat
  fractionRest : List Nat
  whole_eq : n.whole = whole ++ wholeRest
  fraction_eq : n.fraction = fraction ++ fractionRest
  fits : Decimal.ofDigits (whole ++ fraction) < UInt64.size
  whole_full : ∀ d, wholeRest.head? = some d → UInt64.size ≤ Decimal.ofDigits (whole ++ [d])
  fraction_full : ∀ d, fractionRest.head? = some d →
    UInt64.size ≤ Decimal.ofDigits (whole ++ fraction ++ [d])

namespace Split

variable {n : Number} (s : n.Split)

/-- What the digits that count come to. -/
def digits : Nat :=
  Decimal.ofDigits (s.whole ++ s.fraction)

/-- The power of ten that they have by their place: digits before the point that
    do not count raise it, and digits behind it that do lower it. -/
def start : Int :=
  counted (s.wholeRest.length - s.fraction.length)

/-- All digits behind the point count, but a counter of 32 bits shows none. -/
def Miscounted : Prop :=
  n.fraction ≠ [] ∧ s.fractionRest = [] ∧ counted s.fraction.length = 0

end Split

/-- A double times a power of ten. No power above `10 ^ 308` is a double, so by a
    smaller one than `10 ^ (-308)` a double is divided more than once. -/
inductive Scales : Float → Int → Float → Prop
  | multiplied {x : Float} {e : Int} (hlow : 0 ≤ e) (hhigh : e ≤ 308)
      (hfinite : (x * powerOfTen e.natAbs).isInf = false) : Scales x e (x * powerOfTen e.natAbs)
  | divided {x : Float} {e : Int} (hlow : -308 ≤ e) (hhigh : e < 0) :
      Scales x e (x / powerOfTen e.natAbs)
  | nothing {x : Float} {e : Int} (hbeyond : 308 < e.natAbs) (hzero : (x == 0.0) = true) :
      Scales x e x
  | again {x y : Float} {e : Int} (hlow : e < -308) (hsome : (x == 0.0) = false)
      (h : Scales (x / powerOfTen 308) (e + 308) y) : Scales x e y

/-- A double is the number without its sign. -/
inductive Split.Scaled {n : Number} (s : n.Split) : Float → Prop
  | plain {x : Float} (hpower : n.power = none)
      (h : Scales (UInt64.ofNat s.digits).toFloat s.start x) : s.Scaled x
  | powered {x : Float} {p : Int} (hpower : n.power = some p) (hp : p.natAbs ≤ mostCount)
      (h : Scales (UInt64.ofNat s.digits).toFloat (exponent s.start p) x) : s.Scaled x
  | vanished {p : Int} (hpower : n.power = some p) (hp : mostCount < p.natAbs)
      (h : p ≤ 0 ∨ s.digits = 0) : s.Scaled 0.0

/-- A double is what a number is read as. -/
def Converts (n : Number) (x : Float) : Prop :=
  ∃ s : n.Split, ¬ s.Miscounted ∧ ∃ y, s.Scaled y ∧ x = if n.negative then -y else y

/-! ## Digits -/

/-- More digits do not make a number smaller. -/
theorem ofDigits_le_append (ds es : List Nat) :
    Decimal.ofDigits ds ≤ Decimal.ofDigits (ds ++ es) := by
  induction es generalizing ds with
  | nil => exact Nat.le_of_eq (by rw [List.append_nil])
  | cons e es ih =>
      have hlater := ih (ds ++ [e])
      rw [Decimal.ofDigits_concat] at hlater
      rw [List.append_cons]
      omega

/-- The digits that fit are put behind those before, as long as they are followed
    by none or one that does not. -/
theorem fill_of_full {before taken rest : List Nat}
    (hfits : Decimal.ofDigits (before ++ taken) < UInt64.size)
    (hfull : ∀ d, rest.head? = some d → UInt64.size ≤ Decimal.ofDigits (before ++ taken ++ [d])) :
    fill (Decimal.ofDigits before) (taken ++ rest) =
      (Decimal.ofDigits (before ++ taken), rest) := by
  induction taken generalizing before with
  | nil =>
      rw [List.append_nil] at hfull ⊢
      cases rest with
      | nil => rfl
      | cons d rest =>
          have hd := hfull d rfl
          rw [Decimal.ofDigits_concat] at hd
          rw [List.nil_append, fill, if_neg (Nat.not_lt.mpr hd)]
  | cons d taken ih =>
      rw [List.append_cons] at hfits hfull ⊢
      -- What fits with the digits behind it fits without them.
      have hd := Nat.lt_of_le_of_lt (ofDigits_le_append (before ++ [d]) taken) hfits
      rw [Decimal.ofDigits_concat] at hd
      rw [List.cons_append, fill, if_pos hd, ← Decimal.ofDigits_concat]
      exact ih hfits hfull

/-- Some digits fit, and with the next one they do not. -/
theorem exists_full (before ds : List Nat) (hfits : Decimal.ofDigits before < UInt64.size) :
    ∃ taken rest, ds = taken ++ rest ∧ Decimal.ofDigits (before ++ taken) < UInt64.size ∧
      ∀ d, rest.head? = some d → UInt64.size ≤ Decimal.ofDigits (before ++ taken ++ [d]) := by
  induction ds generalizing before with
  | nil => exact ⟨[], [], rfl, by rwa [List.append_nil], fun d hd => absurd hd (by simp)⟩
  | cons d ds ih =>
      -- The first digit fits or does not, and with it stands whether any is taken.
      by_cases hd : Decimal.ofDigits (before ++ [d]) < UInt64.size
      · rcases ih (before ++ [d]) hd with ⟨taken, rest, hds, htaken, hrest⟩
        rw [← List.append_cons] at htaken hrest
        exact ⟨d :: taken, rest, by rw [hds, List.cons_append], htaken, hrest⟩
      · refine ⟨[], d :: ds, rfl, by rwa [List.append_nil], fun c hc => ?_⟩
        cases hc
        rw [List.append_nil]
        exact Nat.not_lt.mp hd

/-- There is a way to split a number. -/
theorem nonempty_split (n : Number) : Nonempty n.Split := by
  rcases exists_full [] n.whole (by decide) with ⟨whole, wholeRest, hwhole, hfits, hfull⟩
  rw [List.nil_append] at hfits hfull
  rcases exists_full whole n.fraction hfits with
    ⟨fraction, fractionRest, hfraction, hfits', hfull'⟩
  exact ⟨⟨whole, wholeRest, fraction, fractionRest, hwhole, hfraction, hfits', hfull, hfull'⟩⟩

namespace Split

variable {n : Number} (s : n.Split)

/-- The reader fills up with the digits before the point that a split counts. -/
theorem wholeFill_eq : n.wholeFill = (Decimal.ofDigits s.whole, s.wholeRest) := by
  have hfits := Nat.lt_of_le_of_lt (ofDigits_le_append s.whole s.fraction) s.fits
  have hfill : fill (Decimal.ofDigits []) (s.whole ++ s.wholeRest) =
      (Decimal.ofDigits ([] ++ s.whole), s.wholeRest) := fill_of_full hfits s.whole_full
  rw [wholeFill, s.whole_eq]
  exact hfill

/-- It goes on with those behind the point. -/
theorem digitFill_eq : n.digitFill = (s.digits, s.fractionRest) := by
  rw [digitFill, s.wholeFill_eq, s.fraction_eq]
  exact fill_of_full s.fits s.fraction_full

/-- The places that lower the power of ten are the digits behind the point that
    count. -/
theorem places_eq : n.places = s.fraction.length := by
  rw [places, s.digitFill_eq, s.fraction_eq, List.length_append, Nat.add_sub_cancel]

/-- The reader begins with the power of ten of the split. -/
theorem start_eq : n.start = s.start := by
  rw [Number.start, s.wholeFill_eq, s.places_eq, start]

theorem countsNoPlace_iff : n.countsNoPlace = true ↔ s.Miscounted := by
  simp only [countsNoPlace, s.digitFill_eq, s.places_eq, Miscounted, Bool.and_eq_true,
    Bool.not_eq_true', List.isEmpty_eq_false_iff, List.isEmpty_iff, beq_iff_eq, and_assoc]

end Split

/-! ## Powers of ten -/

/-- Dividing by a power of ten is scaling by its inverse. -/
theorem scales_divide (x : Float) {k : Nat} (hpos : 0 < k) : Scales x (-k) (divide x k) := by
  -- The induction follows the division, and each turn of it is one by `10 ^ 308`.
  induction x, k using divide.induct with
  | case1 x k hk =>
      have hdivided := Scales.divided (x := x) (e := -k) (by omega) (by omega)
      rw [Int.natAbs_neg, Int.natAbs_natCast] at hdivided
      rwa [divide, if_pos hk]
  | case2 x k hk hzero =>
      rw [divide, if_neg hk, if_pos hzero]
      exact .nothing (by omega) hzero
  | case3 x k hk hsome ih =>
      have hless : -(k : Int) + 308 = -((k - 308 : Nat) : Int) := by omega
      rw [divide, if_neg hk, if_neg hsome]
      refine .again (by omega) (Bool.eq_false_iff.mpr hsome) ?_
      rw [hless]
      exact ih (by omega)

/-- A product counts if the power is a double and the product is finite; zero stays
    zero. -/
theorem multiply?_eq_some_iff {x y : Float} {k : Nat} :
    multiply? x k = some y ↔
      k ≤ 308 ∧ (x * powerOfTen k).isInf = false ∧ y = x * powerOfTen k ∨
        308 < k ∧ (x == 0.0) = true ∧ y = x := by
  unfold multiply?
  by_cases hk : k ≤ 308
  · have hbeyond : ¬ 308 < k := Nat.not_lt.mpr hk
    cases hinf : (x * powerOfTen k).isInf <;>
      simp only [hk, hinf, hbeyond, if_true, if_false, true_and, false_and, or_false,
        Option.some.injEq, reduceCtorEq, Bool.false_eq_true, eq_comm (a := y)]
  · have hbeyond : 308 < k := Nat.not_le.mp hk
    cases hzero : x == 0.0 <;>
      simp only [hk, hbeyond, if_true, if_false, true_and, false_and, false_or,
        Option.some.injEq, reduceCtorEq, Bool.false_eq_true, eq_comm (a := y)]

/-- Scaling gives what a double times a power of ten is. -/
theorem scale?_eq_some_iff {x y : Float} {e : Int} : scale? x e = some y ↔ Scales x e y := by
  constructor
  · intro h
    unfold scale? at h
    by_cases he : 0 ≤ e
    · rw [if_pos he, multiply?_eq_some_iff] at h
      rcases h with ⟨hk, hfinite, rfl⟩ | ⟨hk, hzero, rfl⟩
      · exact .multiplied he (by omega) hfinite
      · exact .nothing hk hzero
    · rw [if_neg he, Option.some.injEq] at h
      -- The exponent is negative, so it is minus its own absolute value.
      have hscales := scales_divide x (k := e.natAbs) (by omega)
      rwa [show -(e.natAbs : Int) = e by omega, h] at hscales
  · intro h
    unfold scale?
    induction h with
    | multiplied hlow hhigh hfinite =>
        rw [if_pos hlow]
        exact multiply?_eq_some_iff.mpr (.inl ⟨by omega, hfinite, rfl⟩)
    | @divided x e hlow hhigh =>
        have hk : e.natAbs ≤ 308 := by omega
        rw [if_neg (Int.not_le.mpr hhigh), divide, if_pos hk]
    | @nothing x e hbeyond hzero =>
        have hk : ¬ e.natAbs ≤ 308 := Nat.not_le.mpr hbeyond
        -- Zero is left as it is on both paths.
        split
        · exact multiply?_eq_some_iff.mpr (.inr ⟨hbeyond, hzero, rfl⟩)
        · rw [divide, if_neg hk, if_pos hzero]
    | @again x y e hlow hsome _ ih =>
        have hk : ¬ e.natAbs ≤ 308 := by omega
        have hless : e.natAbs - 308 = (e + 308).natAbs := by omega
        rw [if_neg (by omega), Option.some.injEq] at ih ⊢
        rw [divide, if_neg hk, if_neg (Bool.eq_false_iff.mp hsome), hless]
        exact ih

/-! ## Numbers -/

/-- A double is read as the magnitude of a number exactly if a split scales to it. -/
theorem Split.magnitude?_eq_some_iff {n : Number} (s : n.Split) {x : Float} :
    n.magnitude? = some x ↔ s.Scaled x := by
  unfold magnitude?
  rw [s.digitFill_eq, s.start_eq]
  constructor
  · intro h
    cases hpower : n.power with
    | none =>
        rw [hpower] at h
        exact .plain hpower (scale?_eq_some_iff.mp h)
    | some p =>
        simp only [hpower] at h
        split at h
        · rename_i hp
          exact .powered hpower hp (scale?_eq_some_iff.mp h)
        · rename_i hp
          split at h
          · exact absurd h (by simp)
          · -- What is left of the test says that the number vanishes.
            rename_i hsome
            cases h
            exact .vanished hpower (Int.not_le.mp hp) (by omega)
  · intro h
    cases h with
    | plain hpower h =>
        rw [hpower]
        exact scale?_eq_some_iff.mpr h
    | powered hpower hp h =>
        simp only [hpower, if_pos hp]
        exact scale?_eq_some_iff.mpr h
    | vanished hpower hp h =>
        simp only [hpower]
        rw [if_neg (Int.not_le.mpr hp), if_neg (by omega)]

/-- The sign is put in front of the magnitude, unless a place was miscounted. -/
theorem Split.float?_eq_some_iff {n : Number} (s : n.Split) {x : Float} :
    n.float? = some x ↔
      ¬ s.Miscounted ∧ ∃ y, s.Scaled y ∧ x = if n.negative then -y else y := by
  unfold float?
  rw [← s.countsNoPlace_iff]
  split
  · rename_i hnone
    simp only [hnone, reduceCtorEq, not_true_eq_false, false_and]
  · rename_i hsome
    simp only [hsome, Option.map_eq_some_iff, s.magnitude?_eq_some_iff, eq_comm (a := x),
      Bool.false_eq_true, not_false_eq_true, true_and]

/-- A number is read as the double that it is. -/
theorem float?_eq_some_iff {n : Number} {x : Float} : n.float? = some x ↔ n.Converts x := by
  constructor
  · intro h
    rcases n.nonempty_split with ⟨s⟩
    exact ⟨s, s.float?_eq_some_iff.mp h⟩
  · rintro ⟨s, hs⟩
    exact s.float?_eq_some_iff.mpr hs

/-- The double that a number is read as need not be the nearest one, which here is
    the one that is written with the same digits. -/
example : (⟨false, [5, 1], [1, 9, 9, 9, 9, 9, 9, 9, 9, 9, 9, 9, 9, 9, 6], none⟩ : Number).float? =
    some 51.2 ∧ (51.199999999999996 : Float) ≠ 51.2 := by
  decide +kernel

/-! ## The nearest double -/

/-- A number below a power of ten has no more digits than the power has zeros. -/
theorem length_digitsOf_le {n k : Nat} (hk : 0 < k) (hn : n < 10 ^ k) :
    (Decimal.digitsOf n).length ≤ k := by
  induction n using Decimal.digitsOf.induct generalizing k with
  | case1 n hsmall =>
      rw [Decimal.digitsOf, if_pos hsmall]
      exact hk
  | case2 n hlarge ih =>
      -- There is more than one digit, so the power has more than one zero.
      obtain ⟨k, rfl⟩ : ∃ j, k = j + 1 := ⟨k - 1, by omega⟩
      have htens : n / 10 < 10 ^ k := by
        rw [Nat.pow_succ] at hn
        omega
      have hpos : 0 < k := by
        rcases Nat.eq_zero_or_pos k with rfl | hpos
        · omega
        · exact hpos
      rw [Decimal.digitsOf, if_neg hlarge, List.length_append, List.length_singleton]
      exact Nat.succ_le_succ (ih hpos htens)

/-- The powers of ten below `10 ^ 23` are doubles themselves. -/
theorem powerOfTen_eq (k : Fin 23) :
    powerOfTen k.val = Float.exactlyRepresentablePowersOfTen[k] := by
  revert k
  decide +kernel

/-- A decimal of few digits and a small power of ten is nearest to what one
    multiplication or one division gives. -/
theorem magnitude_of_few {m : Nat} {e : Int} (hm : m < 2 ^ 53) (he : e.natAbs ≤ 22) :
    Decimal.magnitude m e =
      if e < 0 then (UInt64.ofNat m).toFloat / powerOfTen e.natAbs
      else (UInt64.ofNat m).toFloat * powerOfTen e.natAbs := by
  have hzero : ∀ k : Fin 23, (UInt64.ofNat 0).toFloat / powerOfTen k.val = 0.0 ∧
      (UInt64.ofNat 0).toFloat * powerOfTen k.val = 0.0 := by decide +kernel
  have hsize : (Decimal.digitsOf m).length ≤ 16 :=
    length_digitsOf_le (by decide) (Nat.lt_trans hm (by decide))
  unfold Decimal.magnitude
  dsimp only
  split
  · rename_i hnone
    rcases hzero ⟨e.natAbs, by omega⟩ with ⟨hdivided, hmultiplied⟩
    rw [hnone]
    split
    · exact hdivided.symm
    · exact hmultiplied.symm
  · have hpower := powerOfTen_eq ⟨e.natAbs, by omega⟩
    rw [if_neg (by omega), if_neg (by omega), hpower]
    split
    · -- The library divides and multiplies within these bounds, too.
      rw [Float.ofScientific, dif_pos ⟨hm, he⟩]
      rfl
    · rw [Float.ofScientific, dif_pos ⟨hm, he⟩]
      rfl

/-- One step of scaling is the magnitude within the bounds of a double. -/
theorem eq_magnitude_of_scales {m : Nat} {e : Int} {x : Float} (hm : m < 2 ^ 53)
    (he : e.natAbs ≤ 22) (h : Scales (UInt64.ofNat m).toFloat e x) :
    x = Decimal.magnitude m e := by
  rw [magnitude_of_few hm he]
  -- The other ways to scale are for larger powers of ten.
  cases h with
  | multiplied hlow => rw [if_neg (by omega)]
  | divided _ hhigh => rw [if_pos hhigh]
  | nothing hbeyond => omega
  | again hlow => omega

/-- A counter of 32 bits shows what fits into it. -/
theorem counted_of_fits {i : Int} (hlow : -2147483648 ≤ i) (hhigh : i ≤ mostCount) :
    counted i = i := by
  rw [mostCount] at hhigh
  exact Int.bmod_eq_of_le (by omega) (by omega)

/-- A number of few digits, whose power of ten is small, is read as the double
    that is nearest to it. -/
theorem eq_toFloat_of_float? {n : Number} {x : Float} (hdigits : n.value.digits < 2 ^ 53)
    (hexponent : n.value.exponent.natAbs ≤ 22) (hplaces : n.fraction.length < 2 ^ 30)
    (h : n.float? = some x) : x = n.value.toFloat := by
  -- All its digits count.
  let s : n.Split :=
    { whole := n.whole
      wholeRest := []
      fraction := n.fraction
      fractionRest := []
      whole_eq := (List.append_nil _).symm
      fraction_eq := (List.append_nil _).symm
      fits := Nat.lt_trans hdigits (by decide)
      whole_full := fun d hd => absurd hd (by simp)
      fraction_full := fun d hd => absurd hd (by simp) }
  rcases (s.float?_eq_some_iff.mp h).2 with ⟨y, hy, rfl⟩
  have hexponent' : n.value.exponent = n.power.getD 0 - n.fraction.length := rfl
  have hstart : s.start = -(n.fraction.length : Int) := by
    show counted (((0 : Nat) : Int) - n.fraction.length) = _
    rw [counted_of_fits (by omega) (by rw [mostCount]; omega)]
    omega
  have hnearest : y = Decimal.magnitude n.value.digits n.value.exponent := by
    cases hy with
    | plain hpower hscales =>
        rw [hpower, Option.getD_none] at hexponent'
        rw [hstart, ← Int.zero_sub, ← hexponent'] at hscales
        exact eq_magnitude_of_scales hdigits hexponent hscales
    | @powered y p hpower hp hscales =>
        rw [hpower, Option.getD_some] at hexponent'
        -- Within these bounds the power of ten is not cut off.
        have hkept : exponent s.start p = n.value.exponent := by
          rw [exponent, hstart, mostCount]
          omega
        rw [hkept] at hscales
        exact eq_magnitude_of_scales hdigits hexponent hscales
    | @vanished p hpower hp =>
        rw [hpower, Option.getD_some] at hexponent'
        -- A power that vanishes is far beyond the bound.
        rw [mostCount] at hp
        omega
  rw [hnearest]
  rfl

end Number

end Json

end StorageGauges
