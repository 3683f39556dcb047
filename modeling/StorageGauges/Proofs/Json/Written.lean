import StorageGauges.Json.Printer
import StorageGauges.Proofs.Decimal.Digits
import StorageGauges.Proofs.Json.Document

/-!
# What Is Written Is Read

Whatever document is written, its bytes are one of the texts of a document and
are read as that one. It has the same shape, with the same truth values, the same
members in the same order and strings that stand for the same characters. A byte
below the space that has no short escape comes back as a code unit, and a number
comes back with the digits that were written of it.

## Main definitions

* `Json.Piece.written`, `Json.Number.written`, `Json.written`: What comes back of
  what was written.

## Theorems

* `Json.spelledText_writePiece`: A string is written as what comes back of it.
* `Json.exists_numeral`: A number is written as a numeral.
* `Json.isText_write`: A document is written as a text of what comes back.
* `Json.read?_write`: So that is what is read.
* `Json.means_written`: What comes back of a text stands for it.
-/

namespace StorageGauges

namespace Json

/-! ## Strings -/

/-- The bytes below the space that have a short escape. -/
def shortened : List UInt8 :=
  [0x08, 0x09, 0x0A, 0x0C, 0x0D]

/-- What comes back of a piece of a string. -/
def Piece.written : Piece → Piece
  | .byte b => if b < 0x20 ∧ b ∉ shortened then .unit b.toNat else .byte b
  | .unit n => .unit (n % 65536)

theorem isHexDigit_hexByte (d : Fin 16) : IsHexDigit (hexByte d.val) d := by
  have hall : ∀ d : Fin 16, (hexByte d.val).toNat = (Text.hexDigit d).toNat := by decide
  exact .inl (hall d)

/-- Four digits of a unit give back what fits into them. -/
theorem spelled_writeUnit (n : Nat) : (Piece.unit (n % 65536)).Spelled (writeUnit n) := by
  let digit (m : Nat) : Fin 16 := ⟨m % 16, Nat.mod_lt m (by decide)⟩
  have hspelled : (Piece.unit ((((digit (n / 4096)).val * 16 + (digit (n / 256)).val) * 16 +
      (digit (n / 16)).val) * 16 + (digit n).val)).Spelled (writeUnit n) :=
    .unit _ _ _ _ _ _ _ _ (isHexDigit_hexByte (digit (n / 4096)))
      (isHexDigit_hexByte (digit (n / 256))) (isHexDigit_hexByte (digit (n / 16)))
      (isHexDigit_hexByte (digit n))
  -- The four digits are those to the base sixteen, and what is above them is lost.
  have hvalue : ((n / 4096 % 16 * 16 + n / 256 % 16) * 16 + n / 16 % 16) * 16 + n % 16 =
      n % 65536 := by omega
  rw [← hvalue]
  exact hspelled

/-- A byte comes back as it is if it has a short escape or needs none. -/
theorem Piece.written_byte {b : UInt8} (h : b < 0x20 → b ∈ shortened) :
    (Piece.byte b).written = .byte b :=
  if_neg fun hc => hc.2 (h hc.1)

theorem Piece.written_unit_of_byte {b : UInt8} (hspace : b < 0x20) (hshort : b ∉ shortened) :
    (Piece.byte b).written = .unit b.toNat :=
  if_pos ⟨hspace, hshort⟩

/-- Each of the three ways to write a byte gives what comes back of it. -/
theorem spelled_writeByte (b : UInt8) : (Piece.byte b).written.Spelled (writeByte b) := by
  unfold writeByte
  by_cases hmark : b = 0x22 ∨ b = 0x5C
  · rw [if_pos hmark]
    rcases hmark with rfl | rfl
    · exact .escape 0x22 0x22 (by decide)
    · exact .escape 0x5C 0x5C (by decide)
  · rw [if_neg hmark]
    by_cases hshort : b ∈ shortened
    · rw [Piece.written_byte fun _ => hshort]
      simp only [shortened, List.mem_cons, List.not_mem_nil, or_false] at hshort
      rcases hshort with rfl | rfl | rfl | rfl | rfl
      · exact .escape 0x62 0x08 (by decide)
      · exact .escape 0x74 0x09 (by decide)
      · exact .escape 0x6E 0x0A (by decide)
      · exact .escape 0x66 0x0C (by decide)
      · exact .escape 0x72 0x0D (by decide)
    · -- The chain of tests in the writer is walked down with every other byte.
      have hnone : b ≠ 0x08 ∧ b ≠ 0x09 ∧ b ≠ 0x0A ∧ b ≠ 0x0C ∧ b ≠ 0x0D := by
        simpa [shortened] using hshort
      rw [if_neg hnone.1, if_neg hnone.2.1, if_neg hnone.2.2.1, if_neg hnone.2.2.2.1,
        if_neg hnone.2.2.2.2]
      by_cases hspace : b < 0x20
      · have hbyte : b.toNat < 65536 := Nat.lt_trans b.toNat_lt (by decide)
        have hunit := spelled_writeUnit b.toNat
        rw [Nat.mod_eq_of_lt hbyte] at hunit
        rw [if_pos hspace, Piece.written_unit_of_byte hspace hshort]
        exact hunit
      · rw [if_neg hspace, Piece.written_byte fun h => absurd h hspace]
        exact .raw b hspace (not_or.mp hmark).1 (not_or.mp hmark).2

theorem spelled_writePiece (p : Piece) : p.written.Spelled (writePiece p) := by
  cases p with
  | byte b => exact spelled_writeByte b
  | unit n => exact spelled_writeUnit n

/-- A string is written as what comes back of it. -/
theorem spelledText_writePiece (ps : List Piece) :
    SpelledText (ps.map Piece.written) (ps.flatMap writePiece) := by
  induction ps with
  | nil => exact .nil
  | cons p ps ih =>
      rw [List.map_cons, List.flatMap_cons]
      exact .cons (spelled_writePiece p) ih

/-- A character of one byte is a code unit when its byte comes back as one. -/
theorem means_written_encodeChar (c : Char) {ps : List Piece} {cs : List Char} (h : Means ps cs) :
    Means (((Utf8.encodeChar c).map Piece.byte).map Piece.written ++ ps) (c :: cs) := by
  -- A byte below the space is a character by itself, so no longer one has any.
  by_cases hcontrol : ∃ b, Utf8.encodeChar c = [b] ∧ b < 0x20 ∧ b ∉ shortened
  · rcases hcontrol with ⟨b, hb, hspace, hshort⟩
    have hcode : b.toNat = c.toNat := Utf8.toNat_of_encodeChar_eq hb
    have hsmall : c.toNat < 0x10000 := by
      have hbyte := b.toNat_lt
      omega
    rw [hb, List.map_singleton, List.map_singleton, Piece.written_unit_of_byte hspace hshort, hcode]
    exact .unit c hsmall h
  · have hsame : ∀ b ∈ Utf8.encodeChar c, (Piece.byte b).written = .byte b := by
      intro b hb
      refine Piece.written_byte fun hspace => ?_
      by_contra hshort
      exact hcontrol ⟨b, Utf8.encodeChar_eq_of_mem hb (UInt8.lt_trans hspace (by decide)), hspace,
        hshort⟩
    have hbytes : (Utf8.encodeChar c).map (Piece.written ∘ Piece.byte) =
        (Utf8.encodeChar c).map Piece.byte := List.map_congr_left hsame
    rw [List.map_map, hbytes]
    exact .bytes c h

/-- What comes back of a text stands for it. -/
theorem means_written (s : String) : Means ((piecesOf s).map Piece.written) s.toList := by
  have hchars : ∀ cs : List Char,
      Means (((Utf8.encodeChars cs).map Piece.byte).map Piece.written) cs := by
    intro cs
    induction cs with
    | nil => exact .nil
    | cons c rest ih =>
        rw [Utf8.encodeChars_cons, List.map_append, List.map_append]
        exact means_written_encodeChar c ih
  exact hchars s.toList

/-! ## Numbers -/

/-- The decimal digits of a number. -/
def digitsOf (n : Nat) : List (Fin 10) :=
  (Decimal.digitsOf n).attach.map fun d => ⟨d.val, Decimal.digitsOf_lt n d.val d.property⟩

/-- Digits as characters. -/
def digitChars (ds : List (Fin 10)) : List Char :=
  ds.map fun d => Decimal.digitChar d.val

theorem map_val_digitsOf (n : Nat) : (digitsOf n).map Fin.val = Decimal.digitsOf n := by
  rw [digitsOf, List.map_map]
  exact List.attach_map_subtype_val (Decimal.digitsOf n)

theorem digitChars_digitsOf (n : Nat) : digitChars (digitsOf n) = Decimal.ofNatText n := by
  rw [Decimal.ofNatText, ← map_val_digitsOf, List.map_map]
  rfl

theorem digitsOf_ne_nil (n : Nat) : digitsOf n ≠ [] := by
  unfold digitsOf
  rw [Ne, List.map_eq_nil_iff, List.attach_eq_nil_iff]
  exact Decimal.digitsOf_ne_nil n

theorem digitsOf_zero : digitsOf 0 = [0] := by
  have hvalues : (digitsOf 0).map Fin.val = List.map Fin.val ([0] : List (Fin 10)) := by
    rw [map_val_digitsOf, Decimal.digitsOf, if_pos (by decide)]
    rfl
  exact List.map_injective_iff.mpr (fun _ _ => Fin.eq_of_val_eq) hvalues

/-- Only zero begins with a zero. -/
theorem head?_digitsOf {n : Nat} (hpos : 0 < n) : (digitsOf n).head? ≠ some 0 := by
  intro hzero
  have hhead : ((digitsOf n).map Fin.val).head? = some 0 := by
    rw [List.head?_map, hzero]
    rfl
  rw [map_val_digitsOf] at hhead
  exact Decimal.head?_digitsOf n hpos hhead

theorem encodeChars_digitChars (ds : List (Fin 10)) :
    Utf8.encodeChars (digitChars ds) = ds.map digitByte := by
  have hdigit : ∀ d : Fin 10, Utf8.encodeChar (Decimal.digitChar d.val) = [digitByte d] := by
    decide
  induction ds with
  | nil => rfl
  | cons d ds ih =>
      rw [digitChars, List.map_cons, Utf8.encodeChars_cons, hdigit]
      exact congrArg (digitByte d :: ·) ih

/-- Bytes are those of a number without a sign. -/
def IsUnsigned (bytes : List UInt8) : Prop :=
  ∃ m : Numeral, m.negative = false ∧ bytes = m.bytes

theorem digitsOf_eq_zero_or (n : Nat) : digitsOf n = [0] ∨ (digitsOf n).head? ≠ some 0 := by
  by_cases hpos : 0 < n
  · exact .inr (head?_digitsOf hpos)
  · obtain rfl : n = 0 := by omega
    exact .inl digitsOf_zero

/-- A natural number is a whole part alone. -/
theorem isUnsigned_ofNatText (n : Nat) : IsUnsigned (Utf8.encodeChars (Decimal.ofNatText n)) := by
  refine ⟨⟨false, ⟨digitsOf n, digitsOf_ne_nil n⟩, digitsOf_eq_zero_or n, none, none⟩, rfl, ?_⟩
  rw [← digitChars_digitsOf, encodeChars_digitChars]
  exact (List.append_nil _).symm

/-- Digits, a point and digits. -/
theorem isUnsigned_pointed {whole fraction : List (Fin 10)} (hwhole : whole ≠ [])
    (hfraction : fraction ≠ []) (hzero : whole = [0] ∨ whole.head? ≠ some 0) :
    IsUnsigned (Utf8.encodeChars (digitChars whole ++ '.' :: digitChars fraction)) := by
  refine ⟨⟨false, ⟨whole, hwhole⟩, hzero, some ⟨fraction, hfraction⟩, none⟩, rfl, ?_⟩
  have hpoint : Utf8.encodeChars ('.' :: digitChars fraction) =
      0x2E :: Utf8.encodeChars (digitChars fraction) := rfl
  rw [Utf8.encodeChars_append, hpoint, encodeChars_digitChars, encodeChars_digitChars]
  exact congrArg (whole.map digitByte ++ 0x2E :: ·) (List.append_nil _).symm

theorem replicate_zero (k : Nat) : List.replicate k '0' = digitChars (List.replicate k 0) := by
  rw [digitChars, List.map_replicate]
  rfl

theorem digitChars_append (ds es : List (Fin 10)) :
    digitChars (ds ++ es) = digitChars ds ++ digitChars es :=
  List.map_append

/-- Digits with a point in place. -/
theorem isUnsigned_positional (l : Decimal.Layout) (hpoint : l.pointZero = true)
    {ds : List (Fin 10)} (hne : ds ≠ []) (exponent : Int)
    (hzero : ds.head? ≠ some 0 ∨ (ds = [0] ∧ exponent = 0)) :
    IsUnsigned (Utf8.encodeChars (l.positional (digitChars ds) exponent)) := by
  have hlength : (digitChars ds).length = ds.length := List.length_map _
  unfold Decimal.Layout.positional
  split
  · -- Zeros behind the digits, and one more behind the point.
    have htext : digitChars ds ++ List.replicate exponent.toNat '0' ++ ['.', '0'] =
        digitChars (ds ++ List.replicate exponent.toNat 0) ++ '.' :: digitChars [0] := by
      rw [digitChars_append, ← replicate_zero]
      rfl
    rw [htext]
    refine isUnsigned_pointed (List.append_ne_nil_of_left_ne_nil hne _) (by simp) ?_
    rw [List.head?_append_of_ne_nil _ hne]
    rcases hzero with hzero | ⟨rfl, rfl⟩
    · exact .inr hzero
    · exact .inl rfl
  · rename_i hnegative
    -- Zero comes without places, so only the first alternative is left.
    have hhead : ds.head? ≠ some 0 := by
      rcases hzero with hzero | ⟨-, rfl⟩
      · exact hzero
      · exact absurd (Int.le_refl 0) hnegative
    have hplaces : 0 < exponent.natAbs := by omega
    have hsome : 0 < ds.length := List.length_pos_iff.mpr hne
    dsimp only
    rw [hlength]
    split
    · -- The point is between the digits.
      rename_i hbetween
      have htext : (digitChars ds).take (ds.length - exponent.natAbs) ++ ['.'] ++
          (digitChars ds).drop (ds.length - exponent.natAbs) =
            digitChars (ds.take (ds.length - exponent.natAbs)) ++
              '.' :: digitChars (ds.drop (ds.length - exponent.natAbs)) := by
        rw [digitChars, digitChars, digitChars, List.map_take, List.map_drop, List.append_assoc]
        rfl
      rw [htext]
      refine isUnsigned_pointed ?_ ?_ (.inr ?_)
      · -- Places remain in front of the point, since there are fewer behind it than
        -- digits.
        rw [Ne, List.take_eq_nil_iff]
        exact not_or_intro (by omega) hne
      · rw [Ne, List.drop_eq_nil_iff]
        omega
      · rw [List.head?_take, if_neg (by omega)]
        exact hhead
    · -- All digits are behind it.
      have htext : ['0', '.'] ++ List.replicate (exponent.natAbs - ds.length) '0' ++ digitChars ds =
          digitChars [0] ++
            '.' :: digitChars (List.replicate (exponent.natAbs - ds.length) 0 ++ ds) := by
        rw [digitChars_append, ← replicate_zero]
        rfl
      rw [htext]
      exact isUnsigned_pointed (by simp) (List.append_ne_nil_of_right_ne_nil _ hne) (.inl rfl)

/-- One digit, the others behind a point, and the power of ten. -/
theorem isUnsigned_scientific {ds : List (Fin 10)} (hne : ds ≠ []) (hhead : ds.head? ≠ some 0)
    (e : Int) :
    IsUnsigned (Utf8.encodeChars (Decimal.Layout.scientific (digitChars ds) e)) := by
  let power : Power :=
    { capital := false
      minus := some (decide (e < 0))
      digits := ⟨digitsOf e.natAbs, digitsOf_ne_nil e.natAbs⟩ }
  have hpower : Utf8.encodeChars
      (['e', if e < 0 then '-' else '+'] ++ Decimal.ofNatText e.natAbs) = power.bytes := by
    rw [Utf8.encodeChars_append, ← digitChars_digitsOf, encodeChars_digitChars]
    by_cases hneg : e < 0
    · simp only [hneg, if_true, power, Power.bytes, decide_true]
      rfl
    · simp only [hneg, if_false, power, Power.bytes, decide_false]
      rfl
  rcases List.exists_cons_of_ne_nil hne with ⟨d, rest, rfl⟩
  unfold Decimal.Layout.scientific
  dsimp only
  rw [List.append_assoc, Utf8.encodeChars_append, hpower]
  -- The first digit is no zero, so it may stand in front of the point.
  have hd : d ≠ 0 := fun h => hhead (congrArg some h)
  have hfirst : [d] = [0] ∨ [d].head? ≠ some 0 := .inr fun h => hd (Option.some.inj h)
  cases rest with
  | nil =>
      refine ⟨⟨false, ⟨[d], by simp⟩, hfirst, none, some power⟩, rfl, ?_⟩
      exact congrArg (· ++ power.bytes) (encodeChars_digitChars [d])
  | cons d' more =>
      refine ⟨⟨false, ⟨[d], by simp⟩, hfirst, some ⟨d' :: more, by simp⟩, some power⟩, rfl, ?_⟩
      have htext : Utf8.encodeChars (digitChars [d] ++ '.' :: digitChars (d' :: more)) =
          [d].map digitByte ++ 0x2E :: (d' :: more).map digitByte := by
        rw [Utf8.encodeChars_append, encodeChars_digitChars, ← encodeChars_digitChars (d' :: more)]
        rfl
      exact (congrArg (· ++ power.bytes) htext).trans (List.append_assoc _ _ _)

/-- A decimal is written as a number without a sign, in either layout. -/
theorem isUnsigned_writeDecimal (d : Decimal) : IsUnsigned (Utf8.encodeChars (writeDecimal d)) := by
  -- Zero has no digit but its zero, and every other number begins with another one.
  unfold writeDecimal
  dsimp only
  split
  · have hzero : ['0'] = digitChars [0] := rfl
    rw [hzero]
    exact isUnsigned_positional _ rfl (by simp) 0 (.inr ⟨rfl, rfl⟩)
  · rename_i hpos
    have hhead := head?_digitsOf (Nat.pos_of_ne_zero hpos)
    rw [← digitChars_digitsOf]
    split
    · exact isUnsigned_positional _ rfl (digitsOf_ne_nil _) _ (.inl hhead)
    · exact isUnsigned_scientific (digitsOf_ne_nil _) hhead _

theorem encodeChars_sign (negative : Bool) :
    Utf8.encodeChars (if negative then ['-'] else []) = Numeral.signBytes negative := by
  cases negative <;> rfl

/-- A number is written as a numeral. -/
theorem exists_numeral (n : Number) : ∃ m : Numeral, m.bytes = writeNumber n := by
  have hunsigned : IsUnsigned (Utf8.encodeChars
      (if n.isWhole then Decimal.ofNatText n.value.digits else writeDecimal n.value)) := by
    split
    · exact isUnsigned_ofNatText _
    · exact isUnsigned_writeDecimal _
  rcases hunsigned with ⟨m, hplus, hbytes⟩
  refine ⟨{ m with negative := n.negative }, ?_⟩
  unfold writeNumber
  dsimp only
  rw [Utf8.encodeChars_append, encodeChars_sign, hbytes, Numeral.bytes, Numeral.bytes, hplus]
  rfl

/-- What comes back of a number. -/
def Number.written (n : Number) : Number :=
  match takeNumber? (writeNumber n) with
  | some (m, _) => m
  | none => n

/-- A numeral with the bytes of a number tells what comes back of it. -/
theorem Number.written_of_bytes {n : Number} {m : Numeral} (h : m.bytes = writeNumber n) :
    n.written = m.number := by
  -- Nothing follows the number, which ends it.
  have htaken := takeNumber?_append m [] (fun b hb => absurd hb (by simp))
  rw [List.append_nil, h] at htaken
  unfold Number.written
  rw [htaken]

/-- A number is written as what comes back of it. -/
theorem spelled_writeNumber (n : Number) :
    (Token.leaf (.number n.written)).Spelled (writeNumber n) := by
  rcases exists_numeral n with ⟨m, hm⟩
  rw [Number.written_of_bytes hm, ← hm]
  exact .number m

/-- A whole number comes back with the digits of its value, neither a point nor a
    power of ten among them. -/
theorem Number.written_of_isWhole {n : Number} (h : n.isWhole = true) :
    n.written =
      { n with whole := Decimal.digitsOf n.value.digits, fraction := [], power := none } := by
  let m : Numeral :=
    { negative := n.negative
      whole := ⟨digitsOf n.value.digits, digitsOf_ne_nil _⟩
      no_leading_zero := digitsOf_eq_zero_or _
      fraction := none
      power := none }
  have hbytes : m.bytes = writeNumber n := by
    unfold writeNumber
    dsimp only
    rw [h, if_pos rfl, Utf8.encodeChars_append, encodeChars_sign, ← digitChars_digitsOf,
      encodeChars_digitChars]
    exact congrArg (Numeral.signBytes n.negative ++ ·) (List.append_nil _)
  rw [Number.written_of_bytes hbytes]
  show Number.mk n.negative ((digitsOf n.value.digits).map Fin.val) [] none = _
  rw [map_val_digitsOf]

/-! ## Documents -/

mutual

/-- What comes back of a document. -/
def written : Json → Json
  | .null => .null
  | .bool b => .bool b
  | .number n => .number n.written
  | .text pieces => .text (pieces.map Piece.written)
  | .array elements => .array (writtenElements elements)
  | .object members => .object (writtenMembers members)

/-- What comes back of the elements of an array. -/
def writtenElements : List Json → List Json
  | [] => []
  | v :: vs => written v :: writtenElements vs

/-- What comes back of the members of an object. -/
def writtenMembers : List (List Piece × Json) → List (List Piece × Json)
  | [] => []
  | (key, v) :: ms => (key.map Piece.written, written v) :: writtenMembers ms

end

/-- Parts with a byte between them are a part and then parts behind that byte. -/
theorem separated_cons (separator : UInt8) (part : List UInt8) (parts : List (List UInt8)) :
    separated separator (part :: parts) = part ++ parts.flatMap (separator :: ·) := by
  induction parts generalizing part with
  | nil => exact (List.append_nil part).symm
  | cons next parts ih =>
      rw [separated, ih next, List.flatMap_cons, List.append_assoc]
      · rfl
      · simp

theorem spelled_writeText (pieces : List Piece) :
    (Token.text (pieces.map Piece.written)).Spelled (writeText pieces) :=
  .text (spelledText_writePiece pieces)

theorem Spaced.single {t : Token} {bytes : List UInt8} (ht : t.Spelled bytes) :
    Spaced [t] bytes := by
  have hnothing : Spaced [] [] := .nil rfl
  have h := Spaced.next ht hnothing
  rwa [List.append_nil] at h

mutual

-- The recursion is on the tree, and on what follows the first element or member
-- apart from it, as in the tokens.

/-- A document is written as a text of what comes back of it. -/
theorem isText_write : ∀ v : Json, IsText v.written (write v)
  | .null => by
      rw [written, write]
      exact .single .nullWord
  | .bool true => by
      rw [written, write]
      exact .single .trueWord
  | .bool false => by
      rw [written, write]
      exact .single .falseWord
  | .number n => by
      rw [written, write]
      exact .single (spelled_writeNumber n)
  | .text pieces => by
      rw [written, write]
      exact .single (spelled_writeText pieces)
  | .array [] => by
      rw [written, writtenElements, write, writeElements]
      exact Spaced.next .beginArray (.single .endArray)
  | .array (v :: vs) => by
      rw [written, writtenElements, write, writeElements, separated_cons, IsText, tokens]
      have hrest := (isText_write v).append (spaced_writeElements vs)
      rw [List.append_assoc, List.append_assoc]
      exact Spaced.next .beginArray hrest
  | .object [] => by
      rw [written, writtenMembers, write, writeMembers]
      exact Spaced.next .beginObject (.single .endObject)
  | .object ((key, v) :: ms) => by
      rw [written, writtenMembers, write, writeMembers, separated_cons, IsText, tokens]
      have hrest := (isText_write v).append (spaced_writeMembers ms)
      simp only [List.append_assoc]
      exact Spaced.next .beginObject
        (Spaced.next (spelled_writeText key) (Spaced.next .colon hrest))

/-- The elements behind the first are written with a comma in front of each. -/
theorem spaced_writeElements : ∀ vs : List Json,
    Spaced (furtherElements (writtenElements vs))
      ((writeElements vs).flatMap (0x2C :: ·) ++ [0x5D])
  | [] => by
      rw [writtenElements, furtherElements, writeElements]
      exact .single .endArray
  | v :: vs => by
      rw [writtenElements, furtherElements, writeElements, List.flatMap_cons]
      have hrest := (isText_write v).append (spaced_writeElements vs)
      simp only [List.cons_append, List.append_assoc]
      exact Spaced.next .comma hrest

/-- The members behind the first are written in the same way, each with its key. -/
theorem spaced_writeMembers : ∀ ms : List (List Piece × Json),
    Spaced (furtherMembers (writtenMembers ms))
      ((writeMembers ms).flatMap (0x2C :: ·) ++ [0x7D])
  | [] => by
      rw [writtenMembers, furtherMembers, writeMembers]
      exact .single .endObject
  | (key, v) :: ms => by
      rw [writtenMembers, furtherMembers, writeMembers, List.flatMap_cons]
      have hrest := (isText_write v).append (spaced_writeMembers ms)
      simp only [List.cons_append, List.append_assoc]
      exact Spaced.next .comma
        (Spaced.next (spelled_writeText key) (Spaced.next .colon hrest))

end

/-- What is written of a document is read as what comes back of it. -/
theorem read?_write (v : Json) : read? (write v) = some v.written :=
  read?_of_isText (isText_write v)

end Json

end StorageGauges
