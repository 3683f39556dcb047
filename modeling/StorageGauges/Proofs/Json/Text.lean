import StorageGauges.Json.Token
import StorageGauges.Proofs.Text.Utf8

/-!
# How Strings Are Written

The pieces of a string are bytes and code units. A byte that is neither a
quotation mark nor a backslash nor below the space can stand as it is, eight
bytes have a short escape, and a code unit is four hexadecimal digits in either
case. This is all that the syntax of a document asks of a string.

What a string means is asked of the strings that somebody reads. There every
character is its bytes, one code unit, or the two halves of a surrogate pair,
each character as it likes. A half alone means nothing.

## Main definitions

* `Json.Piece.Spelled`: How a piece can be written.
* `Json.SpelledText`: How some pieces can be written.
* `Json.Means`: The characters that pieces stand for.

## Theorems

* `Json.takeText?_append`: A string is read as its pieces.
* `Json.textOf?_of_means`: Pieces are read as what they stand for.
* `Json.means_piecesOf`: The bytes of a text stand for it.
-/

namespace StorageGauges

namespace Json

/-- A byte is a hexadecimal digit, in either case. -/
def IsHexDigit (b : UInt8) (d : Fin 16) : Prop :=
  b.toNat = (Text.hexDigit d).toNat ∨ b.toNat = (Text.hexCapital d).toNat

/-- The bytes behind the backslash of a short escape, and what they stand for. -/
def shortEscapes : List (UInt8 × UInt8) :=
  [(0x22, 0x22), (0x5C, 0x5C), (0x2F, 0x2F), (0x62, 0x08), (0x66, 0x0C), (0x6E, 0x0A),
    (0x72, 0x0D), (0x74, 0x09)]

/-- How a piece of a string can be written. -/
inductive Piece.Spelled : Piece → List UInt8 → Prop
  | raw (b : UInt8) (hspace : ¬ b < 0x20) (hquote : b ≠ 0x22) (hslash : b ≠ 0x5C) :
      Spelled (.byte b) [b]
  | escape (e b : UInt8) (h : (e, b) ∈ shortEscapes) : Spelled (.byte b) [0x5C, e]
  | unit (a b c d : UInt8) (w x y z : Fin 16) (ha : IsHexDigit a w) (hb : IsHexDigit b x)
      (hc : IsHexDigit c y) (hd : IsHexDigit d z) :
      Spelled (.unit (((w.val * 16 + x.val) * 16 + y.val) * 16 + z.val)) [0x5C, 0x75, a, b, c, d]

/-- How the pieces of a string can be written between its quotation marks. -/
inductive SpelledText : List Piece → List UInt8 → Prop
  | nil : SpelledText [] []
  | cons {p : Piece} {ps : List Piece} {bytes rest : List UInt8} (hp : p.Spelled bytes)
      (hps : SpelledText ps rest) : SpelledText (p :: ps) (bytes ++ rest)

/-- The characters that the pieces of a string stand for. -/
inductive Means : List Piece → List Char → Prop
  | nil : Means [] []
  | bytes (c : Char) {ps : List Piece} {cs : List Char} (h : Means ps cs) :
      Means ((Utf8.encodeChar c).map .byte ++ ps) (c :: cs)
  | unit (c : Char) {ps : List Piece} {cs : List Char} (hc : c.toNat < 0x10000)
      (h : Means ps cs) : Means (.unit c.toNat :: ps) (c :: cs)
  | pair (c : Char) {ps : List Piece} {cs : List Char} (hc : 0x10000 ≤ c.toNat)
      (h : Means ps cs) :
      Means (.unit (0xD800 + (c.toNat - 0x10000) / 0x400) ::
        .unit (0xDC00 + (c.toNat - 0x10000) % 0x400) :: ps) (c :: cs)

/-- A digit counts the same as a small and as a capital letter. -/
theorem hexValue?_of_isHexDigit {b : UInt8} {d : Fin 16} (h : IsHexDigit b d) :
    Text.hexValue? b.toNat = some d.val := by
  have hdigits : ∀ d : Fin 16, Text.hexValue? (Text.hexDigit d).toNat = some d.val ∧
      Text.hexValue? (Text.hexCapital d).toNat = some d.val := by decide
  rcases h with h | h
  · rw [h]
    exact (hdigits d).1
  · rw [h]
    exact (hdigits d).2

/-- The reader knows every short escape, and none of them takes the letter of a
    unit. -/
theorem shortEscape?_of_mem {e b : UInt8} (h : (e, b) ∈ shortEscapes) :
    shortEscape? e = some b ∧ e ≠ 0x75 := by
  have hall : shortEscapes.all (fun p => shortEscape? p.1 = some p.2 ∧ p.1 ≠ 0x75) = true := by
    decide
  exact of_decide_eq_true (List.all_eq_true.mp hall (e, b) h)

/-- A byte of a string that can stand as it is. -/
def standsRaw (b : UInt8) : Bool :=
  ¬ b < 0x20 ∧ b ≠ 0x22 ∧ b ≠ 0x5C

/-- Most bytes can stand as they are. -/
theorem spelledText_raw (bytes : List UInt8) (h : bytes.all standsRaw = true) :
    SpelledText (bytes.map .byte) bytes := by
  induction bytes with
  | nil => exact .nil
  | cons b rest ih =>
      rw [List.all_cons, Bool.and_eq_true] at h
      rcases of_decide_eq_true h.1 with ⟨hspace, hquote, hslash⟩
      exact .cons (.raw b hspace hquote hslash) (ih h.2)

/-- A piece in front is taken, whatever follows. -/
theorem takeText?_piece {p : Piece} {bytes : List UInt8} (h : p.Spelled bytes)
    (rest : List UInt8) :
    takeText? (bytes ++ rest) = (takeText? rest).map fun r => (p :: r.1, r.2) := by
  cases h with
  | raw b hspace hquote hslash =>
      -- A byte that stands raw is neither the end of the string nor the slash of an
      -- escape.
      rw [List.singleton_append, takeText?]
      · rw [if_neg (not_or_intro hspace hslash)]
      · exact hquote
      · rintro _ _ _ _ _ rfl
        exact absurd rfl hslash
      · rintro _ _ rfl
        exact absurd rfl hslash
  | escape e b hmem =>
      rcases shortEscape?_of_mem hmem with ⟨hescape, hne⟩
      simp only [List.cons_append, List.nil_append]
      rw [takeText?]
      · simp only [hescape]
      · -- The branch for a unit is ruled out by the letter.
        rintro _ _ _ _ _ rfl
        exact absurd rfl hne
  | unit a b c d w x y z ha hb hc hd =>
      have hunit : unit? a b c d =
          some (((w.val * 16 + x.val) * 16 + y.val) * 16 + z.val) := by
        rw [unit?, hexValue?_of_isHexDigit ha, hexValue?_of_isHexDigit hb,
          hexValue?_of_isHexDigit hc, hexValue?_of_isHexDigit hd]
      simp only [List.cons_append, List.nil_append, takeText?, hunit]

/-- A string is read as its pieces, and what follows it is left. -/
theorem takeText?_append {ps : List Piece} {bytes : List UInt8} (h : SpelledText ps bytes)
    (rest : List UInt8) : takeText? (bytes ++ 0x22 :: rest) = some (ps, rest) := by
  induction h with
  | nil => rfl
  | cons hp _ ih => rw [List.append_assoc, takeText?_piece hp, ih, Option.map_some]

/-- Raw bytes stand for themselves, whatever pieces follow. -/
theorem bytesOf?_append (bytes : List UInt8) (ps : List Piece) :
    bytesOf? (bytes.map .byte ++ ps) = (bytesOf? ps).map (bytes ++ ·) := by
  induction bytes with
  | nil => simp
  | cons b rest ih =>
      rw [List.map_cons, List.cons_append, bytesOf?, ih, Option.map_map]
      rfl

/-- Pieces are put together to the bytes of the text that they mean. -/
theorem bytesOf?_of_means {ps : List Piece} {cs : List Char} (h : Means ps cs) :
    bytesOf? ps = some (Utf8.encodeChars cs) := by
  induction h with
  | nil => rfl
  | bytes c _ ih =>
      rw [bytesOf?_append, ih]
      rfl
  | unit c hc _ ih =>
      -- A character is no half of a surrogate pair.
      have hvalid := Utf8.toNat_cases c
      have hlow : isLowSurrogate c.toNat = false := by
        simp only [isLowSurrogate, Bool.and_eq_false_iff, decide_eq_false_iff_not]
        omega
      have hhigh : isHighSurrogate c.toNat = false := by
        simp only [isHighSurrogate, Bool.and_eq_false_iff, decide_eq_false_iff_not]
        omega
      rw [bytesOf?.eq_def]
      simp only [hlow, hhigh, ih, Char.ofNat_toNat]
      rfl
  | pair c hc _ ih =>
      have hvalid := Utf8.toNat_cases c
      -- A character beyond the basic plane is split into ten and ten bits. The first unit
      -- falls into the high half, the second into the low half, and the two give the
      -- character back.
      have hlow : isLowSurrogate (0xD800 + (c.toNat - 0x10000) / 0x400) = false := by
        simp only [isLowSurrogate, Bool.and_eq_false_iff, decide_eq_false_iff_not]
        omega
      have hhigh : isHighSurrogate (0xD800 + (c.toNat - 0x10000) / 0x400) = true := by
        simp only [isHighSurrogate, Bool.and_eq_true, decide_eq_true_iff]
        omega
      have hsecond : isLowSurrogate (0xDC00 + (c.toNat - 0x10000) % 0x400) = true := by
        simp only [isLowSurrogate, Bool.and_eq_true, decide_eq_true_iff]
        omega
      have hcode : 0x10000 + (0xD800 + (c.toNat - 0x10000) / 0x400 - 0xD800) * 0x400
          + (0xDC00 + (c.toNat - 0x10000) % 0x400 - 0xDC00) = c.toNat := by
        omega
      rw [bytesOf?.eq_def]
      simp only [hlow, hhigh, hsecond, hcode, ih, Char.ofNat_toNat]
      rfl

/-- Pieces are read as the text that they stand for. -/
theorem textOf?_of_means {ps : List Piece} {s : String} (h : Means ps s.toList) :
    textOf? ps = some s := by
  rw [textOf?, bytesOf?_of_means h]
  exact Utf8.decode?_encode s

/-- The bytes of a text stand for it. -/
theorem means_piecesOf (s : String) : Means (piecesOf s) s.toList := by
  have hchars : ∀ cs : List Char, Means ((Utf8.encodeChars cs).map .byte) cs := by
    intro cs
    induction cs with
    | nil => exact .nil
    | cons c rest ih =>
        rw [Utf8.encodeChars_cons, List.map_append]
        exact .bytes c ih
  exact hchars s.toList

end Json

end StorageGauges
