import StorageGauges.Json.Basic
import StorageGauges.Text.Hexadecimal

/-!
# JSON Tokens

A document's bytes are split into tokens before anything is nested. No place
of the grammar has two values side by side, so a token ends where its own
syntax ends: `01` is two tokens, which no document has next to each other.

Only the four blanks of RFC 8259 separate tokens. A byte order mark is no
blank, nor is any other character.

## Main definitions

* `Token`: Brackets, separators and leaves.
* `takeText?`: The pieces of a string, up to its closing quotation mark.
* `takeNumber?`: A number at the front.
* `nextToken?`: The first token, and the bytes after it.
* `tokens?`: All tokens.

## Theorems

* `nextToken?_length`: A token takes at least one byte.
-/

namespace StorageGauges

namespace Json

/-- A token of a JSON document. -/
inductive Token
  | beginObject
  | endObject
  | beginArray
  | endArray
  | colon
  | comma
  | leaf (v : Json)
  | text (pieces : List Piece)
deriving Repr

/-- The blanks between tokens. -/
def isSpace (b : UInt8) : Bool :=
  b == 0x20 || b == 0x09 || b == 0x0A || b == 0x0D

/-- The number that four hexadecimal digits stand for. -/
def unit? (a b c d : UInt8) : Option Nat :=
  match Text.hexValue? a.toNat, Text.hexValue? b.toNat, Text.hexValue? c.toNat,
      Text.hexValue? d.toNat with
  | some a, some b, some c, some d => some (((a * 16 + b) * 16 + c) * 16 + d)
  | _, _, _, _ => none

/-- The byte that a short escape stands for. -/
def shortEscape? (b : UInt8) : Option UInt8 :=
  if b = 0x22 ∨ b = 0x5C ∨ b = 0x2F then some b
  else if b = 0x62 then some 0x08
  else if b = 0x66 then some 0x0C
  else if b = 0x6E then some 0x0A
  else if b = 0x72 then some 0x0D
  else if b = 0x74 then some 0x09
  else none

/-- The pieces of a string after its opening quotation mark, and the bytes
    after its closing one. Bytes below the space must be escaped. -/
def takeText? : List UInt8 → Option (List Piece × List UInt8)
  | [] => none
  | 0x22 :: rest => some ([], rest)
  | 0x5C :: 0x75 :: a :: b :: c :: d :: rest =>
    match unit? a b c d with
    | none => none
    | some n => (takeText? rest).map fun r => (.unit n :: r.1, r.2)
  | 0x5C :: e :: rest =>
    match shortEscape? e with
    | none => none
    | some b => (takeText? rest).map fun r => (.byte b :: r.1, r.2)
  | b :: rest =>
    if b < 0x20 ∨ b = 0x5C then none
    else (takeText? rest).map fun r => (.byte b :: r.1, r.2)

/-- The digits at the front, and the bytes after them. -/
def takeDigits : List UInt8 → List Nat × List UInt8
  | [] => ([], [])
  | b :: rest =>
    if 48 ≤ b.toNat ∧ b.toNat ≤ 57 then
      ((b.toNat - 48) :: (takeDigits rest).1, (takeDigits rest).2)
    else ([], b :: rest)

/-- The part of a number before the point: a zero alone, or digits of which
    the first is none. -/
def takeWhole? (s : List UInt8) : Option (List Nat × List UInt8) :=
  match s with
  | 0x30 :: rest => some ([0], rest)
  | _ =>
    match takeDigits s with
    | ([], _) => none
    | r => some r

/-- The part of a number behind the point, if it has one. -/
def takeFraction? (s : List UInt8) : Option (Option (List Nat) × List UInt8) :=
  match s with
  | 0x2E :: rest =>
    match takeDigits rest with
    | ([], _) => none
    | (ds, rest) => some (some ds, rest)
  | _ => some (none, s)

/-- Whether a minus sign is at the front of a power of ten, and the bytes
    after the sign, which may also be a plus. -/
def takePowerSign (s : List UInt8) : Bool × List UInt8 :=
  match s with
  | 0x2B :: rest => (false, rest)
  | 0x2D :: rest => (true, rest)
  | _ => (false, s)

/-- The power of ten of a number, if it has one. -/
def takePower? (s : List UInt8) : Option (Option Int × List UInt8) :=
  match s with
  | e :: rest =>
    if e = 0x65 ∨ e = 0x45 then
      let sign := takePowerSign rest
      match takeDigits sign.2 with
      | ([], _) => none
      | (ds, rest) =>
        let n : Int := Decimal.ofDigits ds
        some (some (if sign.1 then -n else n), rest)
    else some (none, s)
  | [] => some (none, s)

/-- A number at the front, and the bytes after it. -/
def takeNumber? (s : List UInt8) : Option (Number × List UInt8) := do
  let (negative, s) :=
    match s with
    | 0x2D :: rest => (true, rest)
    | _ => (false, s)
  let (whole, s) ← takeWhole? s
  let (fraction, s) ← takeFraction? s
  let (power, s) ← takePower? s
  some ({ negative, whole, fraction := fraction.getD [], power }, s)

/-- The first token of bytes that begin with no blank, and the bytes after
    it. -/
def nextToken? (s : List UInt8) : Option (Token × List UInt8) :=
  match s with
  | 0x7B :: rest => some (.beginObject, rest)
  | 0x7D :: rest => some (.endObject, rest)
  | 0x5B :: rest => some (.beginArray, rest)
  | 0x5D :: rest => some (.endArray, rest)
  | 0x3A :: rest => some (.colon, rest)
  | 0x2C :: rest => some (.comma, rest)
  | 0x22 :: rest => (takeText? rest).map fun r => (.text r.1, r.2)
  | 0x6E :: 0x75 :: 0x6C :: 0x6C :: rest => some (.leaf .null, rest)
  | 0x74 :: 0x72 :: 0x75 :: 0x65 :: rest => some (.leaf (.bool true), rest)
  | 0x66 :: 0x61 :: 0x6C :: 0x73 :: 0x65 :: rest => some (.leaf (.bool false), rest)
  | _ => (takeNumber? s).map fun r => (.leaf (.number r.1), r.2)

theorem takeText?_length (s : List UInt8) (r : List Piece × List UInt8)
    (h : takeText? s = some r) : r.2.length < s.length := by
  fun_induction takeText? s generalizing r with
  | case1 => simp at h
  | case2 rest =>
      simp only [Option.some.injEq] at h
      simp [← h]
  | case3 => simp at h
  | case4 a b c d rest n _ ih =>
      obtain ⟨q, hq, rfl⟩ := Option.map_eq_some_iff.mp h
      have := ih q hq
      simp only [List.length_cons]
      omega
  | case5 => simp at h
  | case6 e rest _ b _ ih =>
      obtain ⟨q, hq, rfl⟩ := Option.map_eq_some_iff.mp h
      have := ih q hq
      simp only [List.length_cons]
      omega
  | case7 => simp at h
  | case8 b rest _ _ _ _ ih =>
      obtain ⟨q, hq, rfl⟩ := Option.map_eq_some_iff.mp h
      have := ih q hq
      simp only [List.length_cons]
      omega

theorem takeDigits_length (s : List UInt8) : (takeDigits s).2.length ≤ s.length := by
  induction s with
  | nil => simp [takeDigits]
  | cons b r ih =>
      unfold takeDigits
      split
      · simp only [List.length_cons]
        omega
      · simp

theorem takeDigits_length_of_ne_nil (s : List UInt8) (h : (takeDigits s).1 ≠ []) :
    (takeDigits s).2.length < s.length := by
  cases s with
  | nil => simp [takeDigits] at h
  | cons b r =>
      have := takeDigits_length r
      unfold takeDigits at h ⊢
      split
      · simp only [List.length_cons]
        omega
      · rename_i hb
        simp [hb] at h

theorem takeWhole?_length (s : List UInt8) (r : List Nat × List UInt8)
    (h : takeWhole? s = some r) : r.2.length < s.length := by
  unfold takeWhole? at h
  split at h
  · simp only [Option.some.injEq] at h
    simp [← h]
  · split at h
    · simp at h
    · rename_i hne
      simp only [Option.some.injEq] at h
      subst h
      exact takeDigits_length_of_ne_nil s fun hnil => hne (takeDigits s).2 (Prod.ext hnil rfl)

theorem takeFraction?_length (s : List UInt8) (r : Option (List Nat) × List UInt8)
    (h : takeFraction? s = some r) : r.2.length ≤ s.length := by
  unfold takeFraction? at h
  split at h
  · rename_i rest
    have := takeDigits_length rest
    split at h
    · simp at h
    · rename_i heq
      simp only [Option.some.injEq] at h
      subst h
      simp only [heq, List.length_cons] at this ⊢
      omega
  · simp only [Option.some.injEq] at h
    simp [← h]

theorem takePowerSign_length (s : List UInt8) : (takePowerSign s).2.length ≤ s.length := by
  unfold takePowerSign
  split <;> simp

theorem takePower?_length (s : List UInt8) (r : Option Int × List UInt8)
    (h : takePower? s = some r) : r.2.length ≤ s.length := by
  unfold takePower? at h
  split at h
  · rename_i e rest
    have hsign := takePowerSign_length rest
    have hdigits := takeDigits_length (takePowerSign rest).2
    split at h
    · simp only at h
      split at h
      · simp at h
      · rename_i heq
        simp only [Option.some.injEq] at h
        subst h
        rw [heq] at hdigits
        simp only [List.length_cons] at hdigits ⊢
        omega
    · simp only [Option.some.injEq] at h
      simp [← h]
  · simp only [Option.some.injEq] at h
    simp [← h]

theorem takeNumber?_length (s : List UInt8) (r : Number × List UInt8)
    (h : takeNumber? s = some r) : r.2.length < s.length := by
  simp only [takeNumber?, bind, Option.bind_eq_some_iff] at h
  obtain ⟨w, hw, f, hf, p, hp, hr⟩ := h
  have hw := takeWhole?_length _ w hw
  have hf := takeFraction?_length _ f hf
  have hp := takePower?_length _ p hp
  simp only [Option.some.injEq] at hr
  subst hr
  simp only at hw hf hp ⊢
  split at hw <;> simp only [List.length_cons] at hw ⊢ <;> omega

theorem nextToken?_length (s : List UInt8) (r : Token × List UInt8)
    (h : nextToken? s = some r) : r.2.length < s.length := by
  unfold nextToken? at h
  split at h
  case h_7 rest =>
    obtain ⟨q, hq, rfl⟩ := Option.map_eq_some_iff.mp h
    have := takeText?_length rest q hq
    simp only [List.length_cons]
    omega
  case h_11 =>
    obtain ⟨q, hq, rfl⟩ := Option.map_eq_some_iff.mp h
    exact takeNumber?_length _ q hq
  all_goals
    simp only [Option.some.injEq] at h
    subst h
    simp only [List.length_cons]
    omega

/-- The tokens of a document, up to the end of the bytes. -/
def tokens? (s : List UInt8) : Option (List Token) :=
  match s with
  | [] => some []
  | b :: rest =>
    if isSpace b then tokens? rest
    else
      match _h : nextToken? (b :: rest) with
      | none => none
      | some (t, rest') => (tokens? rest').map (t :: ·)
termination_by s.length
decreasing_by
  · simp
  · exact nextToken?_length (b :: rest) (t, rest') _h

end Json

end StorageGauges
