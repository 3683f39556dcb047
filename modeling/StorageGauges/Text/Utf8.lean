/-!
# UTF-8

Payloads, answers of the API server and token files are bytes. A text in
them counts only when the bytes are UTF-8 as RFC 3629 has it: shortest
forms only, no surrogates, nothing above U+10FFFF. `decode?` is that test;
`decodeLossy` never fails and puts U+FFFD where the bytes are none, one for
each longest stretch that some character could have begun with.

The arithmetic is on `Nat`, so that what one direction writes is seen to be
what the other direction reads.

## Main definitions

* `encodeChar`: The bytes of a character.
* `encode`: The bytes of a text.
* `takeChar`: The first character of some bytes, and the bytes after it.
* `decode?`: The text that bytes stand for.
* `decodeLossy`: The same, with a replacement for what is no text.
-/

namespace StorageGauges

namespace Utf8

/-- The one to four bytes of a character. -/
def encodeChar (c : Char) : List UInt8 :=
  let n := c.toNat
  if n < 0x80 then [UInt8.ofNat n]
  else if n < 0x800 then [UInt8.ofNat (0xC0 + n / 64), UInt8.ofNat (0x80 + n % 64)]
  else if n < 0x10000 then
    [UInt8.ofNat (0xE0 + n / 4096), UInt8.ofNat (0x80 + n / 64 % 64),
      UInt8.ofNat (0x80 + n % 64)]
  else
    [UInt8.ofNat (0xF0 + n / 262144), UInt8.ofNat (0x80 + n / 4096 % 64),
      UInt8.ofNat (0x80 + n / 64 % 64), UInt8.ofNat (0x80 + n % 64)]

/-- The bytes of a list of characters. -/
def encodeChars (s : List Char) : List UInt8 :=
  s.flatMap encodeChar

/-- The bytes of a text. -/
def encode (s : String) : List UInt8 :=
  encodeChars s.toList

/-- A byte that continues a character. -/
def isTail (b : UInt8) : Bool :=
  0x80 ≤ b.toNat && b.toNat ≤ 0xBF

/-- What may follow a first byte: how many more bytes the character has, and
    the least and greatest second byte. Where a second byte would make the
    form overlong, a surrogate or too large, its range is narrower. -/
def shape? (first : UInt8) : Option (Nat × Nat × Nat) :=
  let a := first.toNat
  if a < 0x80 then some (0, 0x80, 0xBF)
  else if a < 0xC2 then none
  else if a < 0xE0 then some (1, 0x80, 0xBF)
  else if a == 0xE0 then some (2, 0xA0, 0xBF)
  else if a == 0xED then some (2, 0x80, 0x9F)
  else if a < 0xF0 then some (2, 0x80, 0xBF)
  else if a == 0xF0 then some (3, 0x90, 0xBF)
  else if a < 0xF4 then some (3, 0x80, 0xBF)
  else if a == 0xF4 then some (3, 0x80, 0x8F)
  else none

/-- A byte in a range. -/
def within (low high : Nat) (b : UInt8) : Bool :=
  low ≤ b.toNat && b.toNat ≤ high

/-- The first character, and the bytes after it; nothing when the bytes begin
    with no character. -/
def takeChar : List UInt8 → Option (Char × List UInt8)
  | [] => none
  | a :: rest =>
    match shape? a with
    | none => none
    | some (0, _, _) => some (Char.ofNat a.toNat, rest)
    | some (1, low, high) =>
      match rest with
      | b :: rest =>
        if within low high b then
          some (Char.ofNat ((a.toNat - 0xC0) * 64 + (b.toNat - 0x80)), rest)
        else none
      | _ => none
    | some (2, low, high) =>
      match rest with
      | b :: c :: rest =>
        if within low high b && isTail c then
          some (Char.ofNat ((a.toNat - 0xE0) * 4096 + (b.toNat - 0x80) * 64
            + (c.toNat - 0x80)), rest)
        else none
      | _ => none
    | some (_, low, high) =>
      match rest with
      | b :: c :: d :: rest =>
        if within low high b && isTail c && isTail d then
          some (Char.ofNat ((a.toNat - 0xF0) * 262144 + (b.toNat - 0x80) * 4096
            + (c.toNat - 0x80) * 64 + (d.toNat - 0x80)), rest)
        else none
      | _ => none

theorem takeChar_length (s : List UInt8) (c : Char) (rest : List UInt8)
    (h : takeChar s = some (c, rest)) : rest.length < s.length := by
  unfold takeChar at h
  split at h
  · simp at h
  · split at h
    · simp at h
    · simp only [Option.some.injEq, Prod.mk.injEq] at h
      simp [h.2]
    all_goals
      split at h
      · split at h
        · simp only [Option.some.injEq, Prod.mk.injEq] at h
          simp only [← h.2, List.length_cons]
          omega
        · simp at h
      · simp at h

/-- The characters that bytes stand for, when they are UTF-8. -/
def decodeChars? (s : List UInt8) : Option (List Char) :=
  if s.isEmpty then some []
  else
    match _h : takeChar s with
    | none => none
    | some (c, rest) => (decodeChars? rest).map (c :: ·)
termination_by s.length
decreasing_by exact takeChar_length s c rest _h

/-- The text that bytes stand for, when they are UTF-8. -/
def decode? (s : List UInt8) : Option String :=
  (decodeChars? s).map String.ofList

/-- How many bytes at the front are lost together: as many as some character
    could have begun with, and at least one. -/
def lostLength : List UInt8 → Nat
  | [] => 0
  | a :: rest =>
    match shape? a, rest with
    | some (count, low, high), b :: rest =>
      if count ≤ 1 || !within low high b then 1
      else
        match rest with
        | c :: _ => if count ≤ 2 || !isTail c then 2 else 3
        | [] => 2
    | _, _ => 1

/-- The characters that bytes stand for, with U+FFFD for what is no text. -/
def decodeLossyChars (s : List UInt8) : List Char :=
  match s with
  | [] => []
  | a :: rest =>
    match _h : takeChar (a :: rest) with
    | some (c, rest') => c :: decodeLossyChars rest'
    | none => '\uFFFD' :: decodeLossyChars (rest.drop (lostLength (a :: rest) - 1))
termination_by s.length
decreasing_by
  · exact takeChar_length (a :: rest) c rest' _h
  · simp only [List.length_drop, List.length_cons]
    omega

/-- The text that bytes stand for, with U+FFFD for what is no text. -/
def decodeLossy (s : List UInt8) : String :=
  String.ofList (decodeLossyChars s)

end Utf8

end StorageGauges
