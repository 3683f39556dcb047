import StorageGauges.Text.Utf8

/-!
# Texts Survive as Bytes

The bytes of a text stand for that text and no other. A character takes one to
four bytes, the first of them says how many, and the ranges that the reader
allows for the second byte shut out exactly what no character is written as.

## Main definitions

* `Utf8.IsUtf8`: Bytes stand for some characters.

## Theorems

* `Utf8.takeChar_encodeChar`: The bytes of a character are read as it.
* `Utf8.decode?_encode`: The bytes of a text are read as it.
* `Utf8.encode_decodeLossy`: Bytes that stand for characters survive as a text.
-/

namespace StorageGauges

namespace Utf8

theorem toNat_ofNat (n : Nat) (h : n < 256) : (UInt8.ofNat n).toNat = n :=
  UInt8.toNat_ofNat_of_lt' h

/-- No character has the code of a surrogate or a code above the last one. -/
theorem toNat_cases (c : Char) :
    c.toNat < 0xD800 ∨ (0xDFFF < c.toNat ∧ c.toNat < 0x110000) :=
  c.valid

/-- The second of three bytes is in the range that the first one leaves. -/
theorem shape?_three (n : Nat) (hlow : 0x800 ≤ n) (hhigh : n < 0x10000)
    (hvalid : n < 0xD800 ∨ 0xDFFF < n) :
    ∃ low high, shape? (UInt8.ofNat (0xE0 + n / 4096)) = some (2, low, high) ∧
      low ≤ 0x80 + n / 64 % 64 ∧ 0x80 + n / 64 % 64 ≤ high := by
  unfold shape?
  rw [toNat_ofNat _ (by omega)]
  simp only [beq_iff_eq]
  rw [if_neg (by omega), if_neg (by omega), if_neg (by omega)]
  -- After the first byte E0 no form is overlong, after ED none is a surrogate.
  by_cases hfirst : n / 4096 = 0
  · rw [if_pos (by omega)]
    exact ⟨0xA0, 0xBF, rfl, by omega, by omega⟩
  · rw [if_neg (by omega)]
    by_cases hsurrogate : n / 4096 = 13
    · rw [if_pos (by omega)]
      exact ⟨0x80, 0x9F, rfl, by omega, by omega⟩
    · rw [if_neg (by omega), if_pos (by omega)]
      exact ⟨0x80, 0xBF, rfl, by omega, by omega⟩

/-- The second of four bytes is in the range that the first one leaves. -/
theorem shape?_four (n : Nat) (hlow : 0x10000 ≤ n) (hhigh : n < 0x110000) :
    ∃ low high, shape? (UInt8.ofNat (0xF0 + n / 262144)) = some (3, low, high) ∧
      low ≤ 0x80 + n / 4096 % 64 ∧ 0x80 + n / 4096 % 64 ≤ high := by
  unfold shape?
  rw [toNat_ofNat _ (by omega)]
  simp only [beq_iff_eq]
  rw [if_neg (by omega), if_neg (by omega), if_neg (by omega), if_neg (by omega),
    if_neg (by omega), if_neg (by omega)]
  -- After the first byte F0 no form is overlong, after F4 none is too large.
  by_cases hfirst : n / 262144 = 0
  · rw [if_pos (by omega)]
    exact ⟨0x90, 0xBF, rfl, by omega, by omega⟩
  · rw [if_neg (by omega)]
    by_cases hlast : n / 262144 = 4
    · rw [if_neg (by omega), if_pos (by omega)]
      exact ⟨0x80, 0x8F, rfl, by omega, by omega⟩
    · rw [if_pos (by omega)]
      exact ⟨0x80, 0xBF, rfl, by omega, by omega⟩

theorem isTail_ofNat (n : Nat) : isTail (UInt8.ofNat (0x80 + n % 64)) = true := by
  rw [isTail, toNat_ofNat _ (by omega), Bool.and_eq_true, decide_eq_true_iff, decide_eq_true_iff]
  omega

theorem within_ofNat (low high n : Nat) (hlow : low ≤ n) (hhigh : n ≤ high) (hbyte : n < 256) :
    within low high (UInt8.ofNat n) = true := by
  rw [within, toNat_ofNat _ hbyte, Bool.and_eq_true, decide_eq_true_iff, decide_eq_true_iff]
  exact ⟨hlow, hhigh⟩

/-- A character is taken from its bytes, and what follows it is left. -/
theorem takeChar_encodeChar (c : Char) (rest : List UInt8) :
    takeChar (encodeChar c ++ rest) = some (c, rest) := by
  -- Each of the four lengths has a first byte of its own, and the bits that the bytes
  -- carry put the code together again.
  have hvalid := toNat_cases c
  have hc : Char.ofNat c.toNat = c := Char.ofNat_toNat c
  generalize hn : c.toNat = n at hvalid hc
  unfold encodeChar
  simp only [hn]
  by_cases h1 : n < 0x80
  · have hshape : shape? (UInt8.ofNat n) = some (0, 0x80, 0xBF) := by
      unfold shape?
      rw [toNat_ofNat _ (by omega), if_pos h1]
    rw [if_pos h1, List.singleton_append, takeChar]
    simp only [hshape]
    rw [toNat_ofNat _ (by omega), hc]
  · rw [if_neg h1]
    by_cases h2 : n < 0x800
    · have hshape : shape? (UInt8.ofNat (0xC0 + n / 64)) = some (1, 0x80, 0xBF) := by
        unfold shape?
        rw [toNat_ofNat _ (by omega), if_neg (by omega), if_neg (by omega), if_pos (by omega)]
      rw [if_pos h2]
      simp only [List.cons_append, List.nil_append, takeChar, hshape]
      rw [if_pos (within_ofNat _ _ _ (by omega) (by omega) (by omega)), toNat_ofNat _ (by omega),
        toNat_ofNat _ (by omega),
        show (0xC0 + n / 64 - 0xC0) * 64 + (0x80 + n % 64 - 0x80) = n by omega, hc]
    · rw [if_neg h2]
      by_cases h3 : n < 0x10000
      · rcases shape?_three n (by omega) h3 (by omega) with ⟨low, high, hshape, hlow, hhigh⟩
        rw [if_pos h3]
        simp only [List.cons_append, List.nil_append, takeChar, hshape]
        rw [if_pos (by rw [within_ofNat _ _ _ hlow hhigh (by omega), isTail_ofNat]; rfl),
          toNat_ofNat _ (by omega), toNat_ofNat _ (by omega), toNat_ofNat _ (by omega),
          show (0xE0 + n / 4096 - 0xE0) * 4096 + (0x80 + n / 64 % 64 - 0x80) * 64
            + (0x80 + n % 64 - 0x80) = n by omega, hc]
      · rcases shape?_four n (by omega) (by omega) with ⟨low, high, hshape, hlow, hhigh⟩
        rw [if_neg h3]
        simp only [List.cons_append, List.nil_append, takeChar, hshape]
        rw [if_pos (by
            rw [within_ofNat _ _ _ hlow hhigh (by omega), isTail_ofNat, isTail_ofNat]; rfl),
          toNat_ofNat _ (by omega), toNat_ofNat _ (by omega), toNat_ofNat _ (by omega),
          toNat_ofNat _ (by omega),
          show (0xF0 + n / 262144 - 0xF0) * 262144 + (0x80 + n / 4096 % 64 - 0x80) * 4096
            + (0x80 + n / 64 % 64 - 0x80) * 64 + (0x80 + n % 64 - 0x80) = n by omega, hc]

/-- No byte of a longer character is below 128. -/
theorem toNat_of_mem_encodeChar {c : Char} (hlong : 0x80 ≤ c.toNat) {b : UInt8}
    (hb : b ∈ encodeChar c) : 0x80 ≤ b.toNat := by
  have hvalid := toNat_cases c
  unfold encodeChar at hb
  dsimp only at hb
  rw [if_neg (Nat.not_lt.mpr hlong)] at hb
  -- The first byte of a longer character and those that go on with it are all from 128
  -- on.
  split at hb
  · simp only [List.mem_cons, List.not_mem_nil, or_false] at hb
    rcases hb with rfl | rfl <;> rw [toNat_ofNat _ (by omega)] <;> omega
  · split at hb
    · simp only [List.mem_cons, List.not_mem_nil, or_false] at hb
      rcases hb with rfl | rfl | rfl <;> rw [toNat_ofNat _ (by omega)] <;> omega
    · simp only [List.mem_cons, List.not_mem_nil, or_false] at hb
      rcases hb with rfl | rfl | rfl | rfl <;> rw [toNat_ofNat _ (by omega)] <;> omega

theorem encodeChar_of_lt {c : Char} (h : c.toNat < 0x80) :
    encodeChar c = [UInt8.ofNat c.toNat] :=
  if_pos h

/-- A byte below 128 is a character by itself. -/
theorem encodeChar_eq_of_mem {c : Char} {b : UInt8} (hb : b ∈ encodeChar c) (hsmall : b < 0x80) :
    encodeChar c = [b] := by
  by_cases hc : c.toNat < 0x80
  · rw [encodeChar_of_lt hc] at hb ⊢
    rw [List.mem_singleton.mp hb]
  · have hlarge := toNat_of_mem_encodeChar (Nat.not_lt.mp hc) hb
    have hbyte : b.toNat < 0x80 := hsmall
    omega

theorem toNat_of_encodeChar_eq {c : Char} {b : UInt8} (h : encodeChar c = [b]) :
    b.toNat = c.toNat := by
  have hvalid := toNat_cases c
  unfold encodeChar at h
  dsimp only at h
  split at h
  · rw [← (List.cons.inj h).1, toNat_ofNat _ (by omega)]
  · split at h
    · exact absurd h (by simp)
    · split at h <;> exact absurd h (by simp)

theorem encodeChars_cons (c : Char) (rest : List Char) :
    encodeChars (c :: rest) = encodeChar c ++ encodeChars rest :=
  List.flatMap_cons

theorem encodeChars_append (s t : List Char) :
    encodeChars (s ++ t) = encodeChars s ++ encodeChars t :=
  List.flatMap_append

/-- Characters are read from their bytes. -/
theorem decodeChars?_encodeChars (cs : List Char) : decodeChars? (encodeChars cs) = some cs := by
  induction cs with
  | nil =>
      rw [decodeChars?]
      rfl
  | cons c rest ih =>
      have htake := takeChar_encodeChar c (encodeChars rest)
      rw [encodeChars_cons, decodeChars?]
      split
      · -- No character has no bytes.
        rename_i hempty
        rw [List.isEmpty_iff.mp hempty] at htake
        exact absurd htake (by simp [takeChar])
      · split
        · rename_i hnone
          rw [htake] at hnone
          exact absurd hnone (by simp)
        · rename_i c' rest' hsome
          rw [htake] at hsome
          cases hsome
          rw [ih]
          rfl

/-- A text is read from its bytes. -/
theorem decode?_encode (s : String) : decode? (encode s) = some s := by
  rw [decode?, encode, decodeChars?_encodeChars, Option.map_some, String.ofList_toList]

/-! ## Bytes that are a text -/

/-- Bytes stand for some characters. -/
def IsUtf8 (bytes : List UInt8) : Prop :=
  ∃ cs : List Char, bytes = encodeChars cs

theorem isUtf8_nil : IsUtf8 [] :=
  ⟨[], rfl⟩

theorem IsUtf8.append {s t : List UInt8} (hs : IsUtf8 s) (ht : IsUtf8 t) : IsUtf8 (s ++ t) := by
  rcases hs with ⟨cs, rfl⟩
  rcases ht with ⟨ds, rfl⟩
  exact ⟨cs ++ ds, (encodeChars_append cs ds).symm⟩

theorem isUtf8_encodeChar (c : Char) : IsUtf8 (encodeChar c) :=
  ⟨[c], (List.flatMap_singleton encodeChar c).symm⟩

/-- Every byte below 128 is a character. -/
theorem isUtf8_singleton {b : UInt8} (h : b < 0x80) : IsUtf8 [b] := by
  have hsmall : b.toNat < 0x80 := h
  have hchar : (Char.ofNat b.toNat).toNat = b.toNat := by
    have hall : ∀ n : Fin 128, (Char.ofNat n.val).toNat = n.val := by decide
    exact hall ⟨b.toNat, hsmall⟩
  have hencoded : encodeChar (Char.ofNat b.toNat) = [b] := by
    rw [encodeChar_of_lt (by rw [hchar]; exact hsmall), hchar, UInt8.ofNat_toNat]
  exact hencoded ▸ isUtf8_encodeChar _

theorem isUtf8_of_small {bytes : List UInt8} (h : bytes.all (· < 0x80) = true) :
    IsUtf8 bytes := by
  induction bytes with
  | nil => exact isUtf8_nil
  | cons b rest ih =>
      rw [List.all_cons, Bool.and_eq_true, decide_eq_true_iff] at h
      exact (isUtf8_singleton h.1).append (ih h.2)

theorem isUtf8_flatMap {α : Type} (f : α → List UInt8) (as : List α)
    (h : ∀ a ∈ as, IsUtf8 (f a)) : IsUtf8 (as.flatMap f) := by
  induction as with
  | nil => exact isUtf8_nil
  | cons a rest ih =>
      rcases List.forall_mem_cons.mp h with ⟨ha, hrest⟩
      exact ha.append (ih hrest)

/-- A lossy reader gives the same characters. -/
theorem decodeLossyChars_encodeChars (cs : List Char) : decodeLossyChars (encodeChars cs) = cs := by
  induction cs with
  | nil =>
      rw [decodeLossyChars.eq_def]
      rfl
  | cons c rest ih =>
      have htake := takeChar_encodeChar c (encodeChars rest)
      rw [encodeChars_cons, decodeLossyChars.eq_def]
      split
      · -- No character has no bytes.
        rename_i hempty
        rw [hempty] at htake
        exact absurd htake (by simp [takeChar])
      · rename_i a more hcons
        split
        · rename_i c' rest' hsome
          rw [← hcons, htake] at hsome
          cases hsome
          rw [ih]
        · rename_i hnone
          rw [← hcons, htake] at hnone
          exact absurd hnone (by simp)

/-- Nothing is replaced in bytes that stand for characters. -/
theorem encode_decodeLossy {bytes : List UInt8} (h : IsUtf8 bytes) :
    encode (decodeLossy bytes) = bytes := by
  rcases h with ⟨cs, rfl⟩
  rw [encode, decodeLossy, decodeLossyChars_encodeChars, String.toList_ofList]

end Utf8

end StorageGauges
