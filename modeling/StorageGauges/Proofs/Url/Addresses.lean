import StorageGauges.Proofs.Decimal.Digits
import StorageGauges.Proofs.Text.Utf8
import StorageGauges.Url.Host

/-!
# Addresses as Texts

An address of 32 bits is written with its four bytes in decimal, between points.
The host that this text spells is the address again: the last part is a number,
so the text cannot be a name, and no byte begins with a zero, so none is taken
for octal.

A text that is an address of 128 bits has at least one colon, since without one
it has at most two pieces of the eight. Nothing but hexadecimal digits, colons
and points is in either kind of address, so none of them has a character that
means something elsewhere in a URL.

## Main definitions

* `Address4.bytes`: The four bytes of an address.
* `isAddressChar`: A character that an address can have.

## Theorems

* `Address4.read?_write`: What is written for an address is read as it.
* `Address6.mem_of_read?`: The characters of an address of 128 bits.
* `Host.read?_write`: A host written like an address is that address.
-/

namespace StorageGauges

namespace Url

/-- What is so of the characters between separators and of the separator is so
    of all. -/
theorem forall_of_splitOn {p : Char → Prop} (sep : Char) (hsep : p sep) {s : List Char}
    (h : ∀ part ∈ s.splitOn sep, ∀ c ∈ part, p c) : ∀ c ∈ s, p c := by
  intro c hc
  have hwhole : List.intercalate [sep] (s.splitOn sep) = s := List.intercalate_splitOn sep
  rw [← hwhole] at hc
  -- The induction is on the parts that the text is put together from.
  generalize s.splitOn sep = parts at h hc
  induction parts with
  | nil => exact absurd hc List.not_mem_nil
  | cons part rest ih =>
      rcases List.forall_mem_cons.mp h with ⟨hpart, hrest⟩
      cases rest with
      | nil =>
          rw [List.intercalate_singleton] at hc
          exact hpart c hc
      | cons next rest =>
          rw [List.intercalate_cons_cons, List.append_assoc, List.mem_append,
            List.singleton_append, List.mem_cons] at hc
          rcases hc with hc | rfl | hc
          · exact hpart c hc
          · exact hsep
          · exact ih hrest hc

namespace Address4

theorem hexValue?_digitChar {d : Nat} (h : d < 10) :
    Text.hexValue? (Decimal.digitChar d).toNat = some d := by
  have hall : ∀ d : Fin 10, Text.hexValue? (Decimal.digitChar d.val).toNat = some d.val := by decide
  exact hall ⟨d, h⟩

/-- What is written for a number has its value to the base ten. -/
theorem valueIn?_ofNatText (n : Nat) : valueIn? 10 (Decimal.ofNatText n) = some n := by
  refine Decimal.foldlM_ofNatText _ (fun n d hd => ?_) n
  rw [hexValue?_digitChar hd, Option.filter_some, decide_eq_true hd, if_pos rfl, Option.map_some,
    Nat.mul_comm n 10]
  rfl

/-- Digits without a needless zero at the front are read as decimal. -/
theorem part?_ofNatText (n : Nat) : part? (Decimal.ofNatText n) = some n := by
  rcases Nat.eq_zero_or_pos n with rfl | hpos
  · have hzero : Decimal.ofNatText 0 = ['0'] := by
      rw [Decimal.ofNatText, Decimal.digitsOf, if_pos (by omega)]
      rfl
    rw [hzero]
    rfl
  · rcases List.exists_cons_of_ne_nil (Decimal.digitsOf_ne_nil n) with ⟨d, ds, hds⟩
    have hd : d < 10 := Decimal.digitsOf_lt n d (by rw [hds]; exact List.mem_cons_self)
    have hfirst : Decimal.digitChar d ≠ '0' := by
      have hall : ∀ d : Fin 10, Decimal.digitChar d.val = '0' → d.val = 0 := by decide
      intro heq
      have hzero : d = 0 := hall ⟨d, hd⟩ heq
      have hhead := Decimal.head?_digitsOf n hpos
      rw [hds, List.head?_cons, hzero] at hhead
      exact hhead rfl
    have htext : Decimal.ofNatText n = Decimal.digitChar d :: ds.map Decimal.digitChar := by
      rw [Decimal.ofNatText, hds, List.map_cons]
    have hread := valueIn?_ofNatText n
    -- No zero is in front, so the digits are neither hexadecimal nor octal.
    rw [htext] at hread ⊢
    unfold part?
    split
    · exact absurd ‹_› (List.cons_ne_nil _ _)
    · exact absurd (List.cons.inj ‹_›).1 hfirst
    · exact absurd (List.cons.inj ‹_›).1 hfirst
    · exact absurd (List.cons.inj ‹_›).1 hfirst
    · exact hread

/-- The four bytes of an address. -/
def bytes (a : Nat) : List Nat :=
  [a / 16777216 % 256, a / 65536 % 256, a / 256 % 256, a % 256]

theorem write_eq (a : Nat) :
    write a = List.intercalate ['.'] ((bytes a).map Decimal.ofNatText) := by
  simp only [write, bytes, List.map_cons, List.map_nil, List.intercalate_cons_cons,
    List.intercalate_singleton, List.append_assoc]

/-- No number has a point, so the address splits into its numbers. -/
theorem splitOn_write (a : Nat) : (write a).splitOn '.' = (bytes a).map Decimal.ofNatText := by
  rw [write_eq]
  refine List.splitOn_intercalate '.' ?_ (List.cons_ne_nil _ _)
  intro part hpart hpoint
  rcases List.mem_map.mp hpart with ⟨n, -, rfl⟩
  exact Decimal.forall_mem_ofNatText (p := fun c => c ≠ '.') (by decide) n '.' hpoint rfl

/-- An address has digits and points only. -/
theorem forall_mem_write {p : Char → Prop} (a : Nat) (hpoint : p '.')
    (hdigit : ∀ d : Fin 10, p (Decimal.digitChar d.val)) : ∀ c ∈ write a, p c := by
  refine forall_of_splitOn '.' hpoint ?_
  rw [splitOn_write]
  intro part hpart
  rcases List.mem_map.mp hpart with ⟨n, -, rfl⟩
  exact Decimal.forall_mem_ofNatText hdigit n

theorem write_ne_nil (a : Nat) : write a ≠ [] := by
  simp [write]

/-- No part is dropped, since the last one is not empty. -/
theorem parts_write (a : Nat) : parts (write a) = (bytes a).map Decimal.ofNatText := by
  simp only [parts, splitOn_write]
  split
  · rename_i hlast
    exact absurd (Option.some.inj hlast) (Decimal.ofNatText_ne_nil _)
  · rfl

/-- The last number makes the host an address. -/
theorem isNumeric_write (a : Nat) : isNumeric (write a) = true := by
  have hlast : ((bytes a).map Decimal.ofNatText).getLast? = some (Decimal.ofNatText (a % 256)) :=
    rfl
  simp only [isNumeric, parts_write, hlast, part?_ofNatText, Option.isSome_some, Bool.or_true]

theorem ofNumbers?_bytes (a : Nat) (h : a < 4294967296) : ofNumbers? (bytes a) = some a := by
  have hvalue : ((a / 16777216 % 256 * 256 + a / 65536 % 256) * 256 + a / 256 % 256) * 256
      + a % 256 = a := by omega
  have hfront : ∀ n, n % 256 ≤ 255 := fun n => by omega
  simp [ofNumbers?, bytes, hvalue, hfront, Nat.mod_lt]

/-- What is written for an address is read as that address. -/
theorem read?_write (a : Nat) (h : a < 4294967296) : read? (write a) = some a := by
  have hparts : ((bytes a).map Decimal.ofNatText).mapM part? = some (bytes a) := by
    simp only [bytes, List.map_cons, List.map_nil, List.mapM_cons, List.mapM_nil, part?_ofNatText,
      Option.pure_def, Option.bind_eq_bind, Option.bind_some]
  rw [read?, parts_write, hparts, Option.bind_some, ofNumbers?_bytes a h]

end Address4

/-- A character of an address: a hexadecimal digit, a colon or a point. -/
def isAddressChar (c : Char) : Bool :=
  (Text.hexValue? c.toNat).isSome || c = ':' || c = '.'

/-- There are few enough of them to look at each. -/
theorem forall_isAddressChar {p : Char → Prop}
    (hall : ∀ n : Fin 128, isAddressChar (Char.ofNat n.val) = true → p (Char.ofNat n.val))
    {c : Char} (hc : isAddressChar c = true) : p c := by
  have hsmall : c.toNat < 128 := by
    simp only [isAddressChar, Bool.or_eq_true, decide_eq_true_iff] at hc
    rcases hc with (hc | rfl) | rfl
    · -- Only digits and the first letters have a value.
      unfold Text.hexValue? at hc
      repeat' split at hc
      · omega
      · omega
      · omega
      · exact absurd hc (by simp)
    · decide
    · decide
  have hp := hall ⟨c.toNat, hsmall⟩
  rw [Char.ofNat_toNat] at hp
  exact hp hc

theorem isAddressChar_of_hexValue? {c : Char} (h : (Text.hexValue? c.toNat).isSome = true) :
    isAddressChar c = true := by
  rw [isAddressChar, h, Bool.true_or, Bool.true_or]

namespace Address4

/-- What has a value consists of hexadecimal digits. -/
theorem isAddressChar_of_valueIn? {base : Nat} {s : List Char} {n : Nat}
    (h : valueIn? base s = some n) : ∀ c ∈ s, isAddressChar c = true := by
  unfold valueIn? at h
  -- The value that was read so far is arbitrary in the induction.
  generalize 0 = m at h
  induction s generalizing m with
  | nil => exact fun c hc => absurd hc List.not_mem_nil
  | cons c rest ih =>
      rw [List.foldlM_cons] at h
      rcases Option.bind_eq_some_iff.mp h with ⟨m', hfirst, hrest⟩
      rcases Option.map_eq_some_iff.mp hfirst with ⟨d, hd, -⟩
      have hc : Text.hexValue? c.toNat = some d := (Option.filter_eq_some_iff.mp hd).1
      refine List.forall_mem_cons.mpr ⟨?_, ih m' hrest⟩
      exact isAddressChar_of_hexValue? (by rw [hc]; rfl)

end Address4

namespace Address6

theorem isAddressChar_of_piece? {s : List Char} {n : Nat} (h : piece? s = some n) :
    ∀ c ∈ s, isAddressChar c = true := by
  unfold piece? at h
  split at h
  · exact absurd h (by simp)
  · exact Address4.isAddressChar_of_valueIn? h

theorem isAddressChar_of_byte? {s : List Char} {n : Nat} (h : byte? s = some n) :
    ∀ c ∈ s, isAddressChar c = true := by
  unfold byte? at h
  split at h
  · exact absurd h (by simp)
  · exact absurd h (by simp)
  · exact Address4.isAddressChar_of_valueIn? (Option.filter_eq_some_iff.mp h).1

theorem exists_byte?_of_mapM {parts : List (List Char)} {ns : List Nat}
    (h : parts.mapM byte? = some ns) : ∀ part ∈ parts, ∃ n, byte? part = some n := by
  induction parts generalizing ns with
  | nil => exact fun part hpart => absurd hpart List.not_mem_nil
  | cons part rest ih =>
      rw [List.mapM_cons] at h
      rcases Option.bind_eq_some_iff.mp h with ⟨n, hn, hrest⟩
      rcases Option.bind_eq_some_iff.mp hrest with ⟨others, hothers, -⟩
      exact List.forall_mem_cons.mpr ⟨⟨n, hn⟩, ih hothers⟩

/-- Four decimal bytes consist of characters of addresses, the points included. -/
theorem isAddressChar_of_tail? {s : List Char} {ps : List Nat} (h : tail? s = some ps) :
    ∀ c ∈ s, isAddressChar c = true := by
  unfold tail? at h
  split at h
  · rename_i hbytes
    refine forall_of_splitOn '.' (by decide) fun part hpart => ?_
    rcases exists_byte?_of_mapM hbytes part hpart with ⟨n, hn⟩
    exact isAddressChar_of_byte? hn
  · exact absurd h (by simp)

theorem length_of_tail? {s : List Char} {ps : List Nat} (h : tail? s = some ps) :
    ps.length = 2 := by
  unfold tail? at h
  split at h
  · rw [← Option.some.inj h]
    rfl
  · exact absurd h (by simp)

/-- All pieces consist of characters of addresses. -/
theorem isAddressChar_of_pieces? {parts : List (List Char)} {ps : List Nat}
    (h : pieces? parts = some ps) : ∀ part ∈ parts, ∀ c ∈ part, isAddressChar c = true := by
  -- Only the last piece may be decimal bytes.
  induction parts using pieces?.induct generalizing ps with
  | case1 => exact fun part hpart => absurd hpart List.not_mem_nil
  | case2 last hpoint =>
      rw [pieces?, if_pos hpoint] at h
      exact List.forall_mem_singleton.mpr (isAddressChar_of_tail? h)
  | case3 last hpoint =>
      rw [pieces?, if_neg hpoint] at h
      rcases Option.map_eq_some_iff.mp h with ⟨p, hp, -⟩
      exact List.forall_mem_singleton.mpr (isAddressChar_of_piece? hp)
  | case4 part rest hrest ih =>
      rw [pieces?.eq_3 _ _ hrest] at h
      rcases Option.bind_eq_some_iff.mp h with ⟨p, hp, hmore⟩
      rcases Option.bind_eq_some_iff.mp hmore with ⟨others, hothers, -⟩
      exact List.forall_mem_cons.mpr ⟨isAddressChar_of_piece? hp, ih hothers⟩

/-- A text without a colon has two pieces at most. -/
theorem length_of_pieces?_singleton {s : List Char} {ps : List Nat} (h : pieces? [s] = some ps) :
    ps.length ≤ 2 := by
  rw [pieces?] at h
  split at h
  · exact Nat.le_of_eq (length_of_tail? h)
  · rcases Option.map_eq_some_iff.mp h with ⟨p, -, rfl⟩
    exact Nat.le_succ 1

/-- One side of an address consists of such characters, its colons included. -/
theorem isAddressChar_of_side? {s : List Char} {ps : List Nat} (h : side? s = some ps) :
    ∀ c ∈ s, isAddressChar c = true := by
  unfold side? at h
  split at h
  · rename_i hempty
    rw [List.isEmpty_iff.mp hempty]
    exact fun c hc => absurd hc List.not_mem_nil
  · exact forall_of_splitOn ':' (by decide) (isAddressChar_of_pieces? h)

/-- A side without a colon has two pieces at most. -/
theorem length_of_side? {s : List Char} {ps : List Nat} (h : side? s = some ps) (hcolon : ':' ∉ s) :
    ps.length ≤ 2 := by
  unfold side? at h
  split at h
  · rw [← Option.some.inj h]
    exact Nat.zero_le 2
  · have hwhole : s.splitOn ':' = [s] :=
      List.splitOnP_eq_singleton fun c hc => beq_false_of_ne fun heq => hcolon (heq ▸ hc)
    rw [hwhole] at h
    exact length_of_pieces?_singleton h

/-- The two sides of a gap are the text but for its two colons. -/
theorem eq_of_gap? {s left right : List Char} (h : gap? s = some (left, right)) :
    s = left ++ ':' :: ':' :: right := by
  induction s using gap?.induct generalizing left with
  | case1 rest =>
      rw [gap?] at h
      cases h
      rfl
  | case2 c rest hnot ih =>
      rw [gap?.eq_2 _ _ hnot] at h
      rcases Option.map_eq_some_iff.mp h with ⟨⟨front, back⟩, hgap, heq⟩
      cases heq
      rw [ih hgap, List.cons_append]
  | case3 => exact absurd h (by simp [gap?])

/-- A text that is an address of 128 bits has a colon, and no characters but those
    of addresses. -/
theorem mem_of_read? {s : List Char} {ps : List Nat} (h : read? s = some ps) :
    ':' ∈ s ∧ ∀ c ∈ s, isAddressChar c = true := by
  unfold read? at h
  split at h
  · rcases Option.filter_eq_some_iff.mp h with ⟨hside, hlength⟩
    refine ⟨?_, isAddressChar_of_side? hside⟩
    -- Without a colon there are not enough pieces.
    refine Decidable.byContradiction fun hcolon => ?_
    have hfew := length_of_side? hside hcolon
    have height : ps.length = 8 := of_decide_eq_true hlength
    omega
  · rename_i left right hgap
    rcases Option.bind_eq_some_iff.mp h with ⟨front, hfront, hmore⟩
    rcases Option.bind_eq_some_iff.mp hmore with ⟨back, hback, -⟩
    rw [eq_of_gap? hgap]
    refine ⟨List.mem_append_right _ List.mem_cons_self, fun c hc => ?_⟩
    simp only [List.mem_append, List.mem_cons] at hc
    rcases hc with hc | rfl | rfl | hc
    · exact isAddressChar_of_side? hfront c hc
    · decide
    · decide
    · exact isAddressChar_of_side? hback c hc

end Address6

end Url

/-- Bytes without a percent sign stand for themselves. -/
theorem Percent.decode_of_notMem {bytes : List UInt8} (h : 0x25 ∉ bytes) :
    decode bytes = bytes := by
  induction bytes using decode.induct with
  | case1 a b rest high low hhigh hlow ih => exact absurd List.mem_cons_self h
  | case2 a b rest hnot ih => exact absurd List.mem_cons_self h
  | case3 b rest hnot ih =>
      rw [decode.eq_2 _ _ hnot, ih (List.not_mem_of_not_mem_cons h)]
  | case4 => rw [decode]

namespace Url

namespace Host

/-- No character of an address is a percent sign. -/
theorem decode_encodeChars {s : List Char} (h : ∀ c ∈ s, isAddressChar c = true) :
    Percent.decode (Utf8.encodeChars s) = Utf8.encodeChars s := by
  refine Percent.decode_of_notMem fun hpercent => ?_
  rcases List.mem_flatMap.mp hpercent with ⟨c, hc, hbyte⟩
  exact forall_isAddressChar (p := fun c => 0x25 ∉ Utf8.encodeChar c) (by decide) (h c hc) hbyte

theorem flatMap_mappedChar {s : List Char} (h : ∀ c ∈ s, mappedChar c = [c]) :
    s.flatMap mappedChar = s := by
  induction s with
  | nil => rfl
  | cons c rest ih =>
      rcases List.forall_mem_cons.mp h with ⟨hc, hrest⟩
      rw [List.flatMap_cons, hc, ih hrest, List.singleton_append]

/-- A written address has no letters to map and no labels to encode. -/
theorem ascii_write (a : Nat) : ascii (Address4.write a) = Address4.write a := by
  have hlabel : ∀ n, label (Decimal.ofNatText n) = Decimal.ofNatText n := by
    intro n
    refine if_pos (List.all_eq_true.mpr ?_)
    exact Decimal.forall_mem_ofNatText (by decide) n
  have hmapped : (Address4.write a).flatMap mappedChar = Address4.write a :=
    flatMap_mappedChar (Address4.forall_mem_write a (by decide) (by decide))
  have hlabels : ((Address4.bytes a).map Decimal.ofNatText).map label =
      (Address4.bytes a).map Decimal.ofNatText := by
    rw [List.map_map]
    exact List.map_congr_left fun n _ => hlabel n
  rw [ascii, hmapped, Address4.splitOn_write, hlabels, ← Address4.write_eq]

/-- A host that is written like an address of 32 bits is that address. -/
theorem read?_write (a : Nat) (h : a < 4294967296) :
    read? (Address4.write a) = some (.address4 a) := by
  have hchars : ∀ c ∈ Address4.write a, isAddressChar c = true :=
    Address4.forall_mem_write a (by decide) (by decide)
  have hallowed : (Address4.write a).any isForbidden = false :=
    List.any_eq_false.mpr (Address4.forall_mem_write a (by decide) (by decide))
  have hsome : (Address4.write a).isEmpty = false :=
    List.isEmpty_eq_false_iff.mpr (Address4.write_ne_nil a)
  -- The text has no bracket, so it is not taken for an address of 128 bits.
  unfold read?
  split
  · rename_i hbracket
    exact absurd (hchars '[' (by rw [hbracket]; exact List.mem_cons_self)) (by decide)
  · simp only [decode_encodeChars hchars, Utf8.decodeLossyChars_encodeChars, ascii_write, hsome,
      hallowed, Address4.isNumeric_write, Address4.read?_write a h, Bool.or_self,
      Bool.false_eq_true, if_false, if_true, Option.map_some]

end Host

end Url

end StorageGauges
