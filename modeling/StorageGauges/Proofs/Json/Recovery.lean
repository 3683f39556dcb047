import StorageGauges.Proofs.Json.Record
import StorageGauges.Proofs.Json.Written

/-!
# Values Survive as Documents

A value is written as a document and the document as a text, and reading the text
gives a document again, from which a value is read. Where all strings of the
document are texts its bytes are one too, so nothing is replaced on the way and
what is read is what comes back of the document. A value is recovered if it is
read from that.

Leaves survive this, and what is made of values that survive does so as well: an
option, a list, a record and a map whose keys differ.

## Main definitions

* `Json.Textual`: All strings of a document are texts.
* `Json.Recovers`: A value is read from the text that is written of it.
* `Json.Survives`: A value is read from what comes back of its document.

## Theorems

* `Json.isUtf8_write`: The bytes of a document are a text.
* `Json.ofString?_toText`: What is read from the text of a document.
* `Json.Survives.recovers`: A value that survives is read from its text.
* `Json.allFields?_written`: The fields of a record are found.
* `Json.survives_ofOption`, `Json.survives_list`, `Json.survives_record`,
  `Json.survives_entries`: What is made of values that survive.
-/

namespace StorageGauges

namespace Json

/-- All strings of a document are texts. -/
inductive Textual : Json → Prop
  | null : Textual .null
  | bool (b : Bool) : Textual (.bool b)
  | number (n : Number) : Textual (.number n)
  | text (s : String) : Textual (ofText s)
  | array {vs : List Json} (h : ∀ v ∈ vs, Textual v) : Textual (.array vs)
  | object {ms : List (String × Json)} (h : ∀ m ∈ ms, Textual m.2) : Textual (ofMembers ms)

/-! ## The text of a document -/

/-- The escape of a byte below 128 is a text, whatever the byte. -/
theorem isUtf8_writeByte {b : UInt8} (h : b < 0x80) : Utf8.IsUtf8 (writeByte b) := by
  have hall : ∀ n : Fin 128, ((writeByte (UInt8.ofNat n.val)).all (· < 0x80)) = true := by decide
  have hsmall := hall ⟨b.toNat, h⟩
  rw [UInt8.ofNat_toNat] at hsmall
  exact Utf8.isUtf8_of_small hsmall

/-- A byte from 128 on is written as it is. -/
theorem writeByte_of_large {b : UInt8} (h : 0x80 ≤ b.toNat) : writeByte b = [b] := by
  have hne {x : UInt8} (hx : x.toNat < 0x80) : b ≠ x := by
    rintro rfl
    omega
  have hspace : ¬ b < 0x20 := by
    intro hlt
    have hbyte : b.toNat < 0x20 := hlt
    omega
  unfold writeByte
  rw [if_neg (not_or_intro (hne (by decide)) (hne (by decide))), if_neg (hne (by decide)),
    if_neg (hne (by decide)), if_neg (hne (by decide)), if_neg (hne (by decide)),
    if_neg (hne (by decide)), if_neg hspace]

theorem isUtf8_flatMap_writeByte (c : Char) :
    Utf8.IsUtf8 ((Utf8.encodeChar c).flatMap writeByte) := by
  -- The escapes are for characters of one byte. No byte of a longer one needs any.
  by_cases hsmall : c.toNat < 0x80
  · refine Utf8.isUtf8_flatMap _ _ fun b hb => isUtf8_writeByte ?_
    rw [Utf8.encodeChar_of_lt hsmall] at hb
    rw [List.mem_singleton.mp hb]
    show (UInt8.ofNat c.toNat).toNat < 0x80
    rw [Utf8.toNat_ofNat _ (by omega)]
    exact hsmall
  · have hsame : (Utf8.encodeChar c).flatMap writeByte = (Utf8.encodeChar c).flatMap fun b => [b] :=
      List.flatMap_congr fun b hb =>
        writeByte_of_large (Utf8.toNat_of_mem_encodeChar (Nat.not_lt.mp hsmall) hb)
    rw [hsame, List.flatMap_singleton']
    exact Utf8.isUtf8_encodeChar c

/-- A string is written as a text if it is one. -/
theorem isUtf8_writeText (s : String) : Utf8.IsUtf8 (writeText (piecesOf s)) := by
  -- The bytes are grouped by the characters that they come from.
  have hpieces : (piecesOf s).flatMap writePiece =
      s.toList.flatMap fun c => (Utf8.encodeChar c).flatMap writeByte := by
    rw [piecesOf, List.flatMap_map, Utf8.encode, Utf8.encodeChars, List.flatMap_assoc]
    rfl
  unfold writeText
  rw [hpieces]
  exact ((Utf8.isUtf8_singleton (by decide)).append
    (Utf8.isUtf8_flatMap _ _ fun c _ => isUtf8_flatMap_writeByte c)).append
      (Utf8.isUtf8_singleton (by decide))

theorem isUtf8_separated {parts : List (List UInt8)} (h : ∀ part ∈ parts, Utf8.IsUtf8 part) :
    Utf8.IsUtf8 (separated 0x2C parts) := by
  cases parts with
  | nil => exact Utf8.isUtf8_nil
  | cons part parts =>
      rcases List.forall_mem_cons.mp h with ⟨hpart, hparts⟩
      rw [separated_cons]
      exact hpart.append (Utf8.isUtf8_flatMap _ _ fun p hp =>
        (Utf8.isUtf8_singleton (by decide)).append (hparts p hp))

theorem writeElements_eq_map (vs : List Json) : writeElements vs = vs.map write := by
  induction vs with
  | nil => rfl
  | cons v vs ih => rw [writeElements, ih, List.map_cons]

theorem writeMembers_eq_map (ms : List (List Piece × Json)) :
    writeMembers ms = ms.map fun m => writeText m.1 ++ [0x3A] ++ write m.2 := by
  induction ms with
  | nil => rfl
  | cons m ms ih => rw [writeMembers, ih, List.map_cons]

/-- The bytes of a document are a text if all its strings are. -/
theorem isUtf8_write {v : Json} (h : v.Textual) : Utf8.IsUtf8 (write v) := by
  -- A container puts a byte of its own on both sides.
  have hbetween {first last : UInt8} {middle : List UInt8} (hfirst : first < 0x80)
      (hmiddle : Utf8.IsUtf8 middle) (hlast : last < 0x80) :
      Utf8.IsUtf8 ([first] ++ middle ++ [last]) :=
    ((Utf8.isUtf8_singleton hfirst).append hmiddle).append (Utf8.isUtf8_singleton hlast)
  induction h with
  | null => exact Utf8.isUtf8_of_small (by decide)
  | bool b => cases b <;> exact Utf8.isUtf8_of_small (by decide)
  | number n => exact ⟨_, rfl⟩
  | text s => exact isUtf8_writeText s
  | array _ ih =>
      rw [write, writeElements_eq_map]
      refine hbetween (by decide) (isUtf8_separated fun part hpart => ?_) (by decide)
      rcases List.mem_map.mp hpart with ⟨v, hv, rfl⟩
      exact ih v hv
  | @object ms _ ih =>
      rw [ofMembers, write, writeMembers_eq_map, List.map_map]
      refine hbetween (by decide) (isUtf8_separated fun part hpart => ?_) (by decide)
      rcases List.mem_map.mp hpart with ⟨m, hm, rfl⟩
      exact ((isUtf8_writeText m.1).append (Utf8.isUtf8_singleton (by decide))).append (ih m hm)

/-- What is read from the text of a document is what comes back of it. -/
theorem ofString?_toText {v : Json} (h : v.Textual) : ofString? v.toText = some v.written := by
  rw [ofString?, toText, Utf8.encode_decodeLossy (isUtf8_write h), read?_write]

/-- A value is read from the text that is written of it. -/
def Recovers {α : Type} (write : α → Json) (read : Json → Option α) (a : α) : Prop :=
  (ofString? (write a).toText).bind read = some a

theorem recovers_iff {α : Type} {write : α → Json} {read : Json → Option α} {a : α}
    (h : (write a).Textual) : Recovers write read a ↔ read (write a).written = some a := by
  unfold Recovers
  rw [ofString?_toText h, Option.bind_some]

/-- A value survives as a document: all strings of the document are texts, and the
    value is read from what comes back of it. -/
structure Survives {α : Type} (write : α → Json) (read : Json → Option α) (a : α) : Prop where
  textual : (write a).Textual
  reads : read (write a).written = some a

section

variable {α : Type} {write : α → Json} {read : Json → Option α}

theorem Survives.recovers {a : α} (h : Survives write read a) : Recovers write read a :=
  (recovers_iff h.textual).mpr h.reads

/-! ## Leaves -/

/-- A text survives, since its pieces stand for it still. -/
theorem survives_ofText (s : String) : Survives ofText text? s := by
  refine ⟨.text s, ?_⟩
  rw [ofText, written]
  exact textOf?_of_means (means_written s)

/-- The name of a variant is written as a text. -/
theorem tag?_written (s : String) : tag? (ofText s).written = some s :=
  (survives_ofText s).reads

theorem survives_bool (b : Bool) : Survives Json.bool bool? b :=
  ⟨.bool b, rfl⟩

/-- An integer within its bounds survives. -/
theorem survives_ofInt {low high i : Int} (hlow : low ≤ i) (hhigh : i ≤ high) :
    Survives ofInt (integer? low high) i := by
  refine ⟨.number _, ?_⟩
  let n : Number := ⟨decide (i < 0), Decimal.digitsOf i.natAbs, [], none⟩
  have hdigits : n.value.digits = i.natAbs := by
    show Decimal.ofDigits (Decimal.digitsOf i.natAbs ++ []) = i.natAbs
    rw [List.append_nil, Decimal.ofDigits_digitsOf]
  -- A negative zero would be no integer, and zero is written without a sign.
  have hread : n.integer? = some i := by
    unfold Number.integer?
    rw [if_neg (by simp [n, Number.isWhole]), hdigits]
    by_cases hneg : i < 0
    · have hpos : i.natAbs ≠ 0 := by omega
      have habs : -(i.natAbs : Int) = i := by omega
      rw [if_pos (decide_eq_true hneg), if_neg hpos, habs]
    · have habs : (i.natAbs : Int) = i := by omega
      rw [if_neg (by simp [n, hneg]), habs]
  have hwritten : n.written = n := by
    rw [Number.written_of_isWhole (n := n) rfl, hdigits]
  show ((Number.written n).integer?).filter _ = _
  rw [hwritten, hread, Option.filter_some, if_pos (by simp [hlow, hhigh])]

/-- A double survives if it is read from its own text. -/
theorem survives_ofFloat {x : Float} (h : Recovers ofFloat float? x) :
    Survives ofFloat float? x := by
  have htextual : (ofFloat x).Textual := by
    unfold ofFloat
    dsimp only
    split
    · exact .null
    · exact .number _
  exact ⟨htextual, (recovers_iff htextual).mp h⟩

/-! ## Options and lists -/

/-- `null` stands for what is absent, and nothing that is read is written so. -/
theorem optional?_written {a : α} (hnull : read .null = none) (h : Survives write read a) :
    Json.optional? read (write a).written = some (some a) := by
  have hread := h.reads
  unfold optional?
  split
  · -- A value that is written as `null` would be read from it.
    rename_i hwritten
    rw [hwritten, hnull] at hread
    exact absurd hread (Option.some_ne_none a).symm
  · rw [hread, Option.map_some]

/-- An optional value survives if the value does. -/
theorem survives_ofOption {o : Option α} (hnull : read .null = none)
    (h : ∀ a, o = some a → Survives write read a) :
    Survives (ofOption write) (Json.optional? read) o := by
  cases o with
  | none => exact ⟨.null, rfl⟩
  | some a => exact ⟨(h a rfl).textual, optional?_written hnull (h a rfl)⟩

theorem writtenElements_eq_map (vs : List Json) : writtenElements vs = vs.map written := by
  induction vs with
  | nil => rfl
  | cons v vs ih => rw [writtenElements, ih, List.map_cons]

theorem writtenMembers_eq_map (ms : List (List Piece × Json)) :
    writtenMembers ms = ms.map fun m => (m.1.map Piece.written, m.2.written) := by
  induction ms with
  | nil => rfl
  | cons m ms ih => rw [writtenMembers, ih, List.map_cons]

/-- A list survives if each of its elements does. -/
theorem survives_list {as : List α} (h : ∀ a ∈ as, Survives write read a) :
    Survives (fun as => .array (as.map write)) (list? read) as := by
  refine ⟨.array fun v hv => ?_, ?_⟩
  · rcases List.mem_map.mp hv with ⟨a, ha, rfl⟩
    exact (h a ha).textual
  · rw [written, writtenElements_eq_map, List.map_map]
    have hstands : List.Forall₂ (fun a w => read w = some a) as (as.map (written ∘ write)) := by
      rw [List.forall₂_map_right_iff, List.forall₂_same]
      exact fun a ha => (h a ha).reads
    exact list?_of_renders ⟨_, rfl, hstands⟩ fun a w hread => hread

/-! ## Records and maps -/

/-- The keys of a document come back as the texts that they are. -/
theorem keyed?_written (ms : List (String × Json)) :
    ∃ members, (ofMembers ms).written = .object members ∧
      keyed? members = some (ms.map fun m => (m.1, m.2.written)) := by
  refine ⟨_, by rw [ofMembers, written, writtenMembers_eq_map, List.map_map], ?_⟩
  refine (keyed?_eq_some_iff _ _).mpr ⟨fun m hm => ?_, ?_⟩
  · rcases List.mem_map.mp hm with ⟨f, -, rfl⟩
    rw [Function.comp_apply, textOf?_of_means (means_written f.1), Option.isSome_some]
  · rw [List.map_map]
    refine List.map_congr_left fun f _ => ?_
    rw [Function.comp_apply, Function.comp_apply, named_of_means (means_written f.1)]

/-- The fields of a record are found, in their order and without those that were
    left out. -/
theorem allFields?_written {names : List String} {ms : List (String × Json)}
    (hsub : (ms.map (·.1)).Sublist names) (hnames : names.Nodup) :
    allFields? names (ofMembers ms).written = some (ms.map fun m => (m.1, m.2.written)) := by
  rcases keyed?_written ms with ⟨members, hwritten, hkeyed⟩
  -- No member is dropped, since the name of each is a field.
  have hall : (ms.map fun m => (m.1, m.2.written)).filter (fun f => names.contains f.1) =
      ms.map fun m => (m.1, m.2.written) := by
    refine List.filter_eq_self.mpr fun f hf => ?_
    rcases List.mem_map.mp hf with ⟨m, hm, rfl⟩
    exact List.contains_iff_mem.mpr (hsub.subset (List.mem_map.mpr ⟨m, hm, rfl⟩))
  have honce : noRepeats ((ms.map fun m => (m.1, m.2.written)).map (·.1)) = true := by
    rw [noRepeats_eq_true_iff, List.map_map]
    exact hsub.nodup hnames
  rw [hwritten]
  show fields? names (.object members) = _
  simp only [fields?, hkeyed, Option.bind_eq_bind, Option.bind_some, hall, if_pos honce]

/-- A record survives if its members are fields in their order, their values are
    those of texts, and the record is read from what comes back of them. -/
theorem survives_record {a : α} {names : List String} {ms : List (String × Json)}
    {readFields : Fields → Option α} (hwrite : write a = ofMembers ms)
    (hread : ∀ v, read v = (allFields? names v).bind readFields)
    (hsub : (ms.map (·.1)).Sublist names) (hnames : names.Nodup)
    (htextual : ∀ m ∈ ms, m.2.Textual)
    (h : readFields (ms.map fun m => (m.1, m.2.written)) = some a) : Survives write read a := by
  refine ⟨?_, ?_⟩
  · -- The record comes back as an object of texts, in which the fields are found.
    rw [hwrite]
    exact .object htextual
  · rw [hwrite, hread, allFields?_written hsub hnames, Option.bind_some, h]

/-- A field that must be there is looked for among the fields that were found. -/
@[simp]
theorem need?_cons (fs : Fields) (other : String) (v : Json) (name : String) :
    Fields.need? ((other, v) :: fs) name read =
      if name = other then read v else fs.need? name read := by
  by_cases h : name = other
  · simp [Fields.need?, h]
  · simp [Fields.need?, List.lookup_cons, beq_eq_false_iff_ne.mpr h, h]

@[simp]
theorem optional?_nil (name : String) : Fields.optional? [] name read = some none := rfl

/-- A field that may be missing is looked for in the same way. -/
@[simp]
theorem optional?_cons (fs : Fields) (other : String) (v : Json) (name : String) :
    Fields.optional? ((other, v) :: fs) name read =
      if name = other then Json.optional? read v else fs.optional? name read := by
  by_cases h : name = other
  · simp [Fields.optional?, Fields.getOr, h]
  · simp [Fields.optional?, Fields.getOr, List.lookup_cons, beq_eq_false_iff_ne.mpr h, h]

/-- A map survives if its keys differ and each of its values does. -/
theorem survives_entries {entries : List (String × α)} (hkeys : (entries.map (·.1)).Nodup)
    (h : ∀ e ∈ entries, Survives write read e.2) :
    Survives (fun entries => ofMembers (entries.map fun e => (e.1, write e.2))) (entries? read)
      entries := by
  refine ⟨.object fun m hm => ?_, ?_⟩
  · rcases List.mem_map.mp hm with ⟨e, he, rfl⟩
    exact (h e he).textual
  rcases keyed?_written (entries.map fun e => (e.1, write e.2)) with ⟨members, hwritten, hkeyed⟩
  rw [hwritten, entries?, hkeyed, List.map_map]
  -- What was found before stays there, since no later key is one of it.
  have hfound : ∀ (rest found : List (String × α)), ((found ++ rest).map (·.1)).Nodup →
      (∀ e ∈ rest, Survives write read e.2) →
      (rest.map fun e => (e.1, (write e.2).written)).foldlM
        (fun found m => (read m.2).map fun a => found.filter (·.1 ≠ m.1) ++ [(m.1, a)]) found =
          some (found ++ rest) := by
    intro rest
    induction rest with
    | nil =>
        intro found _ _
        rw [List.append_nil]
        rfl
    | cons e rest ih =>
        intro found hnodup hrest
        have hkept : found.filter (·.1 ≠ e.1) = found := by
          refine List.filter_eq_self.mpr fun d hd => decide_eq_true fun heq => ?_
          rw [List.map_append, List.nodup_append] at hnodup
          exact hnodup.2.2 d.1 (List.mem_map_of_mem hd) e.1 List.mem_cons_self heq
        have he := (hrest e List.mem_cons_self).reads
        rw [List.append_cons] at hnodup ⊢
        rw [List.map_cons, List.foldlM_cons, he, Option.map_some, hkept]
        exact ih (found ++ [e]) hnodup fun d hd => hrest d (List.mem_cons_of_mem e hd)
  exact hfound entries [] hkeys h

end

end Json

end StorageGauges
