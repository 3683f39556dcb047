import StorageGauges.Proofs.Decimal.Digits
import StorageGauges.Proofs.Settings.Accepted

/-!
# What Becomes of Text Settings

A text is taken for what it looks like before anybody knows that a text is
wanted, and a setting that wants one gets what it was taken for, written anew. So
a text comes through as it is if it spells neither a truth value nor a number, or
if it spells one just as it is written: a truth value in small letters, a whole
number without a plus sign and needless zeros, a double in its shortest digits
without a power of ten. Every other spelling is lost. A text is never blank
afterwards that was not blank before, so a selector is set if its text says
something.

## Main definitions

* `Settings.Environment.text?`: The text of a setting.
* `Settings.Value.reread`: What becomes of a text.
* `Decimal.isNumeric`: The characters that numbers are spelled with.

## Theorems

* `Settings.Value.reread_eq_self_iff`: The texts that come through as they are.
* `Settings.Value.spellsNothing_of_name`: Ordinary names spell nothing else.
* `Settings.Value.isAllBlank_reread`: Texts remain blank or not.
* `Settings.text_settings_reread`: The texts that accepted settings have.
-/

namespace StorageGauges

theorem Text.isAllBlank_eq_false {s : String} {c : Char} (hc : c ∈ s.toList)
    (hblank : isBlank c = false) : isAllBlank s = false := by
  unfold isAllBlank
  rw [List.all_eq_false]
  exact ⟨c, hc, by rw [hblank]; simp⟩

namespace Decimal

/-- The characters that numbers are spelled with, the words left aside. -/
def isNumeric (c : Char) : Bool :=
  (digit? c).isSome || c = '+' || c = '-' || c = '.' || c = 'e' || c = 'E'

theorem isNumeric_of_digit? {c : Char} {d : Nat} (h : digit? c = some d) : isNumeric c = true := by
  unfold isNumeric
  rw [h]
  rfl

/-- There are few characters that numbers are spelled with, so what is true of
    each of them can be looked up. -/
theorem forall_isNumeric {p : Char → Prop} (hdigit : ∀ d : Fin 10, p (digitChar d.val))
    (hother : p '+' ∧ p '-' ∧ p '.' ∧ p 'e' ∧ p 'E') {c : Char} (hc : isNumeric c = true) :
    p c := by
  -- A digit is one of ten characters, and the others are listed.
  cases hdigit? : digit? c with
  | some d =>
      rcases digitChar_of_digit? hdigit? with ⟨hd, rfl⟩
      exact hdigit ⟨d, hd⟩
  | none =>
      have hlisted : c = '+' ∨ c = '-' ∨ c = '.' ∨ c = 'e' ∨ c = 'E' := by
        unfold isNumeric at hc
        rw [hdigit?] at hc
        simpa [or_assoc] using hc
      rcases hother with ⟨hplus, hminus, hpoint, hsmall, hlarge⟩
      rcases hlisted with rfl | rfl | rfl | rfl | rfl <;> assumption

theorem isBlank_of_isNumeric {c : Char} (hc : isNumeric c = true) : Text.isBlank c = false :=
  forall_isNumeric (p := fun c => Text.isBlank c = false) (by decide) (by decide) hc

/-- Whatever is wrong with a text is behind its digits. -/
theorem all_of_takeDigits {s : List Char} (h : (takeDigits s).2.all isNumeric = true) :
    s.all isNumeric = true := by
  induction s with
  | nil => rfl
  | cons c rest ih =>
      unfold takeDigits at h
      split at h
      · rename_i d hd
        rw [List.all_cons, isNumeric_of_digit? hd, ih h]
        rfl
      · exact h

theorem all_of_takeSign {s : List Char} (h : (takeSign s).2.all isNumeric = true) :
    s.all isNumeric = true := by
  unfold takeSign at h
  split at h
  · rw [List.all_cons, h]
    rfl
  · rw [List.all_cons, h]
    rfl
  · exact h

/-- A whole number is spelled with numeric characters alone. -/
theorem all_of_integer? {s : List Char} {n : Int} (h : integer? s = some n) :
    s.all isNumeric = true := by
  apply all_of_takeSign
  apply all_of_takeDigits
  unfold integer? at h
  dsimp only at h
  split at h
  · exact absurd h (by simp)
  · rename_i ds hdigits
    rw [hdigits]
    rfl
  · exact absurd h (by simp)

theorem all_of_power? {s : List Char} {n : Int} (h : power? s = some n) :
    s.all isNumeric = true := by
  unfold power? at h
  split at h
  · rfl
  · rename_i c rest
    split at h
    · rename_i hletter
      rw [List.all_cons, all_of_integer? h]
      rcases hletter with rfl | rfl <;> rfl
    · exact absurd h (by simp)

/-- So is a decimal number, with a point and a power or without. -/
theorem all_of_read? {s : List Char} {d : Decimal} (h : read? s = some d) :
    s.all isNumeric = true := by
  apply all_of_takeSign
  apply all_of_takeDigits
  unfold read? at h
  dsimp only at h
  split at h
  · rename_i rest hpoint
    rcases Option.map_eq_some_iff.mp (Option.ite_none_left_eq_some.mp h).2 with ⟨p, hp, -⟩
    rw [hpoint, List.all_cons, all_of_takeDigits (all_of_power? hp)]
    rfl
  · rcases Option.map_eq_some_iff.mp (Option.ite_none_left_eq_some.mp h).2 with ⟨p, hp, -⟩
    exact all_of_power? hp

/-- Every number has a digit, or else a point or a word. -/
theorem exists_mem_positional (l : Layout) {digits : List Char} (exponent : Int)
    (h : ∃ c ∈ digits, Text.isBlank c = false) :
    ∃ c ∈ l.positional digits exponent, Text.isBlank c = false := by
  unfold Layout.positional
  split
  · rcases h with ⟨c, hc, hblank⟩
    exact ⟨c, by simp [hc], hblank⟩
  · -- With a negative exponent there is a point, wherever it stands.
    refine ⟨'.', ?_, by decide⟩
    dsimp only
    split <;> simp

theorem exists_mem_ofNatText (n : Nat) : ∃ c ∈ ofNatText n, Text.isBlank c = false := by
  rcases ofNatText_eq_cons n with ⟨c, rest, d, heq, hc⟩
  rw [heq]
  exact ⟨c, List.mem_cons_self, isBlank_of_isNumeric (isNumeric_of_digit? hc)⟩

/-- What is written for a double has a character that is no blank. -/
theorem exists_mem_writeMagnitude (bits : Nat) :
    ∃ c ∈ plain.writeMagnitude bits, Text.isBlank c = false := by
  unfold Layout.writeMagnitude
  split
  · exact exists_mem_positional plain 0 ⟨'0', List.mem_singleton_self _, by decide⟩
  · split
    · exact ⟨'i', by decide, by decide⟩
    · -- The plain layout never takes to powers of ten.
      have hplaces (e : Int) : plain.isPositional e = true := rfl
      unfold Layout.writePositive
      dsimp only
      rw [if_pos (hplaces _)]
      exact exists_mem_positional plain _ (exists_mem_ofNatText _)

/-- No double is written as a blank text. -/
theorem isAllBlank_plain (x : Float) : Text.isAllBlank (plain.write x) = false := by
  unfold Layout.write
  dsimp only
  split
  · rfl
  · rcases exists_mem_writeMagnitude (Layout.magnitudeBits x) with ⟨c, hc, hblank⟩
    refine Text.isAllBlank_eq_false ?_ hblank
    rw [String.toList_ofList]
    exact List.mem_append_right _ hc

end Decimal

namespace Settings

/-- A character in lower case, as far as ASCII letters can come out of it. -/
def loweredChar (c : Char) : Char :=
  if c = '\u212A' then 'k' else c.toLower

theorem lowered_eq (s : String) : lowered s = String.ofList (s.toList.map loweredChar) :=
  rfl

/-- A blank has no other case. -/
theorem toLower_of_isBlank {c : Char} (h : Text.isBlank c = true) : c.toLower = c := by
  have hsmall : ¬ (c.val ≥ 65 ∧ c.val ≤ 90) := by
    intro hc
    have hfirst : 65 ≤ c.toNat := hc.1
    have hlast : c.toNat ≤ 90 := hc.2
    -- None of the blanks is between `A` and `Z`.
    simp only [Text.isBlank, Bool.or_eq_true, Bool.and_eq_true, decide_eq_true_eq,
      beq_iff_eq] at h
    omega
  unfold Char.toLower
  exact dif_neg hsmall

theorem loweredChar_of_isBlank {c : Char} (h : Text.isBlank c = true) : loweredChar c = c := by
  unfold loweredChar
  -- The sign for a temperature, which is lowered to a letter, is no blank.
  rw [if_neg (by rintro rfl; exact absurd h (by decide)), toLower_of_isBlank h]

/-- The text of a setting: that of the last variable that spells it. -/
def Environment.text? (env : Environment) (setting : String) : Option String :=
  (env.reverse.find? fun v => lowered v.1 = setting).map (·.2)

theorem Environment.find?_eq_map_text? (env : Environment) (setting : String) :
    env.find? setting = (env.text? setting).map .ofText := by
  unfold Environment.find? Environment.text?
  rw [Option.map_map]
  rfl

namespace Value

/-- What becomes of a text that is read as a setting and wanted as a text. -/
def reread (t : String) : String :=
  (ofText t).toText

/-- A text spells neither a truth value nor a number. -/
def SpellsNothing (t : String) : Prop :=
  truthWord? t = none ∧ whole? t = none ∧ Decimal.readFloat? t.toList = none

/-- A text spells a double, and nothing that would be taken first. -/
def SpellsDouble (t : String) (x : Float) : Prop :=
  truthWord? t = none ∧ whole? t = none ∧ Decimal.readFloat? t.toList = some x

/-- A text is spelled as what it is taken for is written. -/
theorem reread_of_truthWord? {t : String} {b : Bool} (h : truthWord? t = some b) :
    reread t = if b then "true" else "false" := by
  unfold reread ofText
  rw [h]
  cases b <;> rfl

theorem reread_of_whole? {t : String} {n : Int} (htruth : truthWord? t = none)
    (h : whole? t = some n) : reread t = integerText n := by
  unfold reread ofText
  rw [htruth, h]
  rfl

theorem SpellsDouble.reread {t : String} {x : Float} (h : SpellsDouble t x) :
    reread t = Decimal.plain.write x := by
  unfold Value.reread ofText
  rw [h.1, h.2.1, h.2.2]
  rfl

theorem SpellsNothing.reread {t : String} (h : SpellsNothing t) : reread t = t := by
  unfold Value.reread ofText
  rw [h.1, h.2.1, h.2.2]
  rfl

/-- A text is taken for one thing, and what it could be is tried in order. -/
theorem spelled_cases (t : String) :
    (∃ b, truthWord? t = some b) ∨ (∃ n, truthWord? t = none ∧ whole? t = some n) ∨
      (∃ x, SpellsDouble t x) ∨ SpellsNothing t := by
  unfold SpellsDouble SpellsNothing
  cases truthWord? t with
  | some b => exact .inl ⟨b, rfl⟩
  | none =>
      cases whole? t with
      | some n => exact .inr (.inl ⟨n, rfl, rfl⟩)
      | none =>
          cases Decimal.readFloat? t.toList with
          | some x => exact .inr (.inr (.inl ⟨x, rfl, rfl, rfl⟩))
          | none => exact .inr (.inr (.inr ⟨rfl, rfl, rfl⟩))

theorem toList_integerText (n : Int) :
    (integerText n).toList = (if n < 0 then ['-'] else []) ++ Decimal.ofNatText n.natAbs := by
  unfold integerText
  dsimp only
  split
  · have hsign : "-".toList = ['-'] := rfl
    rw [String.toList_append, hsign, String.toList_ofList]
  · rw [String.toList_ofList, List.nil_append]

/-- A truth value begins with one of two letters, in either case. -/
theorem toList_of_truthWord? {t : String} {b : Bool} (h : truthWord? t = some b) :
    ∃ c rest, t.toList = c :: rest ∧ (loweredChar c = 't' ∨ loweredChar c = 'f') := by
  -- Lowering a text lowers each of its characters, so the first one is told.
  have hword : lowered t = "true" ∨ lowered t = "false" := by
    unfold truthWord? at h
    split at h
    · exact .inl ‹_›
    · exact .inr ‹_›
    · exact absurd h (by simp)
  have hchars : t.toList.map loweredChar = "true".toList ∨
      t.toList.map loweredChar = "false".toList := by
    rcases hword with hword | hword
    · exact .inl (by rw [← hword, lowered_eq, String.toList_ofList])
    · exact .inr (by rw [← hword, lowered_eq, String.toList_ofList])
  cases hlist : t.toList with
  | nil =>
      rw [hlist] at hchars
      exact absurd hchars (by decide)
  | cons c rest =>
      rw [hlist, List.map_cons] at hchars
      exact ⟨c, rest, rfl, hchars.imp (fun h => (List.cons.inj h).1) fun h => (List.cons.inj h).1⟩

/-- Neither a number nor a blank text begins as a truth value does. -/
theorem truthWord?_eq_none {t : String} {c : Char} {rest : List Char} (ht : t.toList = c :: rest)
    (hc : Decimal.isNumeric c = true ∨ Text.isBlank c = true) : truthWord? t = none := by
  have hletter : loweredChar c ≠ 't' ∧ loweredChar c ≠ 'f' := by
    rcases hc with hc | hc
    · exact Decimal.forall_isNumeric (p := fun c => loweredChar c ≠ 't' ∧ loweredChar c ≠ 'f')
        (by decide) (by decide) hc
    · rw [loweredChar_of_isBlank hc]
      constructor <;> rintro rfl <;> exact absurd hc (by decide)
  cases hword : truthWord? t with
  | none => rfl
  | some b =>
      rcases toList_of_truthWord? hword with ⟨d, tail, hlist, hd⟩
      rw [ht] at hlist
      rw [← (List.cons.inj hlist).1] at hd
      exact absurd hd (not_or_intro hletter.1 hletter.2)

theorem integer?_integerText (n : Int) : Decimal.integer? (integerText n).toList = some n := by
  rw [toList_integerText]
  split
  · rw [List.singleton_append, Decimal.integer?_minus_ofNatText, Option.some.injEq]
    omega
  · rw [List.nil_append, Decimal.integer?_ofNatText, Option.some.injEq]
    omega

/-- A whole number of 64 bits is written as it is. -/
theorem reread_integerText (n : Int) (hleast : -9223372036854775808 ≤ n)
    (hmost : n ≤ 9223372036854775807) : reread (integerText n) = integerText n := by
  have hread := integer?_integerText n
  have hwhole : whole? (integerText n) = some n := by
    unfold whole?
    rw [hread, Option.filter_some, if_pos]
    simp [hleast, hmost]
  have hnumeric := Decimal.all_of_integer? hread
  -- The text begins with a digit or a sign, so it is no truth value.
  cases hlist : (integerText n).toList with
  | nil =>
      have hempty : Decimal.integer? [] = none := rfl
      rw [hlist, hempty] at hread
      exact absurd hread (by simp)
  | cons c rest =>
      rw [hlist, List.all_cons, Bool.and_eq_true] at hnumeric
      exact reread_of_whole? (truthWord?_eq_none hlist (.inl hnumeric.1)) hwhole

theorem range_of_whole? {t : String} {n : Int} (h : whole? t = some n) :
    -9223372036854775808 ≤ n ∧ n ≤ 9223372036854775807 := by
  have hrange := (Option.filter_eq_some_iff.mp h).2
  simpa using hrange

/-- The texts that come through as they are: a truth value in small letters, a
    whole number of 64 bits in decimal digits, a double in its shortest digits,
    and whatever spells neither. -/
theorem reread_eq_self_iff (t : String) :
    reread t = t ↔
      t = "true" ∨ t = "false" ∨
        (∃ n : Int, -9223372036854775808 ≤ n ∧ n ≤ 9223372036854775807 ∧ t = integerText n) ∨
        (∃ x, SpellsDouble t x ∧ t = Decimal.plain.write x) ∨ SpellsNothing t := by
  constructor
  · intro h
    rcases spelled_cases t with ⟨b, hb⟩ | ⟨n, htruth, hn⟩ | ⟨x, hx⟩ | hnothing
    · rw [reread_of_truthWord? hb] at h
      cases b
      · exact .inr (.inl h.symm)
      · exact .inl h.symm
    · rw [reread_of_whole? htruth hn] at h
      exact .inr (.inr (.inl ⟨n, (range_of_whole? hn).1, (range_of_whole? hn).2, h.symm⟩))
    · rw [hx.reread] at h
      exact .inr (.inr (.inr (.inl ⟨x, hx, h.symm⟩)))
    · exact .inr (.inr (.inr (.inr hnothing)))
  · rintro (rfl | rfl | ⟨n, hleast, hmost, rfl⟩ | ⟨x, hx, ht⟩ | hnothing)
    · rfl
    · rfl
    · exact reread_integerText n hleast hmost
    · rw [hx.reread, ← ht]
    · exact hnothing.reread

/-- Ordinary names spell nothing else: they are no words for truth values and
    numbers, and have a character that no number has. -/
theorem spellsNothing_of_name {t : String} (htruth : truthWord? t = none)
    (hword : Decimal.word? t.toList = none) (hname : t.toList.all Decimal.isNumeric = false) :
    SpellsNothing t := by
  refine ⟨htruth, ?_, ?_⟩
  · -- Both readers accept only texts of numeric characters, and the name has another one.
    cases hwhole : whole? t with
    | none => rfl
    | some n =>
        rw [Decimal.all_of_integer? (Option.filter_eq_some_iff.mp hwhole).1] at hname
        exact absurd hname (by simp)
  · unfold Decimal.readFloat?
    rw [hword]
    cases hread : Decimal.read? t.toList with
    | none => rfl
    | some d =>
        rw [Decimal.all_of_read? hread] at hname
        exact absurd hname (by simp)

/-- A text that begins with a blank spells no word for a number. -/
theorem word?_eq_none {c : Char} (hc : Text.isBlank c = true) (rest : List Char) :
    Decimal.word? (c :: rest) = none := by
  have hsign : Decimal.takeSign (c :: rest) = (false, c :: rest) := by
    unfold Decimal.takeSign
    split
    · rename_i tail heq
      rw [(List.cons.inj heq).1] at hc
      exact absurd hc (by decide)
    · rename_i tail heq
      rw [(List.cons.inj heq).1] at hc
      exact absurd hc (by decide)
    · rfl
  have hletter : c ≠ 'i' ∧ c ≠ 'n' := by
    constructor <;> rintro rfl <;> exact absurd hc (by decide)
  unfold Decimal.word?
  rw [hsign]
  dsimp only
  rw [List.map_cons, toLower_of_isBlank hc, if_neg, if_neg]
  · exact fun h => hletter.2 (List.cons.inj h).1
  · rintro (h | h)
    · exact hletter.1 (List.cons.inj h).1
    · exact hletter.1 (List.cons.inj h).1

theorem spellsNothing_of_isAllBlank {t : String} (h : Text.isAllBlank t = true) :
    SpellsNothing t := by
  unfold Text.isAllBlank at h
  cases hlist : t.toList with
  | nil =>
      rw [String.toList_eq_nil_iff.mp hlist]
      exact ⟨rfl, rfl, rfl⟩
  | cons c rest =>
      rw [hlist, List.all_cons, Bool.and_eq_true] at h
      have hnumeric : t.toList.all Decimal.isNumeric = false := by
        cases hc : Decimal.isNumeric c with
        | true =>
            rw [Decimal.isBlank_of_isNumeric hc] at h
            exact absurd h.1 (by simp)
        | false => rw [hlist, List.all_cons, hc, Bool.false_and]
      exact spellsNothing_of_name (truthWord?_eq_none hlist (.inr h.1))
        (by rw [hlist]; exact word?_eq_none h.1 rest) hnumeric

theorem isAllBlank_integerText (n : Int) : Text.isAllBlank (integerText n) = false := by
  rcases Decimal.ofNatText_eq_cons n.natAbs with ⟨c, rest, d, heq, hc⟩
  refine Text.isAllBlank_eq_false ?_ (Decimal.isBlank_of_isNumeric (Decimal.isNumeric_of_digit? hc))
  rw [toList_integerText, heq]
  exact List.mem_append_right _ List.mem_cons_self

/-- Texts remain blank or not. -/
theorem isAllBlank_reread (t : String) : Text.isAllBlank (reread t) = Text.isAllBlank t := by
  -- A blank text spells nothing and is left as it is. Whatever is written anew has
  -- a character that is no blank.
  cases hblank : Text.isAllBlank t with
  | true => rw [(spellsNothing_of_isAllBlank hblank).reread, hblank]
  | false =>
      rcases spelled_cases t with ⟨b, hb⟩ | ⟨n, htruth, hn⟩ | ⟨x, hx⟩ | hnothing
      · rw [reread_of_truthWord? hb]
        cases b <;> rfl
      · rw [reread_of_whole? htruth hn]
        exact isAllBlank_integerText n
      · rw [hx.reread]
        exact Decimal.isAllBlank_plain x
      · rw [hnothing.reread, hblank]

end Value

/-- Accepted settings have the texts that their variables become, which are the
    texts of the variables themselves exactly when these spell no truth value
    and no number or spell one just as it is written. A setting without a
    variable has no text, and a blank selector is none. -/
theorem text_settings_reread (env : Environment) (s : Settings) (h : ofEnvironment env = .ok s) :
    s.options.selfNode = ((env.text? "current_node_name").map Value.reread).getD "" ∧
      s.schedule.selector =
        ((env.text? "ephemeral_storage_label").filter fun t => !Text.isAllBlank t).map
          Value.reread ∧
      ∀ t : String, Value.reread t = t ↔
        t = "true" ∨ t = "false" ∨
          (∃ n : Int, -9223372036854775808 ≤ n ∧ n ≤ 9223372036854775807 ∧
            t = Value.integerText n) ∨
          (∃ x, Value.SpellsDouble t x ∧ t = Decimal.plain.write x) ∨ Value.SpellsNothing t := by
  rcases ofEnvironment_eq_ok_iff.mp h with ⟨hs, -⟩
  refine ⟨?_, ?_, Value.reread_eq_self_iff⟩
  -- Either setting is read from its variable or has its default.
  · rcases ((Environment.read?_eq_some_iff _ _ _ _ _).mp hs.nodeName).2 with
      ⟨v, hv, hname⟩ | ⟨hnone, hname⟩
    · rw [Environment.find?_eq_map_text?] at hv
      rcases Option.map_eq_some_iff.mp hv with ⟨t, ht, rfl⟩
      rw [ht]
      exact (Option.some.inj hname).symm
    · rw [Environment.find?_eq_map_text?, Option.map_eq_none_iff] at hnone
      rw [hnone]
      exact hname.symm
  · have hselector : s.schedule.selector = s.selector.filter fun t => !Text.isAllBlank t := rfl
    rw [hselector]
    rcases ((Environment.read?_eq_some_iff _ _ _ _ _).mp hs.selector).2 with
      ⟨v, hv, hlabel⟩ | ⟨hnone, hlabel⟩
    · rw [Environment.find?_eq_map_text?] at hv
      rcases Option.map_eq_some_iff.mp hv with ⟨t, ht, rfl⟩
      have hread : s.selector = some (Value.reread t) := (Option.some.inj hlabel).symm
      rw [ht, hread, Option.filter_some, Option.filter_some, Value.isAllBlank_reread]
      split <;> rfl
    · rw [Environment.find?_eq_map_text?, Option.map_eq_none_iff] at hnone
      rw [hnone, ← hlabel]
      rfl

/-- A node and a selector, both of which look like numbers. -/
def numbered : Environment :=
  [("CURRENT_NODE_NAME", "007"), ("EPHEMERAL_STORAGE_LABEL", "1.10")]

theorem ofEnvironment_numbered :
    ofEnvironment numbered = .ok { ofNode "7" with selector := some "1.1" } :=
  ofEnvironment_of_convert? (by decide +kernel)

/-- A node that is called like a number is one with another name afterwards, and
    a selector selects something else. -/
theorem text_settings_reread_numbered :
    { ofNode "7" with selector := some "1.1" }.options.selfNode = Value.reread "007" ∧
      { ofNode "7" with selector := some "1.1" }.schedule.selector = some (Value.reread "1.10") :=
  have hread := text_settings_reread numbered _ ofEnvironment_numbered
  ⟨hread.1.trans (by decide +kernel), hread.2.1.trans (by decide +kernel)⟩

/-- So the texts of accepted settings are not always those of the variables. -/
theorem text_settings_not_verbatim :
    ofEnvironment numbered = .ok { ofNode "7" with selector := some "1.1" } ∧
      numbered.text? "current_node_name" = some "007" ∧
      { ofNode "7" with selector := some "1.1" }.options.selfNode ≠ "007" ∧
      numbered.text? "ephemeral_storage_label" = some "1.10" ∧
      { ofNode "7" with selector := some "1.1" }.schedule.selector ≠ some "1.10" :=
  ⟨ofEnvironment_numbered, by decide +kernel, by decide +kernel, by decide +kernel,
    by decide +kernel⟩

end Settings

end StorageGauges
