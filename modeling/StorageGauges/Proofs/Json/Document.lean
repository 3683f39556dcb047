import Mathlib.Data.List.Chain
import StorageGauges.Json.Reader
import StorageGauges.Proofs.Json.Numeral
import StorageGauges.Proofs.Json.Text

/-!
# How Documents Are Written

A document is a tree, and a text of it is its tokens from left to right, each
written in one of the ways that it has, with any blanks around them. Which ways
a token has is only a choice for numbers and strings.

Reading undoes all of it. The bytes split into the tokens again, since no two
numbers are ever neighbours and every other token ends where its own syntax
ends. The tokens of a value hand the machine that value, in whatever containers
it stands. When the outermost value is complete the machine takes no further
token, so only blanks may follow it.

## Main definitions

* `Json.tokens`: The tokens of a document.
* `Json.Token.Spelled`: How a token can be written.
* `Json.Spaced`: How tokens can be written after each other.
* `Json.IsText`: How a document can be written.

## Theorems

* `Json.tokens?_append`: Bytes split into the tokens that they spell.
* `Json.foldlM_tokens`: The tokens of a value deliver it.
* `Json.read?_of_isText`: A text of a document is read as the document.
* `Json.read?_append_of_isText`: Nothing but blanks may follow it.
-/

namespace StorageGauges

namespace Json

mutual

/-- The tokens of a document. -/
def tokens : Json → List Token
  | .null => [.leaf .null]
  | .bool b => [.leaf (.bool b)]
  | .number n => [.leaf (.number n)]
  | .text pieces => [.text pieces]
  | .array [] => [.beginArray, .endArray]
  | .array (v :: vs) => .beginArray :: (tokens v ++ furtherElements vs)
  | .object [] => [.beginObject, .endObject]
  | .object ((key, v) :: ms) =>
    .beginObject :: .text key :: .colon :: (tokens v ++ furtherMembers ms)

/-- The tokens of an array after its first element, its end included. -/
def furtherElements : List Json → List Token
  | [] => [.endArray]
  | v :: vs => .comma :: (tokens v ++ furtherElements vs)

/-- The tokens of an object after its first member, its end included. -/
def furtherMembers : List (List Piece × Json) → List Token
  | [] => [.endObject]
  | (key, v) :: ms => .comma :: .text key :: .colon :: (tokens v ++ furtherMembers ms)

end

/-- How a token can be written. -/
inductive Token.Spelled : Token → List UInt8 → Prop
  | beginObject : Spelled .beginObject [0x7B]
  | endObject : Spelled .endObject [0x7D]
  | beginArray : Spelled .beginArray [0x5B]
  | endArray : Spelled .endArray [0x5D]
  | colon : Spelled .colon [0x3A]
  | comma : Spelled .comma [0x2C]
  | nullWord : Spelled (.leaf .null) [0x6E, 0x75, 0x6C, 0x6C]
  | trueWord : Spelled (.leaf (.bool true)) [0x74, 0x72, 0x75, 0x65]
  | falseWord : Spelled (.leaf (.bool false)) [0x66, 0x61, 0x6C, 0x73, 0x65]
  | number (n : Numeral) : Spelled (.leaf (.number n.number)) n.bytes
  | text {ps : List Piece} {bytes : List UInt8} (h : SpelledText ps bytes) :
      Spelled (.text ps) (0x22 :: (bytes ++ [0x22]))

/-- How tokens can be written after each other, with blanks around them. -/
inductive Spaced : List Token → List UInt8 → Prop
  | nil {blanks : List UInt8} (hblanks : blanks.all isSpace = true) : Spaced [] blanks
  | cons {t : Token} {ts : List Token} {blanks bytes rest : List UInt8}
      (hblanks : blanks.all isSpace = true) (ht : t.Spelled bytes) (hts : Spaced ts rest) :
      Spaced (t :: ts) (blanks ++ (bytes ++ rest))

/-- A string of bytes that can stand as they are. -/
theorem Token.Spelled.raw (s : String) (h : (Utf8.encode s).all standsRaw = true) :
    (Token.text (piecesOf s)).Spelled (0x22 :: (Utf8.encode s ++ [0x22])) :=
  .text (spelledText_raw (Utf8.encode s) h)

/-- A token needs no blank in front of it. -/
theorem Spaced.next {t : Token} {ts : List Token} {bytes rest : List UInt8}
    (ht : t.Spelled bytes) (hts : Spaced ts rest) : Spaced (t :: ts) ([] ++ (bytes ++ rest)) :=
  .cons rfl ht hts

theorem Spaced.blanks_append {ts : List Token} {blanks bytes : List UInt8}
    (hblanks : blanks.all isSpace = true) (h : Spaced ts bytes) : Spaced ts (blanks ++ bytes) := by
  cases h with
  | nil hmore => exact .nil (by rw [List.all_append, hblanks, hmore]; rfl)
  | cons hmore ht hts =>
      rw [← List.append_assoc]
      exact .cons (by rw [List.all_append, hblanks, hmore]; rfl) ht hts

/-- Texts of tokens can be put after each other. -/
theorem Spaced.append {ts us : List Token} {bytes more : List UInt8} (hts : Spaced ts bytes)
    (hus : Spaced us more) : Spaced (ts ++ us) (bytes ++ more) := by
  induction hts with
  | nil hblanks => exact hus.blanks_append hblanks
  | cons hblanks ht _ ih =>
      rw [List.cons_append, List.append_assoc, List.append_assoc]
      exact .cons hblanks ht ih

/-- How a document can be written. -/
def IsText (v : Json) (bytes : List UInt8) : Prop :=
  Spaced v.tokens bytes

/-- The tokens that end only where something else follows. -/
def Token.isNumber : Token → Bool
  | .leaf (.number _) => true
  | _ => false

/-- Not both of two neighbours are numbers. -/
def Token.Apart (t u : Token) : Prop :=
  t.isNumber = true → u.isNumber = false

/-! ## Splitting into tokens -/

/-- A number is over where a blank follows. -/
theorem endsNumber_of_isSpace {b : UInt8} (rest : List UInt8) (h : isSpace b = true) :
    EndsNumber (b :: rest) := by
  simp only [isSpace, Bool.or_eq_true, beq_iff_eq] at h
  intro c hc
  cases hc
  rcases h with ((h | h) | h) | h <;> subst h <;> decide

/-- A number begins with its sign or, without one, with a digit of its whole part. -/
theorem Numeral.bytes_eq_cons (n : Numeral) :
    ∃ b rest, n.bytes = b :: rest ∧ (IsDigit b ∨ b = 0x2D) := by
  rcases n.whole.bytes_eq_cons with ⟨d, tail, -, hbytes⟩
  unfold Numeral.bytes
  cases n.negative with
  | true => exact ⟨0x2D, _, rfl, .inr rfl⟩
  | false => exact ⟨digitByte d, _, by rw [hbytes]; rfl, .inl (isDigit_digitByte d)⟩

/-- Only numbers begin with a digit or a minus sign. -/
theorem nextToken?_of_digit (b : UInt8) (rest : List UInt8) (h : IsDigit b ∨ b = 0x2D) :
    nextToken? (b :: rest) =
      (takeNumber? (b :: rest)).map fun r => (.leaf (.number r.1), r.2) := by
  -- Every other branch of the reader asks for a byte that is neither a digit nor a minus
  -- sign.
  unfold nextToken?
  split
  case h_11 => rfl
  all_goals
    rename_i heq
    rw [(List.cons.inj heq).1] at h
    exact absurd h (by decide)

/-- A token is read as itself, and what follows it is left. -/
theorem nextToken?_append {t : Token} {bytes : List UInt8} (h : t.Spelled bytes)
    (rest : List UInt8) (hrest : t.isNumber = true → EndsNumber rest) :
    nextToken? (bytes ++ rest) = some (t, rest) := by
  cases h with
  | number n =>
      rcases n.bytes_eq_cons with ⟨b, tail, hbytes, hb⟩
      rw [hbytes, List.cons_append, nextToken?_of_digit b _ hb, ← List.cons_append, ← hbytes,
        takeNumber?_append n rest (hrest rfl)]
      rfl
  | @text ps bytes h =>
      have htake := takeText?_append h rest
      rw [List.cons_append, List.append_assoc, List.singleton_append, nextToken?, htake]
      rfl
  | _ => rfl

/-- A token begins with no blank. -/
theorem Token.Spelled.eq_cons {t : Token} {bytes : List UInt8} (h : t.Spelled bytes) :
    ∃ b rest, bytes = b :: rest ∧ isSpace b = false := by
  cases h with
  | number n =>
      rcases n.bytes_eq_cons with ⟨b, tail, hbytes, hb⟩
      refine ⟨b, tail, hbytes, ?_⟩
      -- A blank ends a number, so it can be no byte that a number begins with.
      by_contra hspace
      rw [Bool.not_eq_false] at hspace
      have hends := endsNumber_of_isSpace [] hspace b rfl
      rcases hb with hb | hb
      · exact hends.1 hb
      · subst hb
        exact absurd hspace (by decide)
  | _ => exact ⟨_, _, rfl, by decide⟩

/-- Every token but a number ends a number in front of it. -/
theorem Token.Spelled.endsNumber {t : Token} {bytes : List UInt8} (h : t.Spelled bytes)
    (ht : t.isNumber = false) (rest : List UInt8) : EndsNumber (bytes ++ rest) := by
  cases h with
  | number n => exact absurd ht (by simp [Token.isNumber])
  | _ =>
      intro b hb
      cases hb
      decide

/-- Blanks in front are skipped. -/
theorem tokens?_blanks (blanks rest : List UInt8) (h : blanks.all isSpace = true) :
    tokens? (blanks ++ rest) = tokens? rest := by
  induction blanks with
  | nil => rfl
  | cons b blanks ih =>
      rw [List.all_cons, Bool.and_eq_true] at h
      rw [List.cons_append, tokens?, if_pos h.1, ih h.2]

/-- Behind the token that a text begins with, splitting goes on with what is left. -/
theorem tokens?_of_nextToken? (b : UInt8) (s rest : List UInt8) (t : Token)
    (hb : isSpace b = false) (h : nextToken? (b :: s) = some (t, rest)) :
    tokens? (b :: s) = (tokens? rest).map (t :: ·) := by
  rw [tokens?, if_neg (by rw [hb]; exact Bool.false_ne_true)]
  split
  · rename_i hnone
    rw [h] at hnone
    exact absurd hnone (by simp)
  · rename_i t' rest' hsome
    rw [h] at hsome
    cases hsome
    rfl

/-- What follows a number ends it when it does not begin with a number. -/
theorem Spaced.endsNumber {ts : List Token} {bytes : List UInt8} (h : Spaced ts bytes)
    (rest : List UInt8) (hhead : ∀ t, ts.head? = some t → t.isNumber = false)
    (hrest : ts = [] → EndsNumber rest) : EndsNumber (bytes ++ rest) := by
  cases h with
  | nil hblanks =>
      -- A blank ends the number; with none left it is what follows.
      cases bytes with
      | nil => exact hrest rfl
      | cons b blanks =>
          rw [List.all_cons, Bool.and_eq_true] at hblanks
          exact endsNumber_of_isSpace _ hblanks.1
  | @cons t ts blanks bytes tail hblanks ht hts =>
      -- Without a blank the next token stands right behind the number.
      cases blanks with
      | nil =>
          rw [List.nil_append, List.append_assoc]
          exact ht.endsNumber (hhead t rfl) _
      | cons b blanks =>
          rw [List.all_cons, Bool.and_eq_true] at hblanks
          exact endsNumber_of_isSpace _ hblanks.1

/-- Bytes split into the tokens that they spell. A number at the end needs
    something behind it that does not go on with it. -/
theorem tokens?_append {ts : List Token} {bytes : List UInt8} (h : Spaced ts bytes)
    (happart : ts.IsChain Token.Apart) (rest : List UInt8)
    (hlast : ∀ t, ts.getLast? = some t → t.isNumber = true → EndsNumber rest) :
    tokens? (bytes ++ rest) = (tokens? rest).map (ts ++ ·) := by
  induction h with
  | nil hblanks =>
      rw [tokens?_blanks _ _ hblanks]
      -- The last token of the rest is also the last of all.
      cases tokens? rest <;> rfl
  | @cons t ts blanks bytes tail hblanks ht hts ih =>
      rw [List.isChain_cons] at happart
      have htail := ih happart.2 (fun u hu => hlast u (by
        rw [List.getLast?_cons, hu, Option.getD_some]))
      -- Behind a number comes a blank, the next token, which is none, or what is left.
      have hends : t.isNumber = true → EndsNumber (tail ++ rest) := by
        intro hnumber
        refine hts.endsNumber rest (fun u hu => happart.1 u hu hnumber) ?_
        rintro rfl
        exact hlast t rfl hnumber
      rcases ht.eq_cons with ⟨b, s, hbytes, hb⟩
      have hnext := nextToken?_append ht (tail ++ rest) hends
      rw [hbytes, List.cons_append] at hnext
      rw [List.append_assoc, tokens?_blanks _ _ hblanks, List.append_assoc, hbytes,
        List.cons_append, tokens?_of_nextToken? b _ _ t hb hnext, htail, Option.map_map]
      rfl

theorem apart_of_left {t : Token} (h : t.isNumber = false) (u : Token) : t.Apart u :=
  fun ht => absurd ht (by simp [h])

theorem apart_of_right {u : Token} (h : u.isNumber = false) (t : Token) : t.Apart u :=
  fun _ => h

/-- A mark in front of tokens keeps numbers apart. -/
theorem isChain_mark {t : Token} {ts : List Token} (ht : t.isNumber = false)
    (hts : ts.IsChain Token.Apart) : (t :: ts).IsChain Token.Apart :=
  List.isChain_cons.mpr ⟨fun u _ => apart_of_left ht u, hts⟩

/-- So does a mark between tokens. -/
theorem isChain_append_mark {ts us : List Token} (hts : ts.IsChain Token.Apart)
    (hus : us.IsChain Token.Apart) (hhead : ∀ u, us.head? = some u → u.isNumber = false) :
    (ts ++ us).IsChain Token.Apart :=
  List.isChain_append.mpr ⟨hts, hus, fun t _ u hu => apart_of_right (hhead u hu) t⟩

/-- What follows an element is a comma or the end of the array. -/
theorem head?_furtherElements (vs : List Json) (u : Token)
    (h : (furtherElements vs).head? = some u) : u.isNumber = false := by
  cases vs <;> (rw [furtherElements] at h; cases h; rfl)

/-- What follows a member is a comma or the end of the object. -/
theorem head?_furtherMembers (ms : List (List Piece × Json)) (u : Token)
    (h : (furtherMembers ms).head? = some u) : u.isNumber = false := by
  cases ms <;> (rw [furtherMembers] at h; cases h; rfl)

mutual

/-- Between two numbers of a tree there is always a mark: the containers put one on
    both sides of every value. -/
theorem isChain_tokens : ∀ v : Json, v.tokens.IsChain Token.Apart
  | .null | .bool _ | .number _ | .text _ => by simp [tokens]
  | .array [] | .object [] => by
      rw [tokens]
      exact isChain_mark rfl (by simp)
  | .array (v :: vs) => by
      rw [tokens]
      exact isChain_mark rfl (isChain_append_mark (isChain_tokens v)
        (isChain_furtherElements vs) (head?_furtherElements vs))
  | .object ((key, v) :: ms) => by
      rw [tokens]
      exact isChain_mark rfl (isChain_mark rfl (isChain_mark rfl (isChain_append_mark
        (isChain_tokens v) (isChain_furtherMembers ms) (head?_furtherMembers ms))))

theorem isChain_furtherElements : ∀ vs : List Json, (furtherElements vs).IsChain Token.Apart
  | [] => by simp [furtherElements]
  | v :: vs => by
      rw [furtherElements]
      exact isChain_mark rfl (isChain_append_mark (isChain_tokens v)
        (isChain_furtherElements vs) (head?_furtherElements vs))

theorem isChain_furtherMembers :
    ∀ ms : List (List Piece × Json), (furtherMembers ms).IsChain Token.Apart
  | [] => by simp [furtherMembers]
  | (key, v) :: ms => by
      rw [furtherMembers]
      exact isChain_mark rfl (isChain_mark rfl (isChain_mark rfl (isChain_append_mark
        (isChain_tokens v) (isChain_furtherMembers ms) (head?_furtherMembers ms))))

end

/-- A value does not begin with the end of an array. -/
theorem tokens_eq_cons (v : Json) : ∃ t ts, v.tokens = t :: ts ∧ t ≠ .endArray := by
  cases v with
  | array vs => cases vs <;> exact ⟨_, _, by rw [tokens], by simp⟩
  | object ms => cases ms <;> exact ⟨_, _, by rw [tokens], by simp⟩
  | _ => exact ⟨_, _, by rw [tokens], by simp⟩

/-- The first element of an array is read like a further one. -/
theorem step?_elementOrEnd (frames : List Frame) (t : Token) (h : t ≠ .endArray) :
    State.step? (.elementOrEnd frames) t = State.step? (.value (.array [] :: frames)) t := by
  cases t <;> first | rfl | exact absurd rfl h

mutual

-- The recursion is on the tree. The states between two elements and between two
-- members are those in which the lemmas on the further ones begin.

/-- The tokens of a value deliver it, in whatever containers it stands. -/
theorem foldlM_tokens : ∀ (v : Json) (frames : List Frame) (rest : List Token),
    (v.tokens ++ rest).foldlM State.step? (.value frames) =
      rest.foldlM State.step? (State.deliver v frames)
  | .null, frames, rest | .bool _, frames, rest | .number _, frames, rest
  | .text _, frames, rest | .array [], frames, rest | .object [], frames, rest => by
      rw [tokens]
      rfl
  | .array (v :: vs), frames, rest => by
      -- The first token of the first element decides that the array is not empty.
      rcases tokens_eq_cons v with ⟨t, ts, hts, ht⟩
      have hfirst := foldlM_tokens v (.array [] :: frames) (furtherElements vs ++ rest)
      rw [hts, List.cons_append, List.foldlM_cons, ← step?_elementOrEnd frames t ht,
        ← List.foldlM_cons, ← List.cons_append, ← hts] at hfirst
      rw [tokens, List.cons_append, List.foldlM_cons, List.append_assoc]
      refine hfirst.trans ?_
      rw [State.deliver, foldlM_furtherElements]
      rfl
  | .object ((key, v) :: ms), frames, rest => by
      have hfirst := foldlM_tokens v (.object [] key :: frames) (furtherMembers ms ++ rest)
      rw [tokens]
      simp only [List.cons_append, List.append_assoc]
      refine hfirst.trans ?_
      rw [State.deliver, foldlM_furtherMembers]
      rfl

/-- The tokens after an element complete the array. -/
theorem foldlM_furtherElements : ∀ (vs done : List Json) (frames : List Frame)
    (rest : List Token),
    (furtherElements vs ++ rest).foldlM State.step? (.afterElement done frames) =
      rest.foldlM State.step? (State.deliver (.array (done.reverse ++ vs)) frames)
  | [], done, frames, rest => by
      rw [furtherElements, List.append_nil]
      rfl
  | v :: vs, done, frames, rest => by
      have hnext := foldlM_tokens v (.array done :: frames) (furtherElements vs ++ rest)
      rw [furtherElements, List.cons_append, List.append_assoc]
      refine hnext.trans ?_
      rw [State.deliver, foldlM_furtherElements, List.reverse_cons, List.append_assoc]
      rfl

/-- The tokens after a member complete the object. -/
theorem foldlM_furtherMembers : ∀ (ms done : List (List Piece × Json)) (frames : List Frame)
    (rest : List Token), (furtherMembers ms ++ rest).foldlM State.step? (.afterMember done frames) =
      rest.foldlM State.step? (State.deliver (.object (done.reverse ++ ms)) frames)
  | [], done, frames, rest => by
      rw [furtherMembers, List.append_nil]
      rfl
  | (key, v) :: ms, done, frames, rest => by
      have hnext := foldlM_tokens v (.object done key :: frames) (furtherMembers ms ++ rest)
      rw [furtherMembers]
      simp only [List.cons_append, List.append_assoc]
      refine hnext.trans ?_
      rw [State.deliver, foldlM_furtherMembers, List.reverse_cons, List.append_assoc]
      rfl

end

/-- A text of a document is read as the document. -/
theorem read?_of_isText {v : Json} {bytes : List UInt8} (h : IsText v bytes) :
    read? bytes = some v := by
  -- Nothing follows the text, so its last token may be a number.
  have htokens := tokens?_append h (isChain_tokens v) [] (fun _ _ _ => by
    intro b hb
    cases hb)
  have hfold := foldlM_tokens v [] []
  rw [List.append_nil] at hfold
  rw [List.append_nil, tokens?, Option.map_some, List.append_nil] at htokens
  rw [read?, htokens, Option.bind_some, ofTokens?, hfold]
  rfl

end Json

end StorageGauges
