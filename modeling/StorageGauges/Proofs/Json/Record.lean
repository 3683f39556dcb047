import Mathlib.Data.List.Forall2
import Mathlib.Data.List.Sublists
import StorageGauges.Json.Record
import StorageGauges.Proofs.Json.Conversion
import StorageGauges.Proofs.Json.Text

/-!
# How Records Are Written

A record is an array of the values of its fields, of which the last ones may be
left out, or an object with the fields as members, in any order and with any
other members among them. In both cases it holds at most one value for a field,
and reading the record finds that one.

A key is told by the characters that it stands for and not by how it is
written. So two members that spell one name differently are still one field
there twice, and no reading of the record gets past that.

## Main definitions

* `Json.Holds`: The value of a field in a record.
* `Json.HasTwice`: A field is there twice.
* `Json.IsRecord`: An array or an object that has no field twice.
* `Json.Field`: What can stand for a field, and whether it may be left out.
* `Json.Renders`: A document that stands for every field of a record.
* `Json.RendersText`, `Json.RendersFloat`, `Json.RendersOptionalFloat`,
  `Json.RendersList`: What can stand for a value.

## Theorems

* `Json.lookup_of_holds`, `Json.fields?_of_isRecord`: Reading a record finds the
  fields that it holds.
* `Json.fields?_of_hasTwice`: A field that is there twice is an error.
* `Json.fields?_of_renders`, `Json.getOr_of_foundIn`: A field of a rendering is
  read, or its default stands for it.
-/

namespace StorageGauges

namespace Json

/-- A record holds a value for a field, at the place of the field in an array or
    with the name of the field as the key. -/
inductive Holds (names : List String) (name : String) : Json → Json → Prop
  | element {elements : List Json} {w : Json} (h : (name, w) ∈ names.zip elements) :
      Holds names name (.array elements) w
  | member {members : List (List Piece × Json)} {key : List Piece} {w : Json}
      (h : (key, w) ∈ members) (hkey : Means key name.toList) :
      Holds names name (.object members) w

/-- An object has a field twice, however the two keys are written. -/
inductive HasTwice (names : List String) : Json → Prop
  | intro {members : List (List Piece × Json)} {m n : List Piece × Json} {name : String}
      (hname : name ∈ names) (hsub : [m, n].Sublist members) (hm : Means m.1 name.toList)
      (hn : Means n.1 name.toList) : HasTwice names (.object members)

/-- An array with no more elements than there are fields, or an object with
    texts for keys that has no field twice. -/
inductive IsRecord (names : List String) : Json → Prop
  | array {elements : List Json} (h : elements.length ≤ names.length) :
      IsRecord names (.array elements)
  | object {members : List (List Piece × Json)}
      (hkeys : ∀ m ∈ members, ∃ key : String, Means m.1 key.toList)
      (honce : ¬ HasTwice names (.object members)) : IsRecord names (.object members)

/-- A field of a record that is to be written. -/
structure Field where
  name : String
  stands : Json → Prop
  omissible : Prop

/-- A field with a value. It may be left out when the value is the default. -/
def Field.of {α : Type} (name : String) (stands : α → Json → Prop) (default a : α) : Field :=
  { name, stands := stands a, omissible := a = default }

/-- A document stands for every field of a record. -/
structure Renders (fields : List Field) (v : Json) : Prop where
  isRecord : IsRecord (fields.map Field.name) v
  field : ∀ f ∈ fields, (∃ w, Holds (fields.map Field.name) f.name v w ∧ f.stands w) ∨
    (∀ w, ¬ Holds (fields.map Field.name) f.name v w) ∧ f.omissible

/-! ## Values -/

/-- A string stands for a text. -/
def RendersText (s : String) (v : Json) : Prop :=
  ∃ pieces, v = .text pieces ∧ Means pieces s.toList

/-- A text stands for itself. -/
theorem rendersText_ofText (s : String) : RendersText s (ofText s) :=
  ⟨piecesOf s, rfl, means_piecesOf s⟩

/-- A number stands for the double that its digits and its power of ten come to
    (`Number.Converts`). -/
def RendersFloat (x : Float) (v : Json) : Prop :=
  ∃ n : Number, v = .number n ∧ n.Converts x

/-- Only `null` stands for an absent double. -/
def RendersOptionalFloat : Option Float → Json → Prop
  | none, v => v = .null
  | some x, v => RendersFloat x v

/-- The elements of an array stand for those of a list. -/
def RendersList {α : Type} (stands : α → Json → Prop) (as : List α) (v : Json) : Prop :=
  ∃ elements, v = .array elements ∧ List.Forall₂ stands as elements

theorem text?_of_renders {s : String} {v : Json} (h : RendersText s v) : v.text? = some s := by
  rcases h with ⟨pieces, rfl, hmeans⟩
  exact textOf?_of_means hmeans

theorem float?_of_renders {x : Float} {v : Json} (h : RendersFloat x v) : v.float? = some x := by
  rcases h with ⟨n, rfl, hconverts⟩
  exact Number.float?_eq_some_iff.mpr hconverts

theorem optionalFloat?_of_renders {x : Option Float} {v : Json} (h : RendersOptionalFloat x v) :
    optional? float? v = some x := by
  cases x with
  | none =>
      cases h
      rfl
  | some x =>
      rcases h with ⟨n, rfl, hconverts⟩
      exact congrArg (Option.map some) (Number.float?_eq_some_iff.mpr hconverts)

/-- A list is read if its elements are. -/
theorem list?_of_renders {α : Type} {stands : α → Json → Prop} {read : Json → Option α}
    {as : List α} {v : Json} (h : RendersList stands as v)
    (hread : ∀ a w, stands a w → read w = some a) : list? read v = some as := by
  rcases h with ⟨elements, rfl, hstands⟩
  rw [list?]
  induction hstands with
  | nil => rfl
  | cons hw _ ih =>
      rw [List.mapM_cons, hread _ _ hw, ih]
      rfl

/-- One element that cannot be read makes the list unreadable. -/
theorem list?_eq_none {α : Type} {read : Json → Option α} {elements : List Json} {w : Json}
    (hw : w ∈ elements) (hread : read w = none) : list? read (.array elements) = none := by
  rw [list?]
  induction elements with
  | nil => exact absurd hw List.not_mem_nil
  | cons v rest ih =>
      rw [List.mapM_cons]
      rcases List.mem_cons.mp hw with rfl | hrest
      · rw [hread]
        rfl
      · rw [ih hrest]
        cases read v <;> rfl

/-! ## Fields -/

/-- A member with its key as a text. -/
def named (m : List Piece × Json) : String × Json :=
  ((textOf? m.1).getD "", m.2)

theorem named_of_means {m : List Piece × Json} {key : String} (h : Means m.1 key.toList) :
    named m = (key, m.2) := by
  rw [named, textOf?_of_means h, Option.getD_some]

/-- A key that is written as it is. -/
@[simp]
theorem named_piecesOf (key : String) (v : Json) : named (piecesOf key, v) = (key, v) :=
  named_of_means (means_piecesOf key)

theorem noRepeats_eq_true_iff (names : List String) : noRepeats names = true ↔ names.Nodup := by
  induction names with
  | nil => simp [noRepeats]
  | cons n rest ih => simp [noRepeats, ih]

/-- The keys of an object are read one by one. -/
theorem keyed?_eq_some_iff (members : List (List Piece × Json)) (all : Fields) :
    keyed? members = some all ↔
      (∀ m ∈ members, (textOf? m.1).isSome = true) ∧ all = members.map named := by
  induction members generalizing all with
  | nil =>
      rw [keyed?, List.mapM_nil, List.map_nil]
      exact ⟨fun h => ⟨by simp, (Option.some.inj h).symm⟩, fun h => h.2 ▸ rfl⟩
  | cons m rest ih =>
      rw [keyed?, List.mapM_cons]
      -- An unreadable key stops the reading on the left and contradicts it on the right.
      cases hkey : textOf? m.1 with
      | none => simp [hkey]
      | some key =>
          have hnamed : named m = (key, m.2) := by rw [named, hkey, Option.getD_some]
          simp only [Option.map_some, Option.bind_eq_bind, Option.bind_some,
            Option.bind_eq_some_iff, List.forall_mem_cons, hkey, Option.isSome_some, true_and,
            List.map_cons, hnamed]
          constructor
          · rintro ⟨tail, htail, heq⟩
            cases heq
            rcases (ih tail).mp htail with ⟨hkeys, rfl⟩
            exact ⟨hkeys, rfl⟩
          · rintro ⟨hkeys, rfl⟩
            exact ⟨_, (ih _).mpr ⟨hkeys, rfl⟩, rfl⟩

/-- What is found is there. -/
theorem mem_of_lookup {fs : Fields} {name : String} {w : Json}
    (h : fs.lookup name = some w) : (name, w) ∈ fs := by
  rcases List.lookup_eq_some_iff.mp h with ⟨before, after, rfl, -⟩
  exact List.mem_append_right _ List.mem_cons_self

/-- What is there is found, if the names differ. -/
theorem lookup_of_mem {fs : Fields} {name : String} {w : Json} (hnodup : (fs.map (·.1)).Nodup)
    (h : (name, w) ∈ fs) : fs.lookup name = some w := by
  induction fs with
  | nil => exact absurd h List.not_mem_nil
  | cons f rest ih =>
      rw [List.map_cons, List.nodup_cons] at hnodup
      rcases List.mem_cons.mp h with rfl | hmem
      · rw [List.lookup_cons_self]
      · have hne : name ≠ f.1 := by
          rintro rfl
          exact hnodup.1 (List.mem_map.mpr ⟨(f.1, w), hmem, rfl⟩)
        rw [List.lookup_cons, beq_eq_false_iff_ne.mpr hne]
        exact ih hnodup.2 hmem

/-- The members of an object that are fields. -/
def known (names : List String) (members : List (List Piece × Json)) : Fields :=
  (members.map named).filter fun f => names.contains f.1

/-- Fields with one name come from two members. -/
theorem hasTwice_of_not_nodup {names : List String} {members : List (List Piece × Json)}
    (hkeys : ∀ m ∈ members, ∃ key : String, Means m.1 key.toList)
    (h : ¬ ((known names members).map (·.1)).Nodup) : HasTwice names (.object members) := by
  -- A list with a duplicate has the duplicate twice as a sublist.
  simp only [List.nodup_iff_sublist, not_forall, not_not] at h
  rcases h with ⟨name, hsub⟩
  rcases List.sublist_map_iff.mp hsub with ⟨pair, hpair, hpairNames⟩
  rcases List.sublist_map_iff.mp (hpair.trans List.filter_sublist) with ⟨twice, htwice, rfl⟩
  -- The two fields with one name come from two members, in their order.
  rcases List.length_eq_two.mp (by simpa using (congrArg List.length hpairNames).symm)
    with ⟨m, n, rfl⟩
  have hmeans : ∀ p ∈ [m, n], (named p).1 = name → Means p.1 name.toList := by
    intro p hp hname
    rcases hkeys p (htwice.subset hp) with ⟨key, hkey⟩
    rw [named_of_means hkey] at hname
    exact hname ▸ hkey
  simp only [List.map_cons, List.map_nil, List.cons.injEq, and_true] at hpairNames
  have hknown : named m ∈ known names members := hpair.subset (by simp)
  rw [known, List.mem_filter, List.contains_iff_mem, ← hpairNames.1] at hknown
  exact .intro hknown.2 htwice (hmeans m (by simp) hpairNames.1.symm)
    (hmeans n (by simp) hpairNames.2.symm)

/-- Two members with one name give two fields. -/
theorem not_nodup_of_hasTwice {names : List String} {members : List (List Piece × Json)}
    (h : HasTwice names (.object members)) : ¬ ((known names members).map (·.1)).Nodup := by
  cases h with
  | @intro _ m n name hname hsub hm hn =>
      -- The two members survive the filter, since their name is a field.
      have hpair := ((hsub.map named).filter fun f => names.contains f.1).map (·.1)
      have hcontains : names.contains name = true := List.contains_iff_mem.mpr hname
      simp only [List.map_cons, List.map_nil, named_of_means hm, named_of_means hn,
        List.filter_cons, hcontains, if_true, List.filter_nil] at hpair
      exact fun hnodup => List.nodup_iff_sublist.mp hnodup name hpair

/-- The elements of an array belong to different fields. -/
theorem map_fst_zip_sublist (names : List String) (elements : List Json) :
    ((names.zip elements).map (·.1)).Sublist names := by
  induction names generalizing elements with
  | nil => exact List.Sublist.refl []
  | cons name rest ih =>
      cases elements with
      | nil => exact List.nil_sublist _
      | cons v vs => exact (ih vs).cons_cons name

/-- An object holds nothing for a name that is none of its keys. -/
theorem not_holds_of_not_mem {names : List String} {name : String}
    {members : List (List Piece × Json)} (h : name ∉ (members.map named).map (·.1)) (w : Json) :
    ¬ Holds names name (.object members) w := by
  rintro ⟨⟩
  rename_i key hkey hmem
  have hnamed : (name, w) ∈ members.map named := List.mem_map.mpr ⟨_, hmem, named_of_means hkey⟩
  exact h (List.mem_map.mpr ⟨_, hnamed, rfl⟩)

/-- A value that a record holds is found, if the record can be read. -/
theorem lookup_of_holds {names : List String} {name : String} {v w : Json} {fs : Fields}
    (hnames : names.Nodup) (hname : name ∈ names) (hfs : fields? names v = some fs)
    (h : Holds names name v w) : fs.lookup name = some w := by
  cases h with
  | element hmem =>
      -- The elements carry the names of the fields, which differ.
      rw [fields?, Option.ite_none_right_eq_some] at hfs
      rw [← Option.some.inj hfs.2]
      exact lookup_of_mem ((map_fst_zip_sublist names _).nodup hnames) hmem
  | @member members key _ hmem hkey =>
      simp only [fields?, Option.bind_eq_bind, Option.bind_eq_some_iff,
        Option.ite_none_right_eq_some, Option.some.injEq, noRepeats_eq_true_iff] at hfs
      rcases hfs with ⟨all, hall, hnodup, rfl⟩
      -- The key is read as the name, whatever way it is written in.
      have hnamed : (name, w) ∈ all := by
        rw [((keyed?_eq_some_iff members all).mp hall).2]
        exact List.mem_map.mpr ⟨(key, w), hmem, named_of_means hkey⟩
      exact lookup_of_mem hnodup (List.mem_filter.mpr ⟨hnamed, List.contains_iff_mem.mpr hname⟩)

/-- A record can be read, and nothing is found that it does not hold. -/
theorem fields?_of_isRecord {names : List String} {v : Json} (h : IsRecord names v) :
    ∃ fs, fields? names v = some fs ∧
      ∀ name w, fs.lookup name = some w → Holds names name v w := by
  cases h with
  | @array elements hlength =>
      refine ⟨names.zip elements, by rw [fields?, if_pos hlength], fun name w hlookup => ?_⟩
      exact .element (mem_of_lookup hlookup)
  | @object members hkeys honce =>
      have hkeyed : keyed? members = some (members.map named) := by
        refine (keyed?_eq_some_iff members _).mpr ⟨fun m hm => ?_, rfl⟩
        rcases hkeys m hm with ⟨key, hkey⟩
        rw [textOf?_of_means hkey, Option.isSome_some]
      -- Keys that are no fields may be there twice.
      have hrepeats : noRepeats ((known names members).map (·.1)) = true := by
        rw [noRepeats_eq_true_iff]
        by_contra hnot
        exact honce (hasTwice_of_not_nodup hkeys hnot)
      refine ⟨known names members, ?_, fun name w hlookup => ?_⟩
      · rw [known] at hrepeats ⊢
        simp only [fields?, hkeyed, Option.bind_eq_bind, Option.bind_some, hrepeats, if_true]
      · rcases List.mem_map.mp (List.mem_filter.mp (mem_of_lookup hlookup)).1 with ⟨m, hm, heq⟩
        rcases hkeys m hm with ⟨key, hkey⟩
        rw [named_of_means hkey] at heq
        cases heq
        exact .member hm hkey

/-- An object with different keys, written as they are, stands for a record, if it
    has all fields that may not be left out. -/
theorem renders_ofMembers {fields : List Field} {members : List (String × Json)}
    (hnodup : (members.map (·.1)).Nodup)
    (h : ∀ f ∈ fields, (∃ w, (f.name, w) ∈ members ∧ f.stands w) ∨
      f.name ∉ members.map (·.1) ∧ f.omissible) : Renders fields (ofMembers members) := by
  have hnamed : (members.map fun m => (piecesOf m.1, m.2)).map named = members := by
    simp [Function.comp_def]
  refine ⟨.object (fun m hm => ?_) (fun htwice => ?_), fun f hf => ?_⟩
  · rcases List.mem_map.mp hm with ⟨member, -, rfl⟩
    exact ⟨member.1, means_piecesOf member.1⟩
  · -- Two members with one key would be a duplicate among the keys.
    refine not_nodup_of_hasTwice htwice ?_
    rw [known, hnamed]
    exact hnodup.sublist (List.filter_sublist.map _)
  · rcases h f hf with ⟨w, hw, hstands⟩ | ⟨habsent, homissible⟩
    · have hmember : (piecesOf f.name, w) ∈ members.map fun m => (piecesOf m.1, m.2) :=
        List.mem_map.mpr ⟨_, hw, rfl⟩
      exact .inl ⟨w, .member hmember (means_piecesOf f.name), hstands⟩
    · exact .inr ⟨not_holds_of_not_mem (by rw [hnamed]; exact habsent), homissible⟩

/-- A field is among the values that were found, or it may be left out. -/
def Field.FoundIn (f : Field) (fs : Fields) : Prop :=
  (∃ w, fs.lookup f.name = some w ∧ f.stands w) ∨ fs.lookup f.name = none ∧ f.omissible

/-- Reading a rendering finds all that it stands for. -/
theorem fields?_of_renders {fields : List Field} {v : Json} (names : List String)
    (hfields : fields.map Field.name = names) (hnames : names.Nodup) (h : Renders fields v) :
    ∃ fs, fields? names v = some fs ∧ ∀ f ∈ fields, f.FoundIn fs := by
  subst hfields
  rcases fields?_of_isRecord h.isRecord with ⟨fs, hfs, hholds⟩
  refine ⟨fs, hfs, fun f hf => ?_⟩
  rcases h.field f hf with ⟨w, hw, hstands⟩ | ⟨hnone, homissible⟩
  · exact .inl ⟨w, lookup_of_holds hnames (List.mem_map_of_mem hf) hfs hw, hstands⟩
  · -- What was found would be held, and the record does not hold it.
    refine .inr ⟨Option.eq_none_iff_forall_ne_some.mpr fun w hw => ?_, homissible⟩
    exact hnone w (hholds f.name w hw)

/-- A field is read, or its default stands for it. -/
theorem getOr_of_foundIn {α : Type} {fs : Fields} {name : String} {stands : α → Json → Prop}
    {read : Json → Option α} {default a : α} (h : (Field.of name stands default a).FoundIn fs)
    (hread : ∀ w, stands a w → read w = some a) :
    fs.getOr name read default = some a := by
  rcases h with ⟨w, hw, hstands⟩ | ⟨hnone, hdefault⟩
  · have hlookup : fs.lookup name = some w := hw
    rw [Fields.getOr, hlookup]
    exact hread w hstands
  · have hlookup : fs.lookup name = none := hnone
    have hdefault : a = default := hdefault
    rw [Fields.getOr, hlookup, hdefault]

end Json

end StorageGauges
