import StorageGauges.Proofs.Run
import StorageGauges.Proofs.Watched

/-!
# What Is Held for a Name

Objects are told of one at a time, by watches, or together, by listings. What
is kept of them is kept by name: an object that counts for something makes or
replaces the entry of its name, the deletion of an object drops it, and a sweep
drops the entries of the names that its listing lacks.

So the entry of one name after any number of reports can be told without the
other names. It is that of the last object of the name that counts, unless
that object is gone since or a listing since lacks its name.

## Main definitions

* `Report`: What is said of single objects or of all names.
* `heed`: What is held for a name after a report.
* `Report.Settles`: A report decides what is held for a name.

## Theorems

* `Report.forall_not_settles_iff`: What reports leave a name alone.
* `heed_eq_some_iff`: What is held after one report.
* `foldl_heed_eq_some_iff`: What is held after some reports.
-/

namespace StorageGauges

/-- What is said of one object, or the names that a sweep has listed. -/
inductive Report (α : Type)
  | news (n : News α)
  | listed (names : List String)

variable {α β : Type} (nameOf : α → String) (told? : α → Option β) (name : String)

/-- What is held for a name after a report. An object without an entry leaves
    what is held. -/
def heed (held : Option β) : Report α → Option β
  | .news (.seen a) => if nameOf a = name then (told? a).or held else held
  | .news (.gone a) => if nameOf a = name then none else held
  | .listed names => if name ∈ names then held else none

namespace Report

/-- A report makes or replaces what is held for a name, or drops it. -/
def Settles : Report α → Prop
  | news (.seen a) => nameOf a = name ∧ told? a ≠ none
  | news (.gone a) => nameOf a = name
  | listed names => name ∉ names

/-- A report brings an object of a name, with this entry. -/
def Brings (b : β) (r : Report α) : Prop :=
  ∃ a, r = news (.seen a) ∧ nameOf a = name ∧ told? a = some b

end Report

theorem heed_of_not_settles (held : Option β) (r : Report α)
    (h : ¬ r.Settles nameOf told? name) : heed nameOf told? name held r = held := by
  unfold heed
  split
  · rename_i a
    by_cases hname : nameOf a = name
    · -- An object of the name that settles nothing has no entry.
      have htold : told? a = none := by
        by_contra htold
        exact h ⟨hname, htold⟩
      rw [if_pos hname, htold, Option.none_or]
    · rw [if_neg hname]
  · -- An object that is gone settles its own name and no other.
    rename_i a
    have hname : ¬ nameOf a = name := h
    rw [if_neg hname]
  · -- A listing settles the names that it lacks.
    rename_i names
    have hlisted : name ∈ names := by
      by_contra hlisted
      exact h hlisted
    rw [if_pos hlisted]

/-- Reports that do not settle a name leave what is held for it. -/
theorem foldl_heed_of_not_settles (held : Option β) (reports : List (Report α))
    (h : ∀ said ∈ reports, ¬ said.Settles nameOf told? name) :
    reports.foldl (heed nameOf told? name) held = held := by
  -- The first report leaves what is held, and so do those after it.
  induction reports with
  | nil => rfl
  | cons r rest ih =>
      rw [List.foldl_cons, heed_of_not_settles _ _ _ _ r (h r List.mem_cons_self)]
      exact ih fun said hsaid => h said (List.mem_cons_of_mem r hsaid)

/-- What does not settle a name, kind by kind. -/
theorem Report.forall_not_settles_iff (reports : List (Report α)) :
    (∀ said ∈ reports, ¬ said.Settles nameOf told? name) ↔
      (∀ a, .news (.seen a) ∈ reports → told? a ≠ none → nameOf a ≠ name) ∧
        (∀ a, .news (.gone a) ∈ reports → nameOf a ≠ name) ∧
          ∀ names, .listed names ∈ reports → name ∈ names := by
  constructor
  · intro h
    refine ⟨fun a ha htold hname => h _ ha ⟨hname, htold⟩, fun a ha => h _ ha,
      fun names hnames => ?_⟩
    by_contra hlisted
    exact h _ hnames hlisted
  · rintro ⟨hseen, hgone, hlisted⟩ said hsaid hsettles
    cases said with
    | news n =>
        cases n with
        | seen a => exact hseen a hsaid hsettles.2 hsettles.1
        | gone a => exact hgone a hsaid hsettles
    | listed names => exact hsettles (hlisted names hsaid)

/-- What is held after a report was brought by it, or was held before and is
    not settled by it. -/
theorem heed_eq_some_iff (held : Option β) (r : Report α) (b : β) :
    heed nameOf told? name held r = some b ↔
      r.Brings nameOf told? name b ∨ (held = some b ∧ ¬ r.Settles nameOf told? name) := by
  by_cases hsettles : r.Settles nameOf told? name
  · -- A report that settles the name brings the entry, or drops what is held.
    simp only [hsettles, not_true_eq_false, and_false, or_false]
    cases r with
    | news n =>
        cases n with
        | seen a =>
            have hname : nameOf a = name := hsettles.1
            rcases Option.ne_none_iff_exists'.mp hsettles.2 with ⟨c, hc⟩
            simp [heed, Report.Brings, hname, hc]
        | gone a =>
            have hname : nameOf a = name := hsettles
            simp [heed, Report.Brings, hname]
    | listed names =>
        have hlisted : name ∉ names := hsettles
        simp [heed, Report.Brings, hlisted]
  · rw [heed_of_not_settles nameOf told? name held r hsettles]
    have hbrings : ¬ r.Brings nameOf told? name b := by
      rintro ⟨a, rfl, hname, htold⟩
      refine hsettles ⟨hname, ?_⟩
      rw [htold]
      exact Option.some_ne_none b
    simp [hsettles, hbrings]

/-- What is held after some reports, where nothing was held before them: the
    entry of the last object of the name that has one, if no later report has
    settled the name. -/
theorem foldl_heed_eq_some_iff (reports : List (Report α)) (b : β) :
    reports.foldl (heed nameOf told? name) none = some b ↔
      ∃ before a after, reports = before ++ .news (.seen a) :: after ∧ nameOf a = name ∧
        told? a = some b ∧ ∀ later ∈ after, ¬ later.Settles nameOf told? name := by
  -- What is held at the end was brought by some report and not settled since.
  have hsince : reports.foldl (heed nameOf told? name) none = some b ↔
      Since (fun _ _ => ()) (fun _ r => r.Brings nameOf told? name b)
        (fun _ r => r.Settles nameOf told? name) () reports := by
    induction reports using List.reverseRecOn with
    | nil =>
        refine iff_of_false ?_ (not_since_nil _ _ _ ())
        simp only [List.foldl_nil, reduceCtorEq, not_false_eq_true]
    | append_singleton reports last ih =>
        rw [List.foldl_append, List.foldl_cons, List.foldl_nil, heed_eq_some_iff, ih,
          since_snoc_iff]
  rw [hsince, since_iff_last]
  constructor
  · rintro ⟨before, step, after, heq, ⟨a, rfl, hname, htold⟩, hafter⟩
    exact ⟨before, a, after, heq, hname, htold, hafter⟩
  · rintro ⟨before, a, after, heq, hname, htold, hafter⟩
    exact ⟨before, _, after, heq, ⟨a, rfl, hname, htold⟩, hafter⟩

end StorageGauges
