/-!
# Maps from Names

What the exporter knows about nodes, pods and components is kept by name. A
map is the list of its entries in the order of the names, so that two maps
with the same entries are the same list and every report of one comes out in
a settled order.

## Main definitions

* `NameMap`: Entries by name.
* `NameMap.find?`: The entry of a name.
* `NameMap.insert`: Adds an entry, or replaces the one that was there.
* `NameMap.erase`: Drops the entry of a name.
* `NameMap.keep`: Drops the entries whose names fail a test.
* `NameMap.names`: The names that have an entry.
* `NameMap.Ordered`: The entries stand in the order of their names.

## Theorems

* `NameMap.find?_insert`: What is found after an entry was added.
* `NameMap.find?_erase`: What is found after an entry was dropped.
* `NameMap.find?_keep`: What is found after entries were dropped by a test.
* `NameMap.mem_insert`, `NameMap.mem_keep`: The entries after either.
* `NameMap.mem_names_iff`: A name has an entry exactly if one is found.
* `NameMap.ordered_insert`: An added entry keeps the order.
* `NameMap.mem_iff_find?`: The entries of an ordered map are those that are found.
* `NameMap.nodup_names`: No name of an ordered map stands twice.
* `NameMap.ofEntries_of_ordered`: An ordered map is the map with its entries.
-/

namespace StorageGauges

/-- Entries by name. -/
abbrev NameMap (α : Type) := List (String × α)

namespace NameMap

variable {α : Type}

/-- The entry of a name. -/
def find? (m : NameMap α) (name : String) : Option α :=
  m.lookup name

/-- A name has an entry. -/
def contains (m : NameMap α) (name : String) : Bool :=
  (m.find? name).isSome

/-- Adds an entry in the order of the names, or replaces the one that was
    there. -/
def insert (m : NameMap α) (name : String) (a : α) : NameMap α :=
  match m with
  | [] => [(name, a)]
  | (other, b) :: rest =>
    if name = other then (name, a) :: rest
    else if name < other then (name, a) :: (other, b) :: rest
    else (other, b) :: insert rest name a

/-- Drops the entries whose names fail a test. -/
def keep (m : NameMap α) (test : String → Bool) : NameMap α :=
  m.filter fun e => test e.1

/-- Drops the entry of a name. -/
def erase (m : NameMap α) (name : String) : NameMap α :=
  m.keep fun other => other != name

/-- The names that have an entry. -/
def names (m : NameMap α) : List String :=
  m.map (·.1)

/-- The map with the given entries; of a name that stands twice the last
    entry counts. -/
def ofEntries (entries : List (String × α)) : NameMap α :=
  entries.foldl (fun m e => m.insert e.1 e.2) []

theorem find?_insert (m : NameMap α) (name other : String) (a : α) :
    (m.insert name a).find? other = if other = name then some a else m.find? other := by
  induction m with
  | nil =>
      by_cases h : other = name
      · simp [insert, find?, h]
      · have hb : (other == name) = false := by simp [h]
        simp [insert, find?, List.lookup_cons, h, hb]
  | cons e rest ih =>
      obtain ⟨k, b⟩ := e
      simp only [find?] at ih
      simp only [insert, find?]
      split
      · rename_i hk
        subst hk
        by_cases h : other = name
        · simp [h]
        · have hb : (other == name) = false := by simp [h]
          simp [List.lookup_cons, h, hb]
      · split
        · by_cases h : other = name
          · simp [h]
          · have hb : (other == name) = false := by simp [h]
            simp [List.lookup_cons, h, hb]
        · rename_i hk _
          by_cases h : other = k
          · subst h
            simp [Ne.symm hk]
          · have hb : (other == k) = false := by simp [h]
            simp [List.lookup_cons, hb, ih]

theorem find?_keep (m : NameMap α) (test : String → Bool) (name : String) :
    (m.keep test).find? name = if test name then m.find? name else none := by
  induction m with
  | nil => simp [keep, find?]
  | cons e rest ih =>
      obtain ⟨k, b⟩ := e
      simp only [keep, find?] at ih
      by_cases h : name = k
      · subst h
        cases ht : test name <;> simp [keep, find?, List.filter, ht, ih]
      · have hb : (name == k) = false := by simp [h]
        cases ht : test k <;> simp [keep, find?, List.filter, ht, ih, List.lookup_cons, hb]

theorem find?_erase (m : NameMap α) (name other : String) :
    (m.erase name).find? other = if other = name then none else m.find? other := by
  rw [erase, find?_keep]
  by_cases h : other = name <;> simp [h]

theorem mem_keep (m : NameMap α) (test : String → Bool) (entry : String × α) :
    entry ∈ m.keep test ↔ entry ∈ m ∧ test entry.1 = true := by
  rw [keep, List.mem_filter]

theorem mem_insert (m : NameMap α) (name : String) (a : α) (entry : String × α)
    (h : entry ∈ m.insert name a) : entry = (name, a) ∨ entry ∈ m := by
  induction m with
  | nil => exact Or.inl (List.mem_singleton.mp h)
  | cons head rest ih =>
      unfold insert at h
      split at h
      · rcases List.mem_cons.mp h with h | h
        · exact Or.inl h
        · exact Or.inr (List.mem_cons_of_mem head h)
      · split at h
        · exact List.mem_cons.mp h
        · rcases List.mem_cons.mp h with h | h
          · exact Or.inr (List.mem_cons.mpr (Or.inl h))
          · exact (ih h).imp_right (List.mem_cons_of_mem head)

theorem mem_names_iff (m : NameMap α) (name : String) :
    name ∈ m.names ↔ m.find? name ≠ none := by
  rw [names, find?, ne_eq, List.lookup_eq_none_iff]
  simp

/-- The entries stand in the order of their names, and no name stands twice. -/
def Ordered (m : NameMap α) : Prop :=
  m.Pairwise fun d e => d.1 < e.1

theorem ordered_insert (m : NameMap α) (name : String) (a : α) (h : m.Ordered) :
    (m.insert name a).Ordered := by
  induction m with
  | nil => exact List.pairwise_singleton _ _
  | cons head rest ih =>
      obtain ⟨k, b⟩ := head
      rcases List.pairwise_cons.mp h with ⟨hhead, hrest⟩
      unfold insert
      by_cases hk : name = k
      · rw [if_pos hk]
        subst hk
        exact List.pairwise_cons.mpr ⟨hhead, hrest⟩
      · rw [if_neg hk]
        by_cases hlt : name < k
        · rw [if_pos hlt]
          refine List.pairwise_cons.mpr ⟨fun e he => ?_, h⟩
          rcases List.mem_cons.mp he with rfl | he
          · exact hlt
          · exact String.lt_trans hlt (hhead e he)
        · rw [if_neg hlt]
          refine List.pairwise_cons.mpr ⟨fun e he => ?_, ih hrest⟩
          rcases mem_insert rest name a e he with rfl | he
          · -- The new name is neither the first one nor before it.
            refine Decidable.byContradiction fun hnot => hk ?_
            exact String.le_antisymm (String.not_lt.mp hnot) (String.not_lt.mp hlt)
          · exact hhead e he

/-- The entries of an ordered map are those that are found. -/
theorem mem_iff_find? (m : NameMap α) (h : m.Ordered) (name : String) (a : α) :
    (name, a) ∈ m ↔ m.find? name = some a := by
  induction m with
  | nil => simp [find?]
  | cons head rest ih =>
      obtain ⟨k, b⟩ := head
      rcases List.pairwise_cons.mp h with ⟨hhead, hrest⟩
      have hih : (name, a) ∈ rest ↔ rest.lookup name = some a := ih hrest
      rw [find?, List.lookup_cons, List.mem_cons]
      by_cases hk : name = k
      · subst hk
        -- No later entry has the first name.
        have hlater : (name, a) ∉ rest := fun he => String.lt_irrefl name (hhead _ he)
        simp [hlater, eq_comm]
      · have hb : (name == k) = false := by simp [hk]
        simp [hk, hb, hih]

theorem nodup_names (m : NameMap α) (h : m.Ordered) : m.names.Nodup := by
  rw [names, List.Nodup, List.pairwise_map]
  refine List.Pairwise.imp (fun {d e} hlt heq => ?_) h
  rw [heq] at hlt
  exact String.lt_irrefl e.1 hlt

/-- An entry whose name is after all others is added at the end. -/
theorem insert_of_after (m : NameMap α) (name : String) (a : α) (h : ∀ e ∈ m, e.1 < name) :
    m.insert name a = m ++ [(name, a)] := by
  induction m with
  | nil => rfl
  | cons head rest ih =>
      obtain ⟨k, b⟩ := head
      have hlt : k < name := h (k, b) List.mem_cons_self
      have hne : name ≠ k := by
        rintro rfl
        exact String.lt_irrefl name hlt
      rw [insert, if_neg hne, if_neg (String.lt_asymm hlt),
        ih fun e he => h e (List.mem_cons_of_mem _ he), List.cons_append]

/-- An ordered map is the map with its entries. -/
theorem ofEntries_of_ordered (m : NameMap α) (h : m.Ordered) : ofEntries m = m := by
  -- All entries that were added are before those that are not yet.
  have hadded : ∀ (rest added : NameMap α), Ordered (added ++ rest) →
      rest.foldl (fun m e => m.insert e.1 e.2) added = added ++ rest := by
    intro rest
    induction rest with
    | nil => exact fun added _ => (List.append_nil added).symm
    | cons e rest ih =>
        intro added hordered
        have hbefore : ∀ d ∈ added, d.1 < e.1 := fun d hd =>
          (List.pairwise_append.mp hordered).2.2 d hd e List.mem_cons_self
        rw [List.append_cons] at hordered
        rw [List.foldl_cons, insert_of_after added e.1 e.2 hbefore, ih (added ++ [e]) hordered]
        exact (List.append_cons added e rest).symm
  exact hadded m [] h

end NameMap

end StorageGauges
