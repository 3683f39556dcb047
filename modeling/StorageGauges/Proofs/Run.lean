import Mathlib.Data.List.Induction

/-!
# Runs

A run is a fold: the steps that were taken, and where they lead from some
state. Much of what is asked about a state is asked about the run that led to
it: something is so because some step made it so and no step has ended it
since. What single steps do is enough to know what whole runs do, and the
induction that carries it over is here once for every kind of run.

## Main definitions

* `Since`: A step made something so, and no later step has ended it.

## Theorems

* `foldl_keeps`: What no step changes, a run does not change.
* `since_snoc_iff`: What one more step changes.
* `since_of_holds`: What holds at the end was made so and not ended since.
* `holds_of_since`: What was made so and not ended since holds at the end.
* `since_iff_last`: The same said of the steps alone.
-/

namespace StorageGauges

variable {σ α : Type}

/-- What is seen of a state stays the same over a run if no step of it changes that. -/
theorem foldl_keeps {β : Type} (look : σ → β) (f : σ → α → σ) (x : σ) (steps : List α)
    (hstep : ∀ y, ∀ step ∈ steps, look (f y step) = look y) :
    look (steps.foldl f x) = look x :=
  List.foldlRecOn (motive := fun y => look y = look x) steps f rfl fun y hy step hmem =>
    (hstep y step hmem).trans hy

/-- Some step of a run made something so, and no later step has ended it. What
    makes and what ends may depend on the state in which a step is taken. -/
def Since (f : σ → α → σ) (makes ends : σ → α → Prop) (x : σ) (steps : List α) : Prop :=
  ∃ before step after, steps = before ++ step :: after ∧ makes (before.foldl f x) step ∧
    ∀ mid later rest, after = mid ++ later :: rest →
      ¬ ends ((before ++ step :: mid).foldl f x) later

variable (f : σ → α → σ) (makes ends : σ → α → Prop) (x : σ)

/-- Before the first step nothing was made so. -/
theorem not_since_nil : ¬ Since f makes ends x [] := by
  rintro ⟨before, step, after, heq, -⟩
  exact absurd heq (by simp)

/-- The last step has made something so, or it was made so before and the last step
    has not ended it. All inductions on runs use this form. -/
theorem since_snoc_iff (steps : List α) (last : α) :
    Since f makes ends x (steps ++ [last]) ↔
      makes (steps.foldl f x) last ∨
        (Since f makes ends x steps ∧ ¬ ends (steps.foldl f x) last) := by
  constructor
  · rintro ⟨before, step, after, heq, hmakes, hafter⟩
    -- Either the last step is the one that made it so, or that one came before.
    rcases List.eq_nil_or_concat after with rfl | ⟨rest, other, rfl⟩
    · rcases List.append_inj' heq rfl with ⟨rfl, hlast⟩
      rw [(List.cons.inj hlast).1]
      exact Or.inl hmakes
    · rw [List.concat_eq_append, ← List.cons_append, ← List.append_assoc] at heq
      rcases List.append_inj' heq rfl with ⟨rfl, hlast⟩
      rw [List.concat_eq_append] at hafter
      refine Or.inr ⟨⟨before, step, rest, rfl, hmakes, fun mid later tail hrest => ?_⟩, ?_⟩
      · exact hafter mid later (tail ++ [other]) (by rw [hrest]; simp)
      · rw [(List.cons.inj hlast).1]
        exact hafter rest other [] rfl
  · rintro (hmakes | ⟨⟨before, step, after, rfl, hmakes, hafter⟩, hends⟩)
    · exact ⟨steps, last, [], rfl, hmakes, fun mid later rest heq => absurd heq (by simp)⟩
    · refine ⟨before, step, after ++ [last], by simp, hmakes, fun mid later rest heq => ?_⟩
      -- What comes after `later` is nothing, or it still ends with the last step.
      rcases List.eq_nil_or_concat rest with rfl | ⟨tail, other, rfl⟩
      · rcases List.append_inj' heq rfl with ⟨rfl, hlast⟩
        rw [← (List.cons.inj hlast).1]
        exact hends
      · rw [List.concat_eq_append, ← List.cons_append, ← List.append_assoc] at heq
        exact hafter mid later tail (List.append_inj_left' heq rfl)

/-- If a step can leave something true only by making it so or by not ending
    it, then what holds at the end was made so and has not been ended since. -/
theorem since_of_holds (P : σ → Prop) (steps : List α) (h0 : ¬ P x)
    (hstep : ∀ (before : List α) (step : α), P (f (before.foldl f x) step) →
      makes (before.foldl f x) step ∨
        (P (before.foldl f x) ∧ ¬ ends (before.foldl f x) step))
    (h : P (steps.foldl f x)) : Since f makes ends x steps := by
  induction steps using List.reverseRecOn with
  | nil => exact absurd h h0
  | append_singleton steps last ih =>
      rw [List.foldl_append] at h
      rw [since_snoc_iff]
      exact (hstep steps last h).imp_right fun hold => ⟨ih hold.1, hold.2⟩

/-- If what is made so holds, and holds on until it is ended, then what was
    made so and has not been ended since holds at the end. -/
theorem holds_of_since (P : σ → Prop) (steps : List α)
    (hmakes : ∀ y step, makes y step → P (f y step))
    (hkeeps : ∀ y step, P y → ¬ ends y step → P (f y step))
    (h : Since f makes ends x steps) : P (steps.foldl f x) := by
  induction steps using List.reverseRecOn with
  | nil => exact absurd h (not_since_nil f makes ends x)
  | append_singleton steps last ih =>
      rw [since_snoc_iff] at h
      rw [List.foldl_append]
      -- The last step either made it so or did not end it.
      rcases h with hmade | ⟨hsince, hends⟩
      · exact hmakes _ last hmade
      · exact hkeeps _ last (ih hsince) hends

/-- Where states do not matter, a step made something so and none of those
    after it ends that. -/
theorem since_iff_last (makes ends : α → Prop) (steps : List α) :
    Since (fun _ _ => ()) (fun _ => makes) (fun _ => ends) () steps ↔
      ∃ before step after, steps = before ++ step :: after ∧ makes step ∧
        ∀ later ∈ after, ¬ ends later := by
  constructor
  · rintro ⟨before, step, after, heq, hmakes, hends⟩
    refine ⟨before, step, after, heq, hmakes, fun later hlater => ?_⟩
    -- Where states do not matter, only membership in the rest does.
    rcases List.append_of_mem hlater with ⟨mid, rest, hafter⟩
    exact hends mid later rest hafter
  · rintro ⟨before, step, after, heq, hmakes, hends⟩
    refine ⟨before, step, after, heq, hmakes, fun mid later rest hafter => ?_⟩
    exact hends later (by rw [hafter]; exact List.mem_append_right mid List.mem_cons_self)

end StorageGauges
