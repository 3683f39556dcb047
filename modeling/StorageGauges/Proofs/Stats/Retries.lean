import Mathlib.Data.ENat.Basic
import StorageGauges.Stats.Query

/-!
# What Retrying Comes To

A query ends at the first attempt that succeeds, or else at the failure after which
it is granted no other wait. It does not go on behind either, and before it is
nothing but failed attempts and their count. So the payload is that of the first
success, and the failure that is given is the one that ended the query and none of
those before it.

A budget is the number of that failure, and none if all waits are granted. In that
case a query without a success never ends. What grants the waits may look at
clocks and draw lots: all that counts is after which failure it says no.

What failures are like is of no account, so nothing is said about them here. The
counter has 32 bits, and shows what is left of the number of attempts by these: a
query that gives up at attempt number `2 ^ 32` says that it made none.

## Main definitions

* `IsBudget`: The number of the failure after which no wait is granted.
* `FailsUntil`, `FirstSuccess`: What the attempts of a query answer.
* `Course.result?`: The result of a query that is over.

## Theorems

* `exists_isBudget`: There is always a budget.
* `course_of_failsUntil`: A query goes on through failures.
* `course_of_over`: A query that is over makes no attempts.
* `course_of_last`, `course_of_firstSuccess`, `course_of_refused`: The two ends of a
  query.
* `result?_course`: The result within a limited number of retries.
* `query_of_attempts`: What a query comes to.
* `query_ends_otherwise`: The number that it gives is not always that of its
  attempts, and not every query without a success gives up.
-/

namespace StorageGauges

/-- No wait is granted after failure number `k`, the first of this kind. -/
structure IsBudget (grants : Nat → Bool) (k : ℕ∞) : Prop where
  granted : ∀ n : Nat, 0 < n → (n : ℕ∞) < k → grants n = true
  refused : ∀ n : Nat, k = n → 0 < n ∧ grants n = false

/-- Who grants a wait after each failure before the one of number `n` has a budget of `n`. -/
theorem isBudget_of_pos {n : Nat} (hpos : 0 < n) : IsBudget (fun j => decide (j < n)) n where
  granted j _ hj := decide_eq_true (by exact_mod_cast hj)
  refused m hm := by
    obtain rfl : n = m := by exact_mod_cast hm
    exact ⟨hpos, decide_eq_false (Nat.lt_irrefl n)⟩

/-- There is a budget, whatever grants the waits. -/
theorem exists_isBudget (grants : Nat → Bool) : ∃ k, IsBudget grants k := by
  by_cases hrefused : ∃ n, 0 < n ∧ grants n = false
  · refine ⟨(Nat.find hrefused : Nat), fun j hpos hj => ?_, fun n hn => ?_⟩
    · -- The budget ends with the first wait that is refused.
      have hbefore := Nat.find_min hrefused (by exact_mod_cast hj : j < Nat.find hrefused)
      exact eq_true_of_ne_false fun h => hbefore ⟨hpos, h⟩
    · obtain rfl : Nat.find hrefused = n := by exact_mod_cast hn
      exact Nat.find_spec hrefused
  · refine ⟨⊤, fun j hpos _ => ?_, fun n hn => absurd hn (ENat.top_ne_natCast n)⟩
    exact eq_true_of_ne_false fun h => hrefused ⟨j, hpos, h⟩

section Attempts

variable {ε : Type} {grants : Nat → Bool} {answers : Nat → Except ε Payload}

/-- The first attempts fail, one way or another. -/
def FailsUntil (answers : Nat → Except ε Payload) (n : Nat) : Prop :=
  ∀ i < n, ∃ failure, answers i = .error failure

/-- An attempt succeeds, and all those before it fail. -/
def FirstSuccess (answers : Nat → Except ε Payload) (i : Nat) (payload : Payload) : Prop :=
  answers i = .ok payload ∧ FailsUntil answers i

/-- The result of a query that is over. -/
def Course.result? : Course ε → Option (Except (GaveUp ε) Fetched)
  | .trying _ _ => none
  | .over made result => some (result.map fun payload => { payload, attempts := made })

theorem FailsUntil.mono {m n : Nat} (h : FailsUntil answers n) (hle : m ≤ n) :
    FailsUntil answers m :=
  fun i hi => h i (Nat.lt_of_lt_of_le hi hle)

/-- Attempts fail as long as none of them is the first to succeed. -/
theorem failsUntil_of_no_firstSuccess {n : Nat}
    (h : ∀ i payload, i < n → ¬FirstSuccess answers i payload) : FailsUntil answers n := by
  intro i
  induction i using Nat.strong_induction_on with
  | _ i ih =>
      intro hi
      -- Were the attempt a success, it would be the first one.
      cases hanswer : answers i with
      | error failure => exact ⟨failure, rfl⟩
      | ok payload =>
          refine absurd ⟨hanswer, ?_⟩ (h i payload hi)
          intro j hj
          exact ih j hj (Nat.lt_trans hj hi)

/-! ### One attempt -/

section Next

variable (node : String) {made : Nat} (count : UInt32)

theorem next_of_ok {payload : Payload} (h : answers made = .ok payload) :
    (Course.trying made count).next node grants answers = .over (made + 1) (.ok payload) := by
  simp only [Course.next, h]

/-- A failure with a wait granted leads to the next attempt. -/
theorem next_of_granted {failure : ε} (h : answers made = .error failure)
    (hgranted : grants (made + 1) = true) :
    (Course.trying made count).next node grants answers = .trying (made + 1) (count + 1) := by
  simp only [Course.next, h, if_pos hgranted]

/-- A failure without one ends the query, and the failure is kept. -/
theorem next_of_refused {failure : ε} (h : answers made = .error failure)
    (hrefused : grants (made + 1) = false) :
    (Course.trying made count).next node grants answers =
      .over (made + 1) (.error { node, count := count + 1, last := failure }) := by
  simp only [Course.next, h, hrefused, Bool.false_eq_true, if_false]

end Next

/-! ### A whole query -/

variable (node : String)

/-- A query goes on through failures as long as it is granted the waits. -/
theorem course_of_failsUntil {n : Nat} (hfails : FailsUntil answers n)
    (hgranted : ∀ j, 0 < j → j ≤ n → grants j = true) :
    course node grants answers n = .trying n (.ofNat n) := by
  induction n with
  | zero => rfl
  | succ n ih =>
      have hbefore := ih (hfails.mono (Nat.le_succ n)) fun j hpos hle =>
        hgranted j hpos (Nat.le_succ_of_le hle)
      rcases hfails n (Nat.lt_succ_self n) with ⟨failure, hfailure⟩
      rw [course, hbefore,
        next_of_granted node _ hfailure (hgranted (n + 1) (Nat.succ_pos n) (Nat.le_refl _)),
        ← UInt32.ofNat_one, ← UInt32.ofNat_add]

/-- A query that is over stays as it is. -/
theorem course_of_over {m n made : Nat} {result : Except (GaveUp ε) Payload}
    (h : course node grants answers n = .over made result) (hle : n ≤ m) :
    course node grants answers m = .over made result := by
  -- Nothing comes after the end.
  induction m, hle using Nat.le_induction with
  | base => exact h
  | succ m _ ih =>
      rw [course, ih]
      rfl

/-- If the first attempts fail and the query is over with the next one, then it has gone
    on until there and stays over. -/
theorem course_of_last {n : Nat} {result : Except (GaveUp ε) Payload}
    (hfails : FailsUntil answers n) (hgranted : ∀ j, 0 < j → j ≤ n → grants j = true)
    (hlast : (Course.trying n (.ofNat n)).next node grants answers = .over (n + 1) result)
    (m : Nat) :
    course node grants answers m =
      if m ≤ n then .trying m (.ofNat m) else .over (n + 1) result := by
  split
  · rename_i hle
    exact course_of_failsUntil node (hfails.mono hle) fun j hpos hj =>
      hgranted j hpos (Nat.le_trans hj hle)
  · rename_i hlater
    refine course_of_over node (n := n + 1) ?_ (by omega)
    rw [course, course_of_failsUntil node hfails hgranted, hlast]

/-- A query that comes to the first success ends there. -/
theorem course_of_firstSuccess {i : Nat} {payload : Payload}
    (hfirst : FirstSuccess answers i payload) (hgranted : ∀ j, 0 < j → j ≤ i → grants j = true)
    (m : Nat) :
    course node grants answers m =
      if m ≤ i then .trying m (.ofNat m) else .over (i + 1) (.ok payload) :=
  course_of_last node hfirst.2 hgranted (next_of_ok node _ hfirst.1) m

/-- A query that fails until it is granted no other wait gives up there. -/
theorem course_of_refused {n : Nat} {failure : ε} (hfails : FailsUntil answers n)
    (hfailure : answers n = .error failure) (hgranted : ∀ j, 0 < j → j ≤ n → grants j = true)
    (hrefused : grants (n + 1) = false) (m : Nat) :
    course node grants answers m =
      if m ≤ n then .trying m (.ofNat m)
      else .over (n + 1) (.error { node, count := .ofNat (n + 1), last := failure }) := by
  refine course_of_last node hfails hgranted ?_ m
  rw [next_of_refused node _ hfailure hrefused, ← UInt32.ofNat_one, ← UInt32.ofNat_add]

/-- The course of a query is made of single attempts. -/
theorem course_eq_iterate (n : Nat) :
    course node grants answers n =
      (Course.next node grants answers)^[n] (.trying 0 0) := by
  induction n with
  | zero => rfl
  | succ n ih => rw [course, ih, Function.iterate_succ_apply']

/-- With so many waits left, and no other, the attempts come to the result that is
    computed. -/
theorem result?_iterate_next (left : Nat) {made : Nat} (count : UInt32)
    (hgranted : ∀ j, made < j → j ≤ made + left → grants j = true)
    (hrefused : grants (made + left + 1) = false) :
    ((Course.next node grants answers)^[left + 1] (.trying made count)).result? =
      some (queryFrom node answers made count left) := by
  -- The induction is on the waits that are left; after a success the other turns do
  -- nothing.
  induction left generalizing made count with
  | zero =>
      rw [Function.iterate_one]
      cases hanswer : answers made with
      | ok payload =>
          rw [next_of_ok node count hanswer]
          simp only [queryFrom, hanswer]
          rfl
      | error failure =>
          rw [next_of_refused node count hanswer hrefused]
          simp only [queryFrom, hanswer]
          rfl
  | succ left ih =>
      rw [Function.iterate_succ_apply]
      cases hanswer : answers made with
      | ok payload =>
          rw [next_of_ok node count hanswer, Function.iterate_fixed rfl]
          simp only [queryFrom, hanswer]
          rfl
      | error failure =>
          rw [next_of_granted node count hanswer (hgranted _ (by omega) (by omega)),
            ih (count + 1) (fun j hlow hhigh => hgranted j (by omega) (by omega))
              (by rwa [show made + 1 + left + 1 = made + (left + 1) + 1 by omega])]
          simp only [queryFrom, hanswer]

/-- The result within a limited number of retries is what the query comes to. -/
theorem result?_course {retries : Nat} (hk : IsBudget grants (retries + 1 : Nat)) :
    (course node grants answers (retries + 1)).result? = some (query node answers retries) := by
  rw [course_eq_iterate, query]
  refine result?_iterate_next node retries 0 (fun j hpos hle => hk.granted j hpos ?_) ?_
  · exact_mod_cast (by omega : j < retries + 1)
  · rw [Nat.zero_add]
    exact (hk.refused (retries + 1) rfl).2

/-- If some attempt succeeds before the failure that ends the budget, a query ends with
    the first one, having made the attempts up to it, and its result is that payload.
    If none does, it ends with that failure, which it gives for the node that it was about
    and with what 32 bits show of the number of attempts that it has made. If there is no
    such failure either, it goes on for ever. This is so whatever the failures are. With a
    limited number of retries it is the result that is computed. -/
theorem query_of_attempts {k : ℕ∞} (hk : IsBudget grants k) (answers : Nat → Except ε Payload) :
    (∀ i payload, FirstSuccess answers i payload → (i : ℕ∞) < k → ∀ m,
      course node grants answers m =
        if m ≤ i then .trying m (.ofNat m) else .over (i + 1) (.ok payload)) ∧
    ((∀ i payload, FirstSuccess answers i payload → ¬(i : ℕ∞) < k) →
      (∀ n : Nat, k = n → ∃ e : GaveUp ε, e.node = node ∧ e.count = .ofNat n ∧
        e.attempts = n % 2 ^ 32 ∧ answers (n - 1) = .error e.last ∧
        ∀ m, course node grants answers m =
          if m < n then .trying m (.ofNat m) else .over n (.error e)) ∧
      (k = ⊤ → ∀ m, course node grants answers m = .trying m (.ofNat m))) ∧
    (∀ retries : Nat, k = (retries + 1 : Nat) →
      (course node grants answers (retries + 1)).result? = some (query node answers retries)) := by
  refine ⟨?_, fun hnone => ⟨?_, ?_⟩, ?_⟩
  · intro i payload hfirst hi
    refine course_of_firstSuccess node hfirst fun j hpos hj => hk.granted j hpos ?_
    exact lt_of_le_of_lt (by exact_mod_cast hj) hi
  · rintro n rfl
    have hfails : FailsUntil answers n := failsUntil_of_no_firstSuccess fun i payload hi hfirst =>
      hnone i payload hfirst (by exact_mod_cast hi)
    rcases hk.refused n rfl with ⟨hpos, hrefused⟩
    -- The budget ends with attempt number `n`, which is that behind `n - 1` others.
    obtain ⟨last, rfl⟩ : ∃ last, n = last + 1 := ⟨n - 1, by omega⟩
    rcases hfails last (Nat.lt_succ_self last) with ⟨failure, hfailure⟩
    have hgranted : ∀ j, 0 < j → j ≤ last → grants j = true := fun j hj hle =>
      hk.granted j hj (by exact_mod_cast (by omega : j < last + 1))
    refine ⟨{ node, count := .ofNat (last + 1), last := failure }, rfl, rfl, UInt32.toNat_ofNat,
      hfailure, fun m => ?_⟩
    rw [course_of_refused node (hfails.mono (Nat.le_succ last)) hfailure hgranted hrefused]
    simp only [Nat.lt_succ_iff]
  · rintro rfl m
    have hfails : FailsUntil answers m := failsUntil_of_no_firstSuccess fun i payload _ hfirst =>
      hnone i payload hfirst (ENat.natCast_lt_top i)
    exact course_of_failsUntil node hfails fun j hpos _ => hk.granted j hpos (ENat.natCast_lt_top j)
  · rintro retries rfl
    exact result?_course node hk

end Attempts

/-- A node without an endpoint, which at last is there and does not know the path. -/
def neverServed : Nat → Answer := fun i =>
  .error (if i < 2 then .noEndpoint else .status 404)

theorem query_of_attempts_neverServed :
    IsBudget (fun n => decide (n < 3)) (3 : Nat) ∧
      ∃ e : QueryError, e.node = "node-a" ∧ e.attempts = 3 ∧ e.last = .status 404 ∧
        course "node-a" (fun n => decide (n < 3)) neverServed 3 = .over 3 (.error e) := by
  have hk : IsBudget (fun n => decide (n < 3)) (3 : Nat) := isBudget_of_pos (by decide)
  have hnone : ∀ i payload, FirstSuccess neverServed i payload → ¬(i : ℕ∞) < (3 : Nat) := by
    rintro i payload ⟨hsuccess, -⟩
    exact absurd hsuccess (by simp [neverServed])
  rcases ((query_of_attempts "node-a" hk neverServed).2.1 hnone).1 3 rfl with
    ⟨e, hnode, -, hattempts, hlast, hcourse⟩
  exact ⟨hk, e, hnode, hattempts, (Except.error.inj hlast).symm, hcourse 3⟩

/-- A node that never has an endpoint. -/
def neverReached : Nat → Answer := fun _ =>
  .error .noEndpoint

theorem failsUntil_neverReached (n : Nat) : FailsUntil neverReached n :=
  fun _ _ => ⟨.noEndpoint, rfl⟩

/-- A query that gives up does not always give the number of its attempts: at attempt
    number `2 ^ 32` it gives none. And one that is granted all waits does not give up. -/
theorem query_ends_otherwise :
    (¬ ∀ (n : Nat) (grants : Nat → Bool) (answers : Nat → Answer), IsBudget grants n →
      (∀ i payload, ¬ FirstSuccess answers i payload) →
        ∃ e : QueryError, e.attempts = n ∧
          course "node-a" grants answers n = .over n (.error e)) ∧
    IsBudget (fun _ => true) ⊤ ∧
    ∀ m, course "node-a" (fun _ => true) neverReached m = .trying m (.ofNat m) := by
  refine ⟨fun h => ?_, ⟨fun _ _ _ => rfl, fun n hn => absurd hn (ENat.top_ne_natCast n)⟩, ?_⟩
  · have hk : IsBudget (fun j => decide (j < 2 ^ 32)) (2 ^ 32 : Nat) := isBudget_of_pos (by decide)
    have hnone : ∀ i payload, ¬ FirstSuccess neverReached i payload := by
      rintro i payload ⟨hsuccess, -⟩
      exact absurd hsuccess (by simp [neverReached])
    rcases h (2 ^ 32) _ neverReached hk hnone with ⟨e, hattempts, hover⟩
    have hcourse := course_of_refused "node-a" (failsUntil_neverReached (2 ^ 32 - 1)) rfl
      (fun j hpos hj => hk.granted j hpos (by exact_mod_cast (by omega : j < 2 ^ 32)))
      (hk.refused (2 ^ 32) rfl).2 (2 ^ 32)
    rw [if_neg (by decide), hover] at hcourse
    -- The counter has gone round once, so it shows nothing.
    cases hcourse
    exact absurd hattempts (by decide)
  · intro m
    exact course_of_failsUntil "node-a" (failsUntil_neverReached m) fun _ _ _ => rfl

end StorageGauges
