import Mathlib.Data.Finset.Card
import StorageGauges.Proofs.Pods.Listed
import StorageGauges.Rehearsal.Learn

/-!
# Sweeps in Pages

A sweep of the pods asks for one page after the other until a page has no
token for a next one, and only then drops anything. What it asks for and how
it ends is a matter of the answers alone (`Walk.follow`), whatever gives them:
each request has the token of the page before, and the listing ends with the
first error or the first page without a token.

What is dropped depends on which names were listed and on nothing else. How
the names were spread over pages, how often they were repeated and which pages
were empty makes no difference, and neither does the order in which the
entries that are dropped are evicted, since the evictions are one deletion
(`Exporter.store_evictEntries`).

## Main definitions

* `Walk.Progress`, `Walk.follow`: How far some answers take a listing.
* `Exporter.sweepPods`: A sweep, given the answers to its requests.
* `Exporter.SweptBy`: What a sweep comes to when its listing has ended well.
* `Rehearsal.pageAnswers`: The answers that a rehearsed sweep gets.

## Theorems

* `Walk.follow_cases`: What is asked for, and how a listing ends.
* `mem_distinct_iff`, `length_distinct`: What is counted as listed.
* `Exporter.removeStalePods_congr`: Only the names that were listed matter.
* `Exporter.sweptBy_removeStalePods`: What a sweep comes to.
* `Rehearsal.listPods_eq_follow`, `Rehearsal.collectPods_eq_sweepPods`: A
  rehearsed sweep is this one.
-/

namespace StorageGauges

namespace Walk

/-- How far some answers take a listing: the pages that were asked for, and how
    it ended, unless the last page that was asked for has not come. -/
structure Progress where
  requests : List PageRequest
  ending : Option (Except ListError (List String))
deriving DecidableEq

/-- Asks for one page after the other, as long as there are answers. -/
def follow (batch : Nat) (w : Walk) : List (Except ListError (Page String)) → Progress
  | [] => { requests := [w.request batch], ending := none }
  | .error error :: _ => { requests := [w.request batch], ending := some (.error error) }
  | .ok page :: rest =>
    match w.turn page with
    | .next next =>
      let progress := follow batch next rest
      { progress with requests := w.request batch :: progress.requests }
    | .finished names => { requests := [w.request batch], ending := some (.ok names) }

/-- What is asked for after some pages: the first page without a token or with
    the walk's, and every other one with the token of the page before. -/
def requestsAfter (batch : Nat) (w : Walk) (pages : List (Page String)) : List PageRequest :=
  (w.token :: pages.map (·.next)).map fun token => { limit := some (max batch 1), token }

/-- A listing goes through pages that have tokens. Then it comes to the last
    page, or to an error, or to a page that has not come. -/
theorem follow_cases (batch : Nat) (w : Walk) (answers : List (Except ListError (Page String))) :
    ∃ pages : List (Page String), (∀ page ∈ pages, page.next ≠ none) ∧
      (w.follow batch answers).requests = w.requestsAfter batch pages ∧
      ((∃ last rest, answers = pages.map .ok ++ .ok last :: rest ∧ last.next = none ∧
          (w.follow batch answers).ending =
            some (.ok (w.names ++ (pages ++ [last]).flatMap (·.items)))) ∨
        (∃ error rest, answers = pages.map .ok ++ .error error :: rest ∧
          (w.follow batch answers).ending = some (.error error)) ∨
        (answers = pages.map .ok ∧ (w.follow batch answers).ending = none)) := by
  -- By induction on the answers, for any walk: each page leads to a walk with one more.
  induction answers generalizing w with
  | nil => exact ⟨[], by simp, rfl, Or.inr (Or.inr ⟨rfl, rfl⟩)⟩
  | cons answer rest ih =>
      cases answer with
      | error error => exact ⟨[], by simp, rfl, Or.inr (Or.inl ⟨error, rest, rfl, rfl⟩)⟩
      | ok page =>
          cases hnext : page.next with
          | none =>
              -- Whatever answers come after the last page are not asked for.
              have hturn : w.turn page = .finished (w.names ++ page.items) := by
                rw [turn, hnext]
              refine ⟨[], by simp, ?_, Or.inl ⟨page, rest, rfl, hnext, ?_⟩⟩
              · rw [follow, hturn]
                rfl
              · rw [follow, hturn]
                simp
          | some token =>
              have hturn : w.turn page =
                  .next { names := w.names ++ page.items, token := some token } := by
                rw [turn, hnext]
              rcases ih { names := w.names ++ page.items, token := some token } with
                ⟨pages, htokens, hrequests, hending⟩
              rw [follow, hturn]
              refine ⟨page :: pages, ?_, ?_, ?_⟩
              · rw [List.forall_mem_cons, hnext]
                exact ⟨Option.some_ne_none token, htokens⟩
              · -- The page's token is what the next page is asked for with.
                simp only [hrequests, requestsAfter, List.map_cons, hnext]
                rfl
              · -- How the rest ends is how the whole ends, with the items of this page in
                -- front.
                rcases hending with ⟨last, others, rfl, hlast, hend⟩ | ⟨error, others, rfl, hend⟩ |
                  ⟨rfl, hend⟩
                · refine Or.inl ⟨last, others, rfl, hlast, hend.trans ?_⟩
                  simp
                · exact Or.inr (Or.inl ⟨error, others, rfl, hend⟩)
                · exact Or.inr (Or.inr ⟨rfl, hend⟩)

/-- The second page is asked for with the token of the first. -/
example : (start.follow 0 [.ok ⟨["web"], some "1"⟩, .ok ⟨[], none⟩]).requests =
    [⟨some 1, none⟩, ⟨some 1, some "1"⟩] := by decide

end Walk

/-- The last name is counted if it was not listed before. -/
theorem distinct_snoc (names : List String) (name : String) :
    distinct (names ++ [name]) =
      if (distinct names).contains name then distinct names else distinct names ++ [name] := by
  rw [distinct, List.foldl_append]
  rfl

/-- All that was listed is among the names that are counted. -/
theorem mem_distinct_iff (names : List String) (name : String) :
    name ∈ distinct names ↔ name ∈ names := by
  induction names using List.reverseRecOn with
  | nil => rfl
  | append_singleton names last ih =>
      rw [distinct_snoc, List.mem_append, List.mem_singleton]
      by_cases hseen : (distinct names).contains last = true
      · -- A name that is left out had been listed before.
        rw [if_pos hseen, ih]
        refine (or_iff_left_of_imp ?_).symm
        rintro rfl
        exact ih.mp (List.contains_iff_mem.mp hseen)
      · rw [if_neg hseen, List.mem_append, List.mem_singleton, ih]

/-- No name is counted twice. -/
theorem nodup_distinct (names : List String) : (distinct names).Nodup := by
  induction names using List.reverseRecOn with
  | nil => exact List.nodup_nil
  | append_singleton names last ih =>
      rw [distinct_snoc]
      by_cases hseen : (distinct names).contains last = true
      · rw [if_pos hseen]
        exact ih
      · rw [if_neg hseen]
        have hnew : last ∉ distinct names := fun hmem => hseen (List.contains_iff_mem.mpr hmem)
        exact List.nodup_append.mpr
          ⟨ih, List.nodup_singleton last, fun a ha b hb hab => hnew (by
            rw [← List.mem_singleton.mp hb, ← hab]
            exact ha)⟩

/-- Names are counted as listed once each. -/
theorem length_distinct (names : List String) :
    (distinct names).length = names.toFinset.card := by
  rw [← List.toFinset_card_of_nodup (nodup_distinct names)]
  congr 1
  ext name
  rw [List.mem_toFinset, List.mem_toFinset, mem_distinct_iff]

namespace Exporter

variable (e : Exporter)

/-- A sweep of the pods, given the answers to its requests. It has no result
    while a page has not come. -/
def sweepPods (batch : Nat) (answers : List (Except ListError (Page String))) :
    Option (Except ListError Swept) × Exporter :=
  match (Walk.start.follow batch answers).ending with
  | none => (none, e)
  | some (.error error) => (some (.error error), e)
  | some (.ok names) => (some (.ok (e.podSweep names)), e.removeStalePods names)

/-- What a sweep comes to when its listing has brought some names: which entries
    are kept, which series stay live, and what is counted. Listings of the same
    names come to the same, and so do evictions in any order. -/
structure SweptBy (names : List String) (after : Option (Except ListError Swept) × Exporter) :
    Prop where
  kept : after.2.profiles = e.profiles.filter fun entry => entry.1 ∈ names
  live : ∀ s, s ∈ after.2.store.index ↔
    s ∈ e.store.index ∧ ∀ entry ∈ e.profiles, entry.1 ∉ names →
      s.value? .podName ≠ some entry.1 ∧
        ∀ c ∈ entry.2.containerNames, s.value? .container ≠ some c
  result : after.1 = some (.ok
    { listed := names.toFinset.card
      removed := e.profiles.countP fun entry => entry.1 ∉ names })
  anySplit : ∀ (batch : Nat) (answers : List (Except ListError (Page String)))
    (others : List String), (Walk.start.follow batch answers).ending = some (.ok others) →
      (∀ name, name ∈ others ↔ name ∈ names) → e.sweepPods batch answers = after
  anyOrder : ∀ order : List (String × PodProfile), order.Perm (e.stalePods names) →
    ({ e with profiles := after.2.profiles }.evictEntries order).store = after.2.store

/-- Only the names that were listed matter to which entries are stale. -/
theorem stalePods_congr (names others : List String) (h : ∀ name, name ∈ others ↔ name ∈ names) :
    e.stalePods others = e.stalePods names := by
  have hcontains : ∀ name, others.contains name = names.contains name := by
    intro name
    rw [Bool.eq_iff_iff, List.contains_iff_mem, List.contains_iff_mem]
    exact h name
  simp only [stalePods, hcontains]

/-- A sweep keeps the entries that were listed, in their order. -/
theorem profiles_removeStalePods (names : List String) :
    (e.removeStalePods names).profiles = e.profiles.filter fun entry => entry.1 ∈ names := by
  have hkept : (e.removeStalePods names).profiles = e.profiles.keep names.contains :=
    profiles_evictEntries _ _
  rw [hkept, NameMap.keep]
  exact List.filter_congr fun entry _ => List.contains_eq_mem entry.1 names

/-- Only the names that were listed matter to what is dropped. -/
theorem removeStalePods_congr (names others : List String)
    (h : ∀ name, name ∈ others ↔ name ∈ names) :
    e.removeStalePods others = e.removeStalePods names := by
  have hkept : e.profiles.keep others.contains = e.profiles.keep names.contains := by
    refine List.filter_congr fun entry _ => ?_
    rw [List.contains_eq_mem, List.contains_eq_mem, decide_eq_decide]
    exact h entry.1
  rw [removeStalePods, removeStalePods, hkept, stalePods_congr e names others h]

/-- The counts of a sweep, read off the listing and the cache. -/
theorem podSweep_eq (names : List String) :
    e.podSweep names =
      { listed := names.toFinset.card
        removed := e.profiles.countP fun entry => entry.1 ∉ names } := by
  have hremoved : (e.stalePods names).length = e.profiles.countP fun entry => entry.1 ∉ names := by
    rw [stalePods, NameMap.keep, ← List.countP_eq_length_filter]
    refine List.countP_congr fun entry _ => ?_
    rw [List.contains_eq_mem, ← decide_not]
  rw [podSweep, length_distinct, hremoved]

/-- The counts depend on the names that were listed and not on how often they were. -/
theorem podSweep_congr (names others : List String)
    (h : ∀ name, name ∈ others ↔ name ∈ names) : e.podSweep others = e.podSweep names := by
  have hlisted : others.toFinset = names.toFinset := by
    ext name
    rw [List.mem_toFinset, List.mem_toFinset]
    exact h name
  rw [podSweep_eq, podSweep_eq, hlisted]
  simp only [h]

/-- A sweep of the loop comes to all of this, point by point. -/
theorem sweptBy_removeStalePods (names : List String) :
    e.SweptBy names (some (.ok (e.podSweep names)), e.removeStalePods names) where
  kept := profiles_removeStalePods e names
  live := mem_index_removeStalePods e names
  result := by rw [podSweep_eq]
  anySplit := by
    intro batch answers others hending hsame
    rw [sweepPods, hending]
    -- Other pages with the same names are as good as these.
    simp only [podSweep_congr e names others hsame, removeStalePods_congr e names others hsame]
  anyOrder := by
    intro order hperm
    simp only [store_evictEntries, store_removeStalePods]
    -- Whether some entry reaches a series does not depend on their order.
    congr 1
    funext s
    exact hperm.any_eq

end Exporter

/-- A sweep of the pods asks for the first page without a token and for every
    other with the token of the page before, for at least one pod each. Either
    its listing comes to the last page, and it drops what the pages lack, or a
    page fails, or one has not come, and then nothing has changed. -/
theorem podSweep_of_answers (e : Exporter) (batch : Nat)
    (answers : List (Except ListError (Page String))) :
    ∃ pages : List (Page String), (∀ page ∈ pages, page.next ≠ none) ∧
      (Walk.start.follow batch answers).requests =
        (none :: pages.map (·.next)).map (fun token => { limit := some (max batch 1), token }) ∧
      ((∃ last rest, answers = pages.map .ok ++ .ok last :: rest ∧ last.next = none ∧
          e.SweptBy ((pages ++ [last]).flatMap (·.items)) (e.sweepPods batch answers)) ∨
        (∃ error rest, answers = pages.map .ok ++ .error error :: rest ∧
          e.sweepPods batch answers = (some (.error error), e)) ∨
        (answers = pages.map .ok ∧ e.sweepPods batch answers = (none, e))) := by
  rcases Walk.follow_cases batch .start answers with ⟨pages, htokens, hrequests, hending⟩
  refine ⟨pages, htokens, hrequests, ?_⟩
  rcases hending with ⟨last, rest, hanswers, hlast, hend⟩ | ⟨error, rest, hanswers, hend⟩ |
    ⟨hanswers, hend⟩
  · -- The listing is complete, so the sweep is one with the names of all pages.
    refine Or.inl ⟨last, rest, hanswers, hlast, ?_⟩
    have hswept := e.sweptBy_removeStalePods ((pages ++ [last]).flatMap (·.items))
    rw [Exporter.sweepPods, hend]
    exact hswept
  · refine Or.inr (Or.inl ⟨error, rest, hanswers, ?_⟩)
    rw [Exporter.sweepPods, hend]
  · refine Or.inr (Or.inr ⟨hanswers, ?_⟩)
    rw [Exporter.sweepPods, hend]

namespace Rehearsal

/-- The answers that a rehearsed sweep gets to its requests, until its listing
    ends. -/
def pageAnswers (batch : Nat) : Nat → Walk → Rehearsal → List (Except ListError (Page String))
  | 0, _, _ => []
  | n + 1, walk, r =>
    match r.request (.pods (walk.request batch)) (podNames (walk.request batch)) with
    | (.error error, _) => [.error error]
    | (.ok page, r) =>
      match walk.turn page with
      | .next walk => .ok page :: pageAnswers batch n walk r
      | .finished _ => [.ok page]

/-- A rehearsed listing ends as its answers make it end. -/
theorem listPods_eq_follow (batch n : Nat) (walk : Walk) (r : Rehearsal)
    (listing : Except ListError (List String))
    (h : (walk.follow batch (pageAnswers batch n walk r)).ending = some listing) :
    (listPods batch n walk r).1 = listing := by
  induction n generalizing walk r with
  | zero =>
      -- No answer has come, so the listing cannot have ended.
      exact absurd h (by simp only [pageAnswers, Walk.follow, reduceCtorEq, not_false_eq_true])
  | succ n ih =>
      rw [pageAnswers] at h
      rw [listPods]
      rcases hrequest : r.request (.pods (walk.request batch)) (podNames (walk.request batch)) with
        ⟨error | page, r'⟩
      · rw [hrequest] at h
        exact Option.some.inj h
      · rw [hrequest] at h
        simp only at h ⊢
        cases hturn : walk.turn page with
        | next walk =>
            rw [hturn] at h
            simp only [Walk.follow, hturn] at h
            exact ih walk r' h
        | finished names =>
            rw [hturn] at h
            simp only [Walk.follow, hturn] at h
            exact Option.some.inj h

/-- A rehearsed sweep whose listing ends is a sweep with the answers it gets, of
    what the exporter has when the listing is over. -/
theorem collectPods_eq_sweepPods (r : Rehearsal) (batch : Nat)
    (answers : List (Except ListError (Page String)))
    (hanswers : answers = pageAnswers batch (r.cluster.pods.length + 1) .start r)
    (hends : (Walk.start.follow batch answers).ending ≠ none) :
    (some (r.collectPods batch).1, (r.collectPods batch).2.exporter) =
      (r.listAllPods batch).2.exporter.sweepPods batch answers := by
  rcases Option.ne_none_iff_exists'.mp hends with ⟨listing, hlisting⟩
  have hlisted : (r.listAllPods batch).1 = listing := by
    rw [hanswers] at hlisting
    exact listPods_eq_follow batch _ .start r listing hlisting
  -- The listing of the rehearsal ended as the answers say, and what follows is the same.
  rw [Exporter.sweepPods, hlisting, ← hlisted, collectPods]
  rcases r.listAllPods batch with ⟨error | names, r'⟩ <;> rfl

end Rehearsal

end StorageGauges
