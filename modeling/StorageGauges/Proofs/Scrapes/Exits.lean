import StorageGauges.Proofs.Nodes.Flight
import StorageGauges.Proofs.Scrapes.Repeated

/-!
# How a Scrape Ends

A scrape queries its node first, then reads the payload, and then writes. The
query may give up, and the payload may be none that can be read, so there are
three ways out of it. A query that gave up costs the node its series, which is
put on record. A payload that cannot be read costs nothing. Any other payload is
written pod by pod, and after it what is left of the interval, if that is shown
at all.

The three never mix. A scrape that evicts does nothing else, and one that writes
does not evict, at no point of its way (`Exporter.deeds`): what is written
depends on the payload, which is read as a whole before the first write.

No way out touches the targets or the profiles, so a node that did not answer is
scraped again at the next tick.

The family of what is left has no label besides the node's name. So the gauge is
the node's own, unless another node has a name of the same hash. Then the two show
what is left to whichever was scraped last.

## Main definitions

* `answerOf`: What a query that has ended tells the scrape.

## Theorems

* `Exporter.mem_index_writeRemaining`, `Exporter.get?_writeRemaining_of_shares`,
  `Exporter.get?_writeRemaining_of_apart`: What it changes to show what is left.
* `Exporter.evict_mem_deeds_iff`: Which scrapes evict.
* `Exporter.finishScrape_written`: What a payload that could be read leaves.
* `scrape_ends_one_way`: The three ways out, and what each leaves.
-/

namespace StorageGauges

/-- What a query that has ended tells the scrape: the payload, unless it gave
    up. -/
def answerOf : Except QueryError Fetched → Option Payload
  | .ok fetched => some fetched.payload
  | .error _ => none

namespace Exporter

variable (o : Options) (interval : Duration) (e : Exporter) (node : String)

theorem store_noteLag (remaining : Int) :
    (e.noteLag interval node remaining).store = e.store := by
  unfold noteLag
  split <;> rfl

theorem records_noteLag (remaining : Int) :
    (e.noteLag interval node remaining).records =
      e.records ++ if remaining ≤ 0 then
        [{ component := scrapeLogger, event := .pollingLag node remaining interval.seconds }]
      else [] := by
  unfold noteLag
  split
  · rfl
  · exact (List.append_nil e.records).symm

/-- What is left becomes a series only where its family is turned on. -/
theorem mem_index_writeRemaining (remaining : Int) (s : Series) :
    s ∈ (e.writeRemaining o node remaining).store.index ↔
      s ∈ e.store.index ∨ o.features.adjustedPollingRate = true ∧ s = pollingRate node := by
  unfold writeRemaining
  split
  · rename_i hon
    rw [Store.mem_index_set, or_comm]
    simp only [hon, true_and]
  · rename_i hoff
    simp only [hoff, Bool.false_eq_true, false_and, or_false]

/-- What is left is shown by every live series that shares the gauge. -/
theorem get?_writeRemaining_of_shares (remaining : Int)
    (hon : o.features.adjustedPollingRate = true) (s : Series)
    (hlive : s ∈ (e.writeRemaining o node remaining).store.index)
    (hshares : (pollingRate node).sharesGauge s = true) :
    (e.writeRemaining o node remaining).store.get? s = some (Float.ofInt remaining) := by
  rw [writeRemaining, if_pos hon] at hlive ⊢
  exact Store.get?_set_of_shares e.store (pollingRate node) s _ hshares
    ((Store.mem_index_set e.store (pollingRate node) s _).mp hlive)

/-- All others are read as before. -/
theorem get?_writeRemaining_of_apart (remaining : Int) (s : Series)
    (hapart : o.features.adjustedPollingRate = true → (pollingRate node).sharesGauge s = false) :
    (e.writeRemaining o node remaining).store.get? s = e.store.get? s := by
  unfold writeRemaining
  split
  · rename_i hon
    exact Store.get?_set_of_apart e.store (pollingRate node) s _ (hapart hon)
  · rfl

theorem records_writeRemaining (remaining : Int) :
    (e.writeRemaining o node remaining).records = e.records := by
  unfold writeRemaining
  split <;> rfl

/-- What a deed leaves as it is: a scrape does nothing to targets, profiles and
    health. -/
theorem frame_act (deed : Deed) :
    (e.act interval node deed).targets = e.targets ∧
      (e.act interval node deed).profiles = e.profiles ∧
        (e.act interval node deed).health = e.health := by
  cases deed with
  | evict => exact ⟨rfl, rfl, rfl⟩
  | write w => exact ⟨rfl, rfl, rfl⟩
  | note remaining =>
      rw [act, noteLag]
      split <;> exact ⟨rfl, rfl, rfl⟩

/-- Nor do all deeds of a scrape together. -/
theorem frame_deeds (deeds : List Deed) :
    (deeds.foldl (act interval node) e).targets = e.targets ∧
      (deeds.foldl (act interval node) e).profiles = e.profiles ∧
        (deeds.foldl (act interval node) e).health = e.health := by
  -- By induction on the deeds; the three parts are framed together.
  induction deeds generalizing e with
  | nil => exact ⟨rfl, rfl, rfl⟩
  | cons deed rest ih =>
      rcases e.frame_act interval node deed with ⟨htargets, hprofiles, hhealth⟩
      rcases ih (e.act interval node deed) with ⟨hlater, hlater', hlater''⟩
      exact ⟨hlater.trans htargets, hlater'.trans hprofiles, hlater''.trans hhealth⟩

variable (answer : Option Payload) (allowed : AllowList) (elapsed : Nat)

/-- A scrape evicts exactly if its query gave up. -/
theorem evict_mem_deeds_iff :
    .evict ∈ e.deeds o interval node answer allowed elapsed ↔ answer = none := by
  unfold deeds
  split
  · simp
  · split <;> simp [closingDeeds]

/-- A payload that could be read is written, and then what is left. -/
theorem finishScrape_of_parse? {payload : Payload} {summary : Summary}
    (hread : Summary.parse? payload = some summary) :
    e.finishScrape o interval node (some payload) allowed elapsed =
      ((e.process o node summary allowed).noteLag interval node
        (remainingTime interval elapsed)).writeRemaining o node
          (remainingTime interval elapsed) := by
  simp only [finishScrape, hread]

/-- Nothing is left of a payload but what it has itself and what is left of the
    interval. -/
theorem finishScrape_written {payload : Payload} {summary : Summary}
    (hread : Summary.parse? payload = some summary) :
    let late := e.finishScrape o interval node (some payload) allowed elapsed
    let remaining := remainingTime interval elapsed
    (∀ s, s ∈ late.store.index ↔ s ∈ (e.process o node summary allowed).store.index ∨
      o.features.adjustedPollingRate = true ∧ s = pollingRate node) ∧
    (o.features.adjustedPollingRate = true → ∀ s ∈ late.store.index,
      (pollingRate node).sharesGauge s = true →
        late.store.get? s = some (Float.ofInt remaining)) ∧
    (∀ s, (o.features.adjustedPollingRate = true → (pollingRate node).sharesGauge s = false) →
      late.store.get? s = (e.process o node summary allowed).store.get? s) ∧
    late.records = e.records ++ if remaining ≤ 0 then
      [{ component := scrapeLogger, event := .pollingLag node remaining interval.seconds }]
    else [] := by
  intro late remaining
  -- The lag is noted before what is left is written, and leaves the store.
  have hlate : late = ((e.process o node summary allowed).noteLag interval node
      remaining).writeRemaining o node remaining :=
    e.finishScrape_of_parse? o interval node allowed elapsed hread
  rw [hlate]
  refine ⟨fun s => ?_, fun hon s hlive hshares => ?_, fun s hapart => ?_, ?_⟩
  · rw [mem_index_writeRemaining, store_noteLag]
  · exact get?_writeRemaining_of_shares o _ node remaining hon s hlive hshares
  · rw [get?_writeRemaining_of_apart o _ node remaining s hapart, store_noteLag]
  · rw [records_writeRemaining, records_noteLag]
    rfl

end Exporter

/-- A scrape ends in one of three ways, according to what its query came to, and
    none of them changes the targets, the profiles or the health of a component.

    If the query gave up, the series of the node are evicted, which is put on
    record with their number, and nothing else is done. If the payload cannot be
    read, nothing is done at all. Otherwise the pods of the payload are written
    and counted, and what is left of the interval becomes the value of one more
    series if that is turned on, and of those that share its gauge. All other
    series are as the payload left them, and nothing is evicted. -/
theorem scrape_ends_one_way (o : Options) (interval : Duration) (e : Exporter) (node : String)
    (result : Except QueryError Fetched) (allowed : AllowList) (elapsed : Nat) :
    let answer := answerOf result
    let outcome := Exporter.scrapeOutcome interval answer allowed elapsed
    let late := e.finishScrape o interval node answer allowed elapsed
    let gone := e.store.evictNode node
    let remaining := remainingTime interval elapsed
    (late.targets = e.targets ∧ late.profiles = e.profiles ∧ late.health = e.health) ∧
    ((∃ error, result = .error error) ∧ outcome = .queryFailed ∧
        e.deeds o interval node answer allowed elapsed = [.evict] ∧ late.store = gone.store ∧
        late.records = e.records ++ [{ component := Health.scheduler
                                       event := .nodeEvicted node gone.removed "query_failed" }] ∨
      (∃ fetched, result = .ok fetched ∧ Summary.parse? fetched.payload = none) ∧
        outcome = .parseFailed ∧ e.deeds o interval node answer allowed elapsed = [] ∧ late = e ∨
      ∃ fetched summary, (result = .ok fetched ∧
          Summary.parse? fetched.payload = some summary) ∧
        outcome = .recorded (e.processInTurn o node allowed summary).2.written remaining ∧
        .evict ∉ e.deeds o interval node answer allowed elapsed ∧
        (∀ s, s ∈ late.store.index ↔
          s ∈ (e.processInTurn o node allowed summary).1.store.index ∨
            o.features.adjustedPollingRate = true ∧ s = pollingRate node) ∧
        (o.features.adjustedPollingRate = true → ∀ s ∈ late.store.index,
          (pollingRate node).sharesGauge s = true →
            late.store.get? s = some (Float.ofInt remaining)) ∧
        (∀ s, (o.features.adjustedPollingRate = true → (pollingRate node).sharesGauge s = false) →
          late.store.get? s = (e.processInTurn o node allowed summary).1.store.get? s) ∧
        late.records = e.records ++ if remaining ≤ 0 then
          [{ component := Health.scheduler, event := .pollingLag node remaining interval.seconds }]
        else []) := by
  intro answer outcome late gone remaining
  refine ⟨?_, ?_⟩
  · -- All of a scrape is its deeds, and each of them leaves these parts alone.
    have hframe := e.frame_deeds interval node (e.deeds o interval node answer allowed elapsed)
    rw [← Exporter.finishScrape_eq] at hframe
    exact hframe
  cases result with
  | error error =>
      exact Or.inl ⟨⟨error, rfl⟩, rfl, rfl, rfl, rfl⟩
  | ok fetched =>
      have hanswer : answer = some fetched.payload := rfl
      refine Or.inr ?_
      -- The query gave an answer; what is left to decide is whether it can be read.
      cases hread : Summary.parse? fetched.payload with
      | none =>
          refine Or.inl ⟨⟨fetched, rfl, hread⟩, ?_, ?_, ?_⟩
          · simp only [outcome, hanswer, Exporter.scrapeOutcome, hread]
          · simp only [hanswer, Exporter.deeds, hread]
          · simp only [late, hanswer, Exporter.finishScrape, hread]
      | some summary =>
          have hwritten := e.finishScrape_written o interval node allowed elapsed hread
          refine Or.inr ⟨fetched, summary, ⟨rfl, hread⟩, ?_, ?_, ?_⟩
          · simp only [outcome, hanswer, Exporter.scrapeOutcome, hread, Exporter.processInTurn_eq,
              remaining]
          · rw [Exporter.evict_mem_deeds_iff, hanswer]
            exact Option.some_ne_none _
          · rw [Exporter.processInTurn_eq]
            exact hwritten

/-- An exporter that has shown what was left to one node. -/
def twinShown : Exporter :=
  { Exporter.initial .empty with
    targets := [(Series.twin, ⟨Series.twin, none⟩), (Series.otherTwin, ⟨Series.otherTwin, none⟩)]
    store := Store.empty.set (pollingRate Series.twin) 3.0 }

/-- A scrape can change more than what its payload has and what is left to its
    node: what was left to another node, whose name has the same hash. -/
theorem scrape_changes_another_rate :
    ¬ ∀ (o : Options) (interval : Duration) (e : Exporter) (node : String) (payload : Payload)
      (summary : Summary) (allowed : AllowList) (elapsed : Nat) (s : Series),
      e.targets.find? node ≠ none → Summary.parse? payload = some summary →
      s ≠ pollingRate node →
        (e.finishScrape o interval node (some payload) allowed elapsed).store.get? s =
          (e.processInTurn o node allowed summary).1.store.get? s := by
  intro h
  -- The scrape of one node finds no pods and writes the polling rate of that node.
  have hread := h .standard (.ofSeconds 15) twinShown Series.otherTwin [0x7B, 0x7D] ⟨"", []⟩ none 0
    (pollingRate Series.twin) (by decide) parse?_noPods (by decide)
  have hlate := (twinShown.finishScrape_written .standard (.ofSeconds 15) Series.otherTwin none 0
    parse?_noPods).2.1 rfl (pollingRate Series.twin) (by
      rw [Exporter.finishScrape_of_parse? _ _ _ _ _ _ parse?_noPods]
      decide +kernel) (by decide +kernel)
  -- The gauge is shared, so the rate of the other node is now the one just written.
  rw [hread] at hlate
  have hbefore : (twinShown.processInTurn .standard Series.otherTwin none ⟨"", []⟩).1.store.get?
      (pollingRate Series.twin) = some 3.0 := by rfl
  rw [hbefore] at hlate
  exact absurd (Option.some.inj hlate) (by decide +kernel)

end StorageGauges
