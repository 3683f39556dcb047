import StorageGauges.Proofs.Occurrences
import StorageGauges.Proofs.Scrapes.Rehearsed

/-!
# Monitored Namespaces

Where a selector is set the namespaces that it selects are listed again on every
tick, and a scrape keeps to the list that was in force on its tick, however late
its node answers. A listing that fails leaves the list of the tick before in
force. So the list in force is that of the last listing that succeeded, and as
long as none has, it is empty and nothing is monitored. Only where there is no
selector is there no list.

What a scrape does is then what it would do without any list, if the payload had
no pods but those in the namespaces of the list. It is settled when the node
answers, with the profiles that there are then.

## Main definitions

* `inForce`: The list after some ticks.
* `lastListed`: What the last listing that succeeded brought.
* `Turn`, `Monitoring`: What can come next, and the loop that scrapes.
* `Summary.within`: A payload without the pods outside of some namespaces.
* `Exporter.deedsWithin`: What a scrape does with what is left of its payload.
* `Monitoring.Provenance`: Where a scrape and what it has left to do come from.
* `Monitoring.LeftWithin`, `Monitoring.WrittenWithin`: Deeds and writes that keep
  to what was listed.

## Theorems

* `inForce_eq`: Which list is in force.
* `Exporter.deeds_eq_within`: A scrape keeps to its list.
* `Monitoring.provenance_run`: Every scrape has the list of its tick.
* `Rehearsal.scrapes_endTick`: So have the scrapes of a rehearsed tick.
* `scrapes_keep_to_namespaces`: What scrapes write, after any run.
-/

namespace StorageGauges

/-- A listing of namespaces. -/
abbrev NamespaceListing := Except ListError (List String)

/-- The list that is in force after some ticks, given what was listed on
    them. -/
def inForce (selector : Option String) (listings : List NamespaceListing) : AllowList :=
  listings.foldl (refreshNamespaces selector) none

/-- What the last listing that succeeded brought, or nothing if none has. -/
def lastListed (listings : List NamespaceListing) : List String :=
  ((listings.filterMap Except.toOption).getLast?).getD []

theorem inForce_snoc (selector : Option String) (listings : List NamespaceListing)
    (listing : NamespaceListing) :
    inForce selector (listings ++ [listing]) =
      refreshNamespaces selector (inForce selector listings) listing := by
  rw [inForce, List.foldl_append, List.foldl_cons, List.foldl_nil, inForce]

theorem lastListed_snoc (listings : List NamespaceListing) (listing : NamespaceListing) :
    lastListed (listings ++ [listing]) =
      match listing with
      | .ok names => names
      | .error _ => lastListed listings := by
  rw [lastListed, List.filterMap_append]
  cases listing with
  | ok names =>
      have hlast : [Except.ok (ε := ListError) names].filterMap Except.toOption = [names] := rfl
      rw [hlast, List.getLast?_concat]
      rfl
  | error error =>
      have hnone : [Except.error (α := List String) error].filterMap Except.toOption = [] := rfl
      rw [hnone, List.append_nil]
      rfl

/-- A failure leaves the names that were in force, of which there are none in the
    beginning. -/
theorem getD_inForce (selector : String) (listings : List NamespaceListing) :
    (inForce (some selector) listings).getD [] = lastListed listings := by
  induction listings using List.reverseRecOn with
  | nil => rfl
  | append_singleton listings last ih =>
      rw [inForce_snoc, lastListed_snoc]
      cases last with
      | ok names => rfl
      | error error => exact ih

/-- The list in force is that of the last listing that succeeded. There is none
    exactly if there is no selector. -/
theorem inForce_eq (selector : Option String) (listings : List NamespaceListing)
    (h : listings ≠ []) :
    inForce selector listings = selector.map fun _ => lastListed listings := by
  rcases List.eq_nil_or_concat listings with rfl | ⟨before, last, rfl⟩
  · exact absurd rfl h
  · rw [List.concat_eq_append, inForce_snoc, lastListed_snoc]
    cases selector with
    | none => rfl
    | some selector =>
        rw [Option.map_some]
        cases last with
        | ok names => rfl
        | error error => exact congrArg some (getD_inForce selector before)

/-- A failure neither lifts the list nor empties it. -/
example : inForce (some "team=blue") [.error ⟨"refused"⟩, .ok ["blue"], .error ⟨"refused"⟩] =
    some ["blue"] := rfl

theorem lastListed_eq_nil (listings : List NamespaceListing)
    (h : ∀ listing ∈ listings, listing.toOption = none) : lastListed listings = [] := by
  have hnone : listings.filterMap Except.toOption = [] := List.filterMap_eq_nil_iff.mpr h
  rw [lastListed, hnone]
  rfl

/-- A payload without the pods that are outside of some namespaces. -/
def Summary.within (names : List String) (summary : Summary) : Summary :=
  { summary with pods := summary.pods.filter fun s => names.contains s.ns }

theorem summaryWrites_within (o : Options) (e : Exporter) (node : String) (summary : Summary)
    (names : List String) :
    summaryWrites o e node summary (some names) =
      summaryWrites o e node (summary.within names) none := by
  have hkept : (summary.pods.filter fun s => !s.isSkipped (some names)) =
      (summary.within names).pods.filter fun s => !s.isSkipped none := by
    rw [Summary.within, List.filter_filter]
    refine List.filter_congr fun s _ => ?_
    simp [PodSample.isSkipped, AllowList.allows, Bool.and_comm]
  rw [summaryWrites, hkept]
  rfl

namespace Exporter

variable (o : Options) (interval : Duration) (e : Exporter)

/-- What a scrape does when nothing but the pods in some namespaces is left of
    the payload, and there is no list to keep to. -/
def deedsWithin (names : List String) (node : String) (answer : Option Payload) (elapsed : Nat) :
    List Deed :=
  match answer with
  | none => [.evict]
  | some payload =>
    match Summary.parse? payload with
    | none => []
    | some summary =>
      (summaryWrites o e node (summary.within names) none).map .write
        ++ closingDeeds o node (remainingTime interval elapsed)

/-- A scrape that keeps to a list does what it would do without the other
    pods. -/
theorem deeds_eq_within (names : List String) (node : String) (answer : Option Payload)
    (elapsed : Nat) :
    e.deeds o interval node answer (some names) elapsed =
      e.deedsWithin o interval names node answer elapsed := by
  unfold deeds deedsWithin
  cases answer with
  | none => rfl
  | some payload =>
      cases hsummary : Summary.parse? payload with
      | none => simp only [hsummary]
      | some summary => simp only [hsummary, summaryWrites_within]

/-- What such a scrape writes is the time that was left, or belongs to a pod in
    one of the namespaces. -/
theorem sample_of_mem_deedsWithin (names : List String) (node : String)
    (answer : Option Payload) (elapsed : Nat) (w : Write)
    (h : .write w ∈ e.deedsWithin o interval names node answer elapsed) :
    w.series = pollingRate node ∨
      ∃ payload summary, answer = some payload ∧ Summary.parse? payload = some summary ∧
        ∃ s ∈ summary.pods, s.ns ∈ names ∧ w ∈ sampleWrites o e node s := by
  unfold deedsWithin at h
  split at h
  · -- A scrape that got no answer, or none that can be read, writes nothing.
    exact absurd h (by simp)
  · split at h
    · exact absurd h List.not_mem_nil
    · rename_i payload _ summary hsummary
      rcases List.mem_append.mp h with hwritten | hclosing
      · rcases List.mem_map.mp hwritten with ⟨v, hv, hvw⟩
        obtain rfl : v = w := Deed.write.inj hvw
        rcases (mem_summaryWrites_iff o e node _ none v).mp hv with ⟨s, hs, -, hw⟩
        rcases List.mem_filter.mp hs with ⟨hpod, hns⟩
        exact Or.inr ⟨payload, summary, rfl, hsummary, s, hpod, by simpa using hns, hw⟩
      · simp only [closingDeeds, List.mem_cons, reduceCtorEq, false_or, List.mem_map] at hclosing
        rcases hclosing with ⟨v, hv, hvw⟩
        rcases (mem_whenOn _ _ _ v).mp hv with ⟨-, rfl⟩
        exact Or.inl (congrArg Write.series (Deed.write.inj hvw)).symm

end Exporter

/-- What can come next for the loop that scrapes: a tick, on which the namespaces
    are listed, the answer of a node, the next deed of a scrape, or something
    that is not its concern. -/
inductive Turn
  | tick (listing : NamespaceListing)
  | answer (i : Nat) (answer : Option Payload) (elapsed : Nat)
  | act (i : Nat)
  | other (occurrence : Occurrence)

/-- What a tick has listed. Where there is no selector nothing is asked for, and
    it does not matter. -/
def Turn.listing? : Turn → Option NamespaceListing
  | tick listing => some listing
  | _ => none

/-- What was listed on the ticks, in order. -/
def listingsOf (turns : List Turn) : List NamespaceListing :=
  turns.filterMap Turn.listing?

/-- Only a last turn that is a tick adds a listing. -/
theorem listingsOf_snoc (turns : List Turn) (last : Turn) :
    listingsOf (turns ++ [last]) = listingsOf turns ++ last.listing?.toList := by
  rw [listingsOf, List.filterMap_append]
  cases last <;> rfl

/-- The loop that scrapes, with the list that is in force. -/
structure Monitoring where
  traffic : Traffic
  allowed : AllowList

namespace Monitoring

/-- The loop has started, and no tick has come. -/
def begun (e : Exporter) (pool : Pool) : Monitoring :=
  { traffic := { exporter := e, pool, flights := [] }, allowed := none }

/-- Something comes. A tick lists the namespaces first and dispatches its scrapes
    with the new list. -/
def turn (o : Options) (s : Schedule) (m : Monitoring) : Turn → Monitoring
  | .tick listing =>
    let allowed := refreshNamespaces s.selector m.allowed listing
    { traffic := m.traffic.dispatch allowed, allowed }
  | .answer i answer elapsed => { m with traffic := m.traffic.hear o s.interval i answer elapsed }
  | .act i => { m with traffic := m.traffic.act s.interval i }
  | .other occurrence =>
    { m with traffic.exporter := m.traffic.exporter.happen o s.interval occurrence }

/-- One comes after the other. -/
def run (o : Options) (s : Schedule) (m : Monitoring) (turns : List Turn) : Monitoring :=
  turns.foldl (turn o s) m

variable (o : Options) (s : Schedule) (e : Exporter) (pool : Pool)

theorem run_snoc (m : Monitoring) (turns : List Turn) (last : Turn) :
    m.run o s (turns ++ [last]) = (m.run o s turns).turn o s last := by
  rw [run, List.foldl_append, List.foldl_cons, List.foldl_nil, run]

/-- The loop carries the list that is in force. -/
theorem allowed_run (turns : List Turn) :
    ((begun e pool).run o s turns).allowed = inForce s.selector (listingsOf turns) := by
  induction turns using List.reverseRecOn with
  | nil => rfl
  | append_singleton turns last ih =>
      -- Only a tick lists something.
      have hsame : inForce s.selector (listingsOf turns) =
          inForce s.selector (listingsOf turns ++ []) := by rw [List.append_nil]
      rw [run_snoc, listingsOf_snoc]
      cases last with
      | tick listing =>
          have hlisted : (Turn.tick listing).listing?.toList = [listing] := rfl
          rw [hlisted, inForce_snoc, turn, ih]
      | answer i answer elapsed => exact ih.trans hsame
      | act i => exact ih.trans hsame
      | other occurrence => exact ih.trans hsame

/-- Where a scrape comes from, and what it has left to do: a tick dispatched it
    with the list that was in force on that tick, and if its node has answered
    since, it has left some of what was settled then. -/
def Provenance (turns : List Turn) (f : Flight) : Prop :=
  ∃ early listing late, turns = early ++ .tick listing :: late ∧
    f.allowed = inForce s.selector (listingsOf (early ++ [.tick listing])) ∧
      ∀ ds, f.deeds = some ds → ∃ mid i answer elapsed rest,
        late = mid ++ .answer i answer elapsed :: rest ∧
          ds <:+ ((begun e pool).run o s
            (early ++ .tick listing :: mid)).traffic.exporter.deeds o s.interval f.node answer
              f.allowed elapsed

variable {o s e pool}

/-- What comes later does not change where a scrape comes from. -/
theorem Provenance.snoc {turns : List Turn} {f : Flight} (h : Provenance o s e pool turns f)
    (last : Turn) : Provenance o s e pool (turns ++ [last]) f := by
  rcases h with ⟨early, listing, late, rfl, hallowed, hdeeds⟩
  refine ⟨early, listing, late ++ [last], by simp, hallowed, fun ds hds => ?_⟩
  rcases hdeeds ds hds with ⟨mid, i, answer, elapsed, rest, rfl, hleft⟩
  exact ⟨mid, i, answer, elapsed, rest ++ [last], by simp, hleft⟩

/-- A scrape whose node answers has all of what is settled then left. -/
theorem Provenance.answered {turns : List Turn} {f : Flight} {i : Nat} {answer : Option Payload}
    {elapsed : Nat} (h : Provenance o s e pool turns ⟨f.node, f.allowed, none⟩)
    (hdeeds : f.deeds = some (((begun e pool).run o s turns).traffic.exporter.deeds o s.interval
      f.node answer f.allowed elapsed)) :
    Provenance o s e pool (turns ++ [.answer i answer elapsed]) f := by
  rcases h with ⟨early, listing, late, rfl, hallowed, -⟩
  refine ⟨early, listing, late ++ [.answer i answer elapsed], by simp, hallowed, fun ds hds => ?_⟩
  have hsettled := Option.some.inj (hdeeds.symm.trans hds)
  exact ⟨late, i, answer, elapsed, [], rfl, hsettled ▸ List.suffix_rfl⟩

/-- A scrape that does a deed has the others left. -/
theorem Provenance.acted {turns : List Turn} {f : Flight} {deed : Deed} {rest : List Deed}
    (h : Provenance o s e pool turns ⟨f.node, f.allowed, some (deed :: rest)⟩)
    (hrest : f.deeds = some rest) : Provenance o s e pool turns f := by
  rcases h with ⟨early, listing, late, rfl, hallowed, hdeeds⟩
  refine ⟨early, listing, late, rfl, hallowed, fun ds hds => ?_⟩
  rcases hdeeds (deed :: rest) rfl with ⟨mid, i, answer, elapsed, after, hlate, hleft⟩
  obtain rfl : rest = ds := Option.some.inj (hrest.symm.trans hds)
  exact ⟨mid, i, answer, elapsed, after, hlate, (List.suffix_cons deed rest).trans hleft⟩

/-- Every scrape that is under way has the list of its tick. -/
theorem provenance_run (turns : List Turn) (f : Flight)
    (h : f ∈ ((begun e pool).run o s turns).traffic.flights) : Provenance o s e pool turns f := by
  -- By induction from the last turn, which started the scrape, moved it on or left it
  -- alone.
  induction turns using List.reverseRecOn generalizing f with
  | nil => exact absurd h List.not_mem_nil
  | append_singleton turns last ih =>
      rw [run_snoc] at h
      cases last with
      | tick listing =>
          rcases List.mem_append.mp h with hold | hnew
          · exact (ih f hold).snoc _
          · rcases List.mem_map.mp hnew with ⟨target, -, rfl⟩
            refine ⟨turns, listing, [], rfl, ?_, fun ds hds => ?_⟩
            · rw [← allowed_run o s e pool, run_snoc]
              rfl
            · -- Its node has not answered.
              exact absurd hds (by simp [Flight.dispatched])
      | answer i answer elapsed =>
          rcases Traffic.mem_flights_hear o s.interval _ i answer elapsed f h with
            hold | ⟨hold, hdeeds⟩
          · exact (ih f hold).snoc _
          · exact (ih _ hold).answered hdeeds
      | act i =>
          rcases Traffic.mem_flights_act s.interval _ i f h with hold | ⟨deed, rest, hdeeds, hold⟩
          · exact (ih f hold).snoc _
          · exact ((ih _ hold).acted hdeeds).snoc _
      | other occurrence => exact (ih f h).snoc _

variable (o s e pool)

/-- What a scrape of a node has left to do keeps to the namespaces that were
    listed last when its tick came: it is some of what the scrape would do with
    what is left of its payload, and was settled when the node answered. -/
def LeftWithin (turns : List Turn) (node : String) (ds : List Deed) : Prop :=
  ∃ early listing mid i answer elapsed late,
    turns = early ++ .tick listing :: (mid ++ .answer i answer elapsed :: late) ∧
      ds <:+ ((begun e pool).run o s
        (early ++ .tick listing :: mid)).traffic.exporter.deedsWithin o s.interval
          (lastListed (listingsOf (early ++ [.tick listing]))) node answer elapsed

/-- A write of a scrape belongs to a pod in its payload whose namespace is among
    those that were listed last when its tick came. -/
def WrittenWithin (turns : List Turn) (node : String) (w : Write) : Prop :=
  ∃ early listing mid i payload elapsed late summary,
    turns = early ++ .tick listing :: (mid ++ .answer i (some payload) elapsed :: late) ∧
      Summary.parse? payload = some summary ∧
        ∃ sample ∈ summary.pods, sample.ns ∈ lastListed (listingsOf (early ++ [.tick listing])) ∧
          w ∈ sampleWrites o ((begun e pool).run o s
            (early ++ .tick listing :: mid)).traffic.exporter node sample

/-- What any flight has left keeps to the list of its tick, since a selector makes
    sure there is a list. -/
theorem leftWithin_of_mem_flights (turns : List Turn) (hselector : s.selector ≠ none)
    (f : Flight) (hf : f ∈ ((begun e pool).run o s turns).traffic.flights) (ds : List Deed)
    (hds : f.deeds = some ds) : LeftWithin o s e pool turns f.node ds := by
  rcases provenance_run turns f hf with ⟨early, listing, late, rfl, hallowed, hdeeds⟩
  rcases hdeeds ds hds with ⟨mid, i, answer, elapsed, rest, rfl, hleft⟩
  refine ⟨early, listing, mid, i, answer, elapsed, rest, rfl, ?_⟩
  have hlisted : listingsOf (early ++ [.tick listing]) ≠ [] := by
    rw [listingsOf_snoc]
    simp [Turn.listing?]
  rcases Option.ne_none_iff_exists'.mp hselector with ⟨selector, hsome⟩
  -- With a selector there is a list, and it has the names that were listed last.
  rw [inForce_eq s.selector _ hlisted, hsome, Option.map_some] at hallowed
  rw [hallowed, Exporter.deeds_eq_within] at hleft
  exact hleft

variable {o s e pool}

/-- A write that is left is the time, or belongs to a pod in the payload. -/
theorem LeftWithin.writtenWithin {turns : List Turn} {node : String} {ds : List Deed}
    (h : LeftWithin o s e pool turns node ds) (w : Write) (hw : .write w ∈ ds)
    (hother : w.series ≠ pollingRate node) : WrittenWithin o s e pool turns node w := by
  rcases h with ⟨early, listing, mid, i, answer, elapsed, late, hturns, hleft⟩
  rcases Exporter.sample_of_mem_deedsWithin _ _ _ _ _ _ _ w (hleft.subset hw) with
    hrate | ⟨payload, summary, rfl, hsummary, sample, hsample, hns, hwrites⟩
  · exact absurd hrate hother
  · exact ⟨early, listing, mid, i, payload, elapsed, late, summary, hturns, hsummary, sample,
      hsample, hns, hwrites⟩

/-- A write that belongs to a pod comes after a listing that succeeded. -/
theorem WrittenWithin.exists_listed {turns : List Turn} {node : String} {w : Write}
    (h : WrittenWithin o s e pool turns node w) :
    ∃ listing ∈ listingsOf turns, listing.toOption ≠ none := by
  rcases h with ⟨early, listing, mid, i, payload, elapsed, late, summary, rfl, -, sample, -, hns, -⟩
  by_contra hnever
  -- Nothing was listed when the tick of this scrape came.
  have hfailed : ∀ l ∈ listingsOf (early ++ [.tick listing]), l.toOption = none := by
    intro l hl
    by_contra hsome
    refine hnever ⟨l, ?_, hsome⟩
    rw [List.append_cons, listingsOf, List.filterMap_append]
    exact List.mem_append_left _ hl
  rw [lastListed_eq_nil _ hfailed] at hns
  exact absurd hns List.not_mem_nil

end Monitoring

/-- The scrapes that a rehearsed tick starts have the list that was in force
    before, refreshed by what the tick has listed. -/
theorem Rehearsal.scrapes_endTick (r : Rehearsal) (l : ScrapeLoop) (ticker : Ticker)
    (listing : NamespaceListing) :
    ∃ fresh : List Scrape,
      (∀ s ∈ fresh,
        s.allowed = refreshNamespaces r.setup.schedule.selector l.allowed listing) ∧
        (r.agenda.scrapes ++ fresh).Perm (r.endTick l ticker listing).agenda.scrapes := by
  rcases startScrapes_eq l.run (refreshNamespaces r.setup.schedule.selector l.allowed listing) false
      (r.setPool l.run (StorageGauges.dispatch (r.poolOf l.run) r.exporter.snapshot).2)
      (StorageGauges.dispatch (r.poolOf l.run) r.exporter.snapshot).1.started with
    ⟨-, -, fresh, hfresh, -, hperm⟩
  refine ⟨fresh, fun s hs => (hfresh s hs).2, hperm.trans ?_⟩
  -- The loop goes on later, and that is no scrape.
  have hlater : ∀ (x : Rehearsal) (delay : Nat) (next : ScrapeLoop),
      x.agenda.scrapes.Perm (x.later delay (.scrapeLoop next)).agenda.scrapes :=
    fun x delay next => (scrapes_later_perm x delay (.scrapeLoop next)).symm
  unfold endTick dispatch
  dsimp only
  split <;> split
  · exact List.Perm.refl _
  · exact List.Perm.refl _
  · exact hlater _ _ _
  · exact hlater _ _ _

/-- After any run of the loop that scrapes, with ticks whose listings succeed or
    fail, answers of any kind and whatever else happens in between:

    The list in force is that of the last listing that succeeded, or an empty one
    as long as none has, and there is no list exactly if there is no selector.

    With a selector every scrape has left to do what it would do without a list,
    had its payload no pods outside of the namespaces that were listed last when
    its tick came. So what comes next to be written, the time that was left
    aside, belongs to a pod in one of these, and before the first listing that
    succeeds there is nothing of that kind. -/
theorem scrapes_keep_to_namespaces (o : Options) (s : Schedule) (e : Exporter) (pool : Pool)
    (turns : List Turn) :
    let after := (Monitoring.begun e pool).run o s turns
    (listingsOf turns ≠ [] →
        after.allowed = s.selector.map fun _ => lastListed (listingsOf turns)) ∧
      (s.selector ≠ none →
        (∀ f ∈ after.traffic.flights, ∀ ds, f.deeds = some ds →
          Monitoring.LeftWithin o s e pool turns f.node ds) ∧
        ∀ i node w, after.traffic.next? i = some (node, .write w) →
          w.series ≠ pollingRate node →
            Monitoring.WrittenWithin o s e pool turns node w ∧
              ∃ listing ∈ listingsOf turns, listing.toOption ≠ none) := by
  intro after
  refine ⟨fun hlisted => ?_, fun hselector => ?_⟩
  · rw [← inForce_eq s.selector _ hlisted]
    exact Monitoring.allowed_run o s e pool turns
  · have hleft := Monitoring.leftWithin_of_mem_flights o s e pool turns hselector
    refine ⟨hleft, fun i node w hnext hother => ?_⟩
    -- What is written next is the first of what its flight has left.
    rcases Traffic.flight_of_next? _ i node _ hnext with ⟨f, hf, rfl, rest, hrest⟩
    have hwritten := (hleft f hf _ hrest).writtenWithin w List.mem_cons_self hother
    exact ⟨hwritten, hwritten.exists_listed⟩

end StorageGauges
