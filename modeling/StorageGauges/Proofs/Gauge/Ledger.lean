import StorageGauges.Proofs.Gauge.Eviction
import StorageGauges.Proofs.Occurrences

/-!
# The Books of the Gauges

A series becomes live when it is written and is not live yet, and nothing else
makes one live. Four components take series away again: the tracker of nodes,
the pod cache, the sweeps through both of these, and a scrape whose node does
not answer. Each of them puts on record how many went.

So the books balance. The series that are live and those that were put on record
as gone are together those that ever became live. A deletion that is made in
several steps, first by the name of a pod and then by the name of each of its
containers, counts every series once, because a later step finds only what the
earlier ones have left.

A sweep also says how many entries it dropped, and it puts one deletion on record
for each of them.

## Main definitions

* `Store.Eviction.Accounts`: What a deletion counted is what is missing.
* `evictedIn`: How many series some records say are gone.
* `Exporter.newcomers`: How many series became live in a run.
* `Exporter.Balanced`: The books balance between two states.
* `Exporter.Logged`: Some records of one kind were put on record.

## Theorems

* `Store.accounts_evictPod`: Deleting in steps counts every series once.
* `Exporter.balanced_happen`: No step of any component breaks the books.
* `Exporter.balanced_live`: Nor does any run.
* `Exporter.logged_removeStaleNodes`, `Exporter.logged_removeStalePods`: What
  the removal of entries puts on record.
* `series_accounted_for`: The books balance, and sweeps tell what they did.
-/

namespace StorageGauges

namespace Store

/-- What a deletion counted is what is missing since. -/
def Eviction.Accounts (st : Store) (gone : Eviction) : Prop :=
  gone.removed + gone.store.size = st.size

/-- A deletion counts what it takes. -/
theorem accounts_evict (st : Store) (test : Series → Bool) : (st.evict test).Accounts st := by
  have h := st.size_remove test
  rw [Nat.add_comm] at h
  exact h

/-- An eviction in steps is one deletion, so it counts every series once. -/
theorem accounts_evictPod (st : Store) (pod : String) (containers : List String) :
    (st.evictPod pod containers).Accounts st := by
  rw [evictPod_eq]
  exact accounts_evict st _

/-- A write adds to the size only what was not live. -/
theorem size_set (st : Store) (s : Series) (x : Float) :
    (st.set s x).size = st.size + if st.tracks s then 0 else 1 := by
  have hindex : (st.set s x).size = (st.track s).length := rfl
  rw [hindex, track]
  by_cases h : st.tracks s = true
  · rw [if_pos h, if_pos h]
    rfl
  · rw [if_neg h, if_neg h, List.length_append]
    rfl

end Store

/-- How many series some records say are gone. -/
def evictedIn : List Record → Nat
  | [] => 0
  | r :: rest => r.event.evicted + evictedIn rest

/-- Records can be counted in parts. -/
theorem evictedIn_append (early late : List Record) :
    evictedIn (early ++ late) = evictedIn early + evictedIn late := by
  induction early with
  | nil => exact (Nat.zero_add _).symm
  | cons r rest ih =>
      rw [List.cons_append, evictedIn, evictedIn, ih]
      omega

/-- How many series a deed makes live: one, if it writes one that is not. -/
def Deed.newcomers (e : Exporter) : Deed → Nat
  | .write w => if e.store.tracks w.series then 0 else 1
  | .evict => 0
  | .note _ => 0

namespace Exporter

/-- How many series some deeds of a scrape make live. -/
def newcomersOf (interval : Duration) (node : String) : Exporter → List Deed → Nat
  | _, [] => 0
  | e, deed :: rest => deed.newcomers e + newcomersOf interval node (e.act interval node deed) rest

/-- How many series a step makes live. Only scrapes write. -/
def newcomersBy (o : Options) (interval : Duration) (e : Exporter) : Occurrence → Nat
  | .scrape node answer allowed elapsed =>
    e.newcomersOf interval node (e.deeds o interval node answer allowed elapsed)
  | .deed _ deed => deed.newcomers e
  | _ => 0

/-- How many series became live in a run. One that went and came back counts
    each time. -/
def newcomers (o : Options) (interval : Duration) : Exporter → List Occurrence → Nat
  | _, [] => 0
  | e, first :: rest =>
    e.newcomersBy o interval first + newcomers o interval (e.happen o interval first) rest

/-- The books balance between two states when `n` series became live: those that
    are live in the end and those that went on record are those that were live
    before, and the new ones. -/
def Balanced (n : Nat) (e late : Exporter) : Prop :=
  ∃ logged, late.records = e.records ++ logged ∧
    late.store.size + evictedIn logged = e.store.size + n

/-- Some records of one kind were put on record, and no others. -/
def Logged (kind : String) (n : Nat) (e late : Exporter) : Prop :=
  ∃ rs, late.records = e.records ++ rs ∧ rs.length = n ∧ ∀ r ∈ rs, r.event.name = kind

variable (o : Options) (interval : Duration) (e : Exporter)

/-- What leaves records and store alone keeps the books. -/
theorem Balanced.of_same {e late : Exporter} (hrecords : late.records = e.records)
    (hstore : late.store = e.store) : Balanced 0 e late := by
  refine ⟨[], ?_, ?_⟩
  · rw [hrecords, List.append_nil]
  · rw [hstore]
    rfl

/-- Books that balance over two stretches balance over both together. Every run is
    taken apart this way. -/
theorem Balanced.trans {n m : Nat} {e mid late : Exporter} (hfirst : Balanced n e mid)
    (hsecond : Balanced m mid late) : Balanced (n + m) e late := by
  rcases hfirst with ⟨logged, hrecords, hsize⟩
  rcases hsecond with ⟨further, hfurther, hlate⟩
  refine ⟨logged ++ further, ?_, ?_⟩
  · rw [hfurther, hrecords, List.append_assoc]
  · rw [evictedIn_append]
    omega

/-- A deletion whose count is put on record keeps the books. -/
theorem Balanced.of_eviction {e late : Exporter} (gone : Store.Eviction) (r : Record)
    (hgone : gone.Accounts e.store) (hstore : late.store = gone.store)
    (hrecords : late.records = e.records ++ [r]) (hcount : r.event.evicted = gone.removed) :
    Balanced 0 e late := by
  refine ⟨[r], hrecords, ?_⟩
  have hlogged : evictedIn [r] = gone.removed := hcount
  have haccounts : gone.removed + gone.store.size = e.store.size := hgone
  rw [hlogged, hstore]
  omega

/-- A record that tells of no deletion changes neither side. -/
theorem balanced_log (component : String) (event : Event) (h : event.evicted = 0) :
    Balanced 0 e (e.log component event) := by
  refine ⟨[{ component, event }], rfl, ?_⟩
  have hlogged : evictedIn [{ component, event }] = 0 := h
  rw [hlogged]
  rfl

/-- If no step of a kind breaks the books, any number of such steps does not. -/
theorem balanced_foldl {α : Type} (f : Exporter → α → Exporter)
    (hstep : ∀ x a, Balanced 0 x (f x a)) (as : List α) : Balanced 0 e (as.foldl f e) := by
  induction as generalizing e with
  | nil => exact .of_same rfl rfl
  | cons a rest ih => exact (hstep e a).trans (ih (f e a))

/-- If every step of a kind leaves one record, the records are as many as the steps. -/
theorem logged_foldl {α : Type} (kind : String) (f : Exporter → α → Exporter)
    (hstep : ∀ x a, Logged kind 1 x (f x a)) (as : List α) :
    Logged kind as.length e (as.foldl f e) := by
  induction as generalizing e with
  | nil => exact ⟨[], (List.append_nil _).symm, rfl, by simp⟩
  | cons a rest ih =>
      rcases hstep e a with ⟨rs, hrecords, hone, hkind⟩
      rcases ih (f e a) with ⟨further, hfurther, hlength, hrest⟩
      refine ⟨rs ++ further, ?_, ?_, fun r hr => ?_⟩
      · rw [List.foldl_cons, hfurther, hrecords, List.append_assoc]
      · rw [List.length_append, List.length_cons]
        omega
      · rcases List.mem_append.mp hr with hr | hr
        · exact hkind r hr
        · exact hrest r hr

/-- A node that is seen becomes a target or not; no series goes. -/
theorem balanced_applyNode (n : Node) : Balanced 0 e (e.applyNode o n) := by
  unfold applyNode
  by_cases hready : n.isReady = true
  · rw [if_pos hready]
    exact .of_same rfl rfl
  · rw [if_neg hready]
    exact .of_same rfl rfl

/-- The eviction of a node counts the series in the record that it leaves. -/
theorem balanced_removeNode (name cause : String) : Balanced 0 e (e.removeNode name cause) :=
  .of_eviction (e.store.evictNode name) _ (Store.accounts_evict e.store _) rfl rfl rfl

/-- A sweep evicts one node after the other, and each eviction keeps the books. -/
theorem balanced_removeStaleNodes (listed : List String) :
    Balanced 0 e (e.removeStaleNodes listed) :=
  balanced_foldl e _ (fun x name => balanced_removeNode x name _) _

/-- Whatever is heard of nodes is one of the steps above. -/
theorem balanced_hearNode (r : Report Node) : Balanced 0 e (e.hearNode o r) := by
  cases r with
  | news said =>
      cases said with
      | seen n => exact balanced_applyNode o e n
      | gone n => exact balanced_removeNode e n.name _
  | listed names => exact balanced_removeStaleNodes e names

/-- A pod that is seen is cached or not; no series goes. -/
theorem balanced_applyPod (p : Pod) : Balanced 0 e (e.applyPod o p) := by
  unfold applyPod
  cases p.profile? o.captured with
  | none => exact .of_same rfl rfl
  | some profile => exact .of_same rfl rfl

/-- The eviction of a pod counts the series in the record that it leaves. -/
theorem balanced_evictPod (pod : String) (containers : List String) (cause : Cause) :
    Balanced 0 e (e.evictPod pod containers cause) :=
  .of_eviction (e.store.evictPod pod containers) _
    (Store.accounts_evictPod e.store pod containers) rfl rfl rfl

/-- Dropping a profile is not put on record; the deletion after it is. -/
theorem Balanced.of_profiles {n : Nat} {e late : Exporter} (profiles : NameMap PodProfile)
    (h : Balanced n { e with profiles } late) : Balanced n e late := h

/-- The entries are dropped first, at once, and then their series one after the
    other. -/
theorem balanced_removeStalePods (listed : List String) :
    Balanced 0 e (e.removeStalePods listed) :=
  Balanced.of_profiles (e.profiles.keep listed.contains)
    (balanced_foldl _ _
      (fun x (p : String × PodProfile) => balanced_evictPod x p.1 p.2.containerNames .sweep) _)

/-- Whatever is heard of pods is one of the steps above, and a deletion drops the
    entry before the series. -/
theorem balanced_hearPodReport (r : Report Pod) : Balanced 0 e (e.hearPodReport o r) := by
  cases r with
  | news said =>
      cases said with
      | seen p => exact balanced_applyPod o e p
      | gone p =>
          exact Balanced.of_profiles (e.profiles.erase p.name)
            (balanced_evictPod _ p.name (e.containersOf p) .watchDelete)
  | listed names => exact balanced_removeStalePods e names

/-- A report on the sweep comes after it and deletes nothing. -/
theorem balanced_sweepSucceeded (now : Int) (domain : String) (swept : Swept) (elapsed : Nat) :
    Balanced 0 e (e.sweepSucceeded now domain swept elapsed) :=
  balanced_log e sweepLogger (.swept domain swept.listed swept.removed elapsed) rfl

/-- The evictions of a sweep are counted by their own records. The record of the
    sweep comes last, and what it counts are entries and not series. -/
theorem balanced_endSweep (s : EndedSweep) : Balanced 0 e (e.endSweep s) := by
  rcases s with ⟨domain, now, elapsed, error | names⟩
  · -- A sweep that failed changes nothing but the health.
    cases domain <;> exact .of_same rfl rfl
  · -- A sweep that succeeded is its evictions and then its record.
    cases domain with
    | nodes =>
        exact (balanced_removeStaleNodes e names).trans
          (balanced_sweepSucceeded _ now "node" (e.nodeSweep names) elapsed)
    | pods =>
        exact (balanced_removeStalePods e names).trans
          (balanced_sweepSucceeded _ now "pod" (e.podSweep names) elapsed)

/-- One deed of a scrape: only a write can make a series live. -/
theorem balanced_act (node : String) (deed : Deed) :
    Balanced (deed.newcomers e) e (e.act interval node deed) := by
  cases deed with
  | evict =>
      exact .of_eviction (e.store.evictNode node) _ (Store.accounts_evict e.store _) rfl rfl rfl
  | write w => exact ⟨[], (List.append_nil _).symm, e.store.size_set w.series w.value⟩
  | note remaining =>
      rw [act, noteLag]
      by_cases hlate : remaining ≤ 0
      · rw [if_pos hlate]
        exact balanced_log e _ _ rfl
      · rw [if_neg hlate]
        exact .of_same rfl rfl

/-- The deeds of a scrape, each from the state that the one before has left. -/
theorem balanced_deeds (node : String) (deeds : List Deed) :
    Balanced (e.newcomersOf interval node deeds) e (deeds.foldl (act interval node) e) := by
  -- By induction on the deeds, with the state free.
  induction deeds generalizing e with
  | nil => exact .of_same rfl rfl
  | cons deed rest ih => exact (balanced_act interval e node deed).trans (ih _)

/-- No step of any component breaks the books. -/
theorem balanced_happen (h : Occurrence) :
    Balanced (e.newcomersBy o interval h) e (e.happen o interval h) := by
  cases h with
  | nodes step =>
      rw [happen, nodeStep_eq_foldl_reports]
      exact balanced_foldl e _ (balanced_hearNode o) _
  | pods step =>
      rw [happen, cacheStep_eq_foldl_reports]
      exact balanced_foldl e _ (balanced_hearPodReport o) _
  | sweep ended => exact balanced_endSweep e ended
  | scrape node answer allowed elapsed =>
      rw [happen, finishScrape_eq]
      exact balanced_deeds interval e node _
  | deed node deed => exact balanced_act interval e node deed

/-- The books balance after any run. -/
theorem balanced_live (occurrences : List Occurrence) :
    Balanced (e.newcomers o interval occurrences) e (e.live o interval occurrences) := by
  -- By induction on the run. What became live is counted step by step, and so is what
  -- went.
  induction occurrences generalizing e with
  | nil => exact .of_same rfl rfl
  | cons first rest ih => exact (balanced_happen o interval e first).trans (ih _)

/-- For each target that goes a deletion is put on record. -/
theorem logged_removeStaleNodes (listed : List String) :
    Logged "node_evicted" (e.staleNodes listed).length e (e.removeStaleNodes listed) :=
  logged_foldl e _ _ (fun x name => ⟨_, rfl, rfl, fun r hr => by
    rw [List.mem_singleton.mp hr]
    rfl⟩) _

/-- For each entry that goes a deletion is put on record. -/
theorem logged_removeStalePods (listed : List String) :
    Logged "pod_evicted" (e.stalePods listed).length e (e.removeStalePods listed) :=
  logged_foldl { e with profiles := e.profiles.keep listed.contains } _ _
    (fun x p => ⟨_, rfl, rfl, fun r hr => by
      rw [List.mem_singleton.mp hr]
      rfl⟩) _

end Exporter

namespace EndedSweep

/-- The kind of the deletions that a sweep puts on record. -/
def evictionName (s : EndedSweep) : String :=
  match s.domain with
  | .nodes => "node_evicted"
  | .pods => "pod_evicted"

/-- What a sweep with this listing reports. -/
def swept (s : EndedSweep) (e : Exporter) (listed : List String) : Swept :=
  match s.domain with
  | .nodes => e.nodeSweep listed
  | .pods => e.podSweep listed

/-- The record that a sweep makes of itself. -/
def record (s : EndedSweep) (swept : Swept) : Record :=
  let domain :=
    match s.domain with
    | .nodes => "node"
    | .pods => "pod"
  { component := Exporter.sweepLogger
    event := .swept domain swept.listed swept.removed s.elapsed }

end EndedSweep

/-- A sweep puts a deletion on record for each entry that it dropped, and then
    itself with their number. -/
theorem Exporter.records_endSweep (e : Exporter) (s : EndedSweep) (names : List String)
    (h : s.listing = .ok names) :
    ∃ evictions, (e.endSweep s).records =
        e.records ++ evictions ++ [s.record (s.swept e names)] ∧
      evictions.length = (s.swept e names).removed ∧
        ∀ r ∈ evictions, r.event.name = s.evictionName := by
  rcases s with ⟨domain, now, elapsed, listing⟩
  obtain rfl : listing = .ok names := h
  -- The report comes last and adds one record to those of the evictions.
  have hreported : ∀ x : Exporter, ∀ rs word swept, x.records = e.records ++ rs →
      (x.sweepSucceeded now word swept elapsed).records =
        e.records ++ rs ++ [⟨sweepLogger, .swept word swept.listed swept.removed elapsed⟩] := by
    intro x rs word swept hx
    rw [← hx]
    rfl
  cases domain with
  | nodes =>
      rcases e.logged_removeStaleNodes names with ⟨rs, hrecords, hlength, hkind⟩
      exact ⟨rs, hreported _ rs "node" (e.nodeSweep names) hrecords, hlength, hkind⟩
  | pods =>
      rcases e.logged_removeStalePods names with ⟨rs, hrecords, hlength, hkind⟩
      exact ⟨rs, hreported _ rs "pod" (e.podSweep names) hrecords, hlength, hkind⟩

/-- From any state and after anything that can happen, the series that are live
    and those that were put on record as gone since are together the ones that
    were live and the writes of series that were not. From an empty store these
    are all that ever became live.

    A sweep that comes next puts one deletion on record for each entry that it
    says it removed, and then itself. If its listing failed it puts nothing on
    record. -/
theorem series_accounted_for (o : Options) (interval : Duration) (e : Exporter)
    (occurrences : List Occurrence) :
    let late := e.live o interval occurrences
    (∃ logged, late.records = e.records ++ logged ∧
        late.store.size + evictedIn logged =
          e.store.size + e.newcomers o interval occurrences) ∧
      ∀ s : EndedSweep,
        (∀ names, s.listing = .ok names →
          ∃ evictions, (late.endSweep s).records =
              late.records ++ evictions ++ [s.record (s.swept late names)] ∧
            evictions.length = (s.swept late names).removed ∧
              ∀ r ∈ evictions, r.event.name = s.evictionName) ∧
          ∀ error, s.listing = .error error → (late.endSweep s).records = late.records := by
  refine ⟨e.balanced_live o interval occurrences, fun s => ⟨?_, fun error herror => ?_⟩⟩
  · exact (e.live o interval occurrences).records_endSweep s
  · rcases s with ⟨domain, now, elapsed, listing⟩
    obtain rfl : listing = .error error := herror
    cases domain <;> rfl

end StorageGauges
