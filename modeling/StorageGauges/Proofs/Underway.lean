import StorageGauges.Proofs.Nodes.Tracking
import StorageGauges.Proofs.Pods.Cache

/-!
# Sweeps Under Way

A sweep lists first, in as many pages as it takes, and then drops what the
listing lacks. Watch events come before the first page, between pages and
between the last page and the removal, and they change the very entries that
the removal compares with the listing.

What is listed alone decides. An entry that an event makes while the sweep is
under way is kept if its name is on some page, even if the event came long
after the page, and is dropped if it is on none, even if its object had just
appeared. A listing that did not come to its end drops nothing.

The same holds of pods and nodes. The nodes are listed in a single page.

## Main definitions

* `Happening`: A watch event, or a page of the listing.
* `Underway`: The exporter and what has been listed so far.
* `Underway.run`: What happens, one thing after the other.
* `Underway.finishPods`, `Underway.finishNodes`: The removal.

## Theorems

* `Underway.exporter_run_keeps`: What an event makes and later ones keep.
-/

namespace StorageGauges

/-- What can happen while a sweep lists: a watch reports something, or a page
    of the listing comes. -/
inductive Happening (α : Type)
  | event (event : WatchEvent α)
  | page (page : Page String)

/-- The exporter while a sweep is under way, and what has been listed. -/
structure Underway where
  exporter : Exporter
  listing : Walk.Turn

namespace Underway

variable {α : Type} (react : Exporter → WatchEvent α → Exporter)

/-- Nothing has been listed yet. -/
def start (e : Exporter) : Underway :=
  { exporter := e, listing := .next .start }

/-- Something happens. No page comes after the last one. -/
def step (u : Underway) : Happening α → Underway
  | .event ev => { u with exporter := react u.exporter ev }
  | .page page =>
    match u.listing with
    | .next walk => { u with listing := walk.turn page }
    | .finished _ => u

/-- Things happen one after the other. -/
def run (u : Underway) (happenings : List (Happening α)) : Underway :=
  happenings.foldl (step react) u

/-- The sweep of the pods drops what its listing lacks, if that came to its
    end. -/
def finishPods (u : Underway) : Exporter :=
  match u.listing with
  | .next _ => u.exporter
  | .finished names => u.exporter.removeStalePods names

/-- The sweep of the nodes drops what its listing lacks, if that came to its
    end. -/
def finishNodes (u : Underway) : Exporter :=
  match u.listing with
  | .next _ => u.exporter
  | .finished names => u.exporter.removeStaleNodes names

/-- A page is put aside; the exporter sees nothing of it before the listing is over. -/
theorem exporter_step_page (u : Underway) (page : Page String) :
    (u.step react (.page page)).exporter = u.exporter := by
  unfold step
  rcases u with ⟨e, walk | names⟩ <;> rfl

/-- What an event makes true of the exporter is true when the listing is over,
    if every later event keeps it. -/
theorem exporter_run_keeps (P : Exporter → Prop) (u : Underway)
    (before after : List (Happening α)) (ev : WatchEvent α) (hmade : ∀ e, P (react e ev))
    (hkept : ∀ later, .event later ∈ after → ∀ e, P e → P (react e later)) :
    P (u.run react (before ++ .event ev :: after)).exporter := by
  -- What happens before the event does not matter, so the induction starts right after
  -- it.
  rw [run, List.foldl_append, List.foldl_cons]
  have hstart : P (step react (before.foldl (step react) u) (.event ev)).exporter := hmade _
  generalize step react (before.foldl (step react) u) (.event ev) = v at hstart
  -- Pages leave the exporter alone, and each later event keeps what holds.
  induction after generalizing v with
  | nil => exact hstart
  | cons happening rest ih =>
      refine ih (fun later hlater => hkept later (List.mem_cons_of_mem _ hlater)) _ ?_
      cases happening with
      | event later => exact hkept later List.mem_cons_self _ hstart
      | page page =>
          rw [exporter_step_page]
          exact hstart

/-- A pod that has an entry when the listing is over keeps it if it is
    listed. -/
theorem find?_profiles_finishPods (u : Underway) (name : String)
    (h : u.exporter.profiles.find? name ≠ none) :
    u.finishPods.profiles.find? name ≠ none ↔
      ∀ names, u.listing = .finished names → name ∈ names := by
  rcases u with ⟨e, walk | names⟩
  · exact iff_of_true h fun names heq => absurd heq (by simp)
  · -- The listing is over, so the entry stays exactly if its name is on some page.
    simp only [finishPods, Exporter.find?_profiles_removeStalePods, Walk.Turn.finished.injEq,
      forall_eq']
    by_cases hlisted : name ∈ names
    · rw [if_pos hlisted]
      exact iff_of_true h hlisted
    · rw [if_neg hlisted]
      exact iff_of_false (by simp) hlisted

/-- A node that is tracked when the listing is over stays so if it is
    listed. -/
theorem find?_targets_finishNodes (u : Underway) (name : String)
    (h : u.exporter.targets.find? name ≠ none) :
    u.finishNodes.targets.find? name ≠ none ↔
      ∀ names, u.listing = .finished names → name ∈ names := by
  rcases u with ⟨e, walk | names⟩
  · exact iff_of_true h fun names heq => absurd heq (by simp)
  · -- The listing is over, so the target stays exactly if its name is listed.
    simp only [finishNodes, Exporter.find?_targets_removeStaleNodes, Walk.Turn.finished.injEq,
      forall_eq']
    by_cases hlisted : name ∈ names
    · rw [if_pos hlisted]
      exact iff_of_true h hlisted
    · rw [if_neg hlisted]
      exact iff_of_false (by simp) hlisted

end Underway

/-- A running pod or a ready node that an event brings while a sweep is under
    way, and that no later event says is gone, has its entry when the sweep is
    over exactly if its name is in the listing or the listing failed. -/
theorem kept_by_sweep_iff_listed (o : Options) (e : Exporter) :
    (∀ (before after : List (Happening Pod)) (ev : WatchEvent Pod) (p : Pod),
      p ∈ ev.arrivals → p.isRunning = true →
      (∀ later q, .event later ∈ after → later.departure? = some q → q.name ≠ p.name) →
      let u := (Underway.start e).run (Exporter.podEvent o) (before ++ .event ev :: after)
      u.finishPods.profiles.find? p.name ≠ none ↔
        ∀ names, u.listing = .finished names → p.name ∈ names) ∧
    ∀ (before after : List (Happening Node)) (ev : WatchEvent Node) (n : Node),
      n ∈ ev.arrivals → n.isReady = true →
      (∀ later m, .event later ∈ after → later.departure? = some m → m.name ≠ n.name) →
      let u := (Underway.start e).run (Exporter.nodeEvent o) (before ++ .event ev :: after)
      u.finishNodes.targets.find? n.name ≠ none ↔
        ∀ names, u.listing = .finished names → n.name ∈ names := by
  constructor
  · -- The event makes the entry, no later event takes it, and then the listing decides.
    intro before after ev p hp hrunning hkept
    refine Underway.find?_profiles_finishPods _ p.name ?_
    exact Underway.exporter_run_keeps (Exporter.podEvent o)
      (fun x => x.profiles.find? p.name ≠ none) _ before after ev
      (fun x => x.find?_profiles_podEvent_ne_none o ev p hp hrunning)
      fun later hlater x h => x.find?_profiles_podEvent_keeps o later p.name h
        fun q hq => hkept later q hlater hq
  · intro before after ev n hn hready hkept
    refine Underway.find?_targets_finishNodes _ n.name ?_
    exact Underway.exporter_run_keeps (Exporter.nodeEvent o)
      (fun x => x.targets.find? n.name ≠ none) _ before after ev
      (fun x => x.find?_targets_nodeEvent_ne_none o ev n hn hready)
      fun later hlater x h => x.find?_targets_nodeEvent_keeps o later n.name h
        fun m hm => hkept later m hlater hm

/-- A pod that runs. -/
def runningPod : Pod :=
  { name := "web", phase := some "Running", containers := [], volumes := [] }

/-- A pod and a node that are listed before they are seen are kept. -/
theorem kept_by_sweep_seen_after_page :
    ((Underway.start (.initial .empty)).run (Exporter.podEvent .standard)
        [.page { items := ["web"], next := none }, .event (.applied runningPod)]
      ).finishPods.profiles.find? "web" ≠ none ∧
    ((Underway.start (.initial .empty)).run (Exporter.nodeEvent .standard)
        [.page { items := ["node"], next := none }, .event (.applied readyNode)]
      ).finishNodes.targets.find? "node" ≠ none := by
  have h := kept_by_sweep_iff_listed .standard (.initial .empty)
  constructor
  · refine (h.1 [.page { items := ["web"], next := none }] [] (.applied runningPod) runningPod
      (List.mem_singleton_self _) (by decide) (by simp)).mpr fun names heq => ?_
    rw [← Walk.Turn.finished.inj heq]
    exact List.mem_singleton_self "web"
  · refine (h.2 [.page { items := ["node"], next := none }] [] (.applied readyNode) readyNode
      (List.mem_singleton_self _) (by decide) (by simp)).mpr fun names heq => ?_
    rw [← Walk.Turn.finished.inj heq]
    exact List.mem_singleton_self "node"

/-- A pod that appears when the last page has come is dropped. -/
theorem sweep_drops_arrival :
    ¬ ∀ (before after : List (Happening Pod)) (p : Pod), p.isRunning = true →
      (∀ later q, .event later ∈ after → later.departure? = some q → q.name ≠ p.name) →
      ((Underway.start (.initial .empty)).run (Exporter.podEvent .standard)
        (before ++ .event (.applied p) :: after)).finishPods.profiles.find? p.name ≠ none := by
  intro h
  -- The listing was over before the pod came, and has no names at all.
  refine h [.page { items := [], next := none }] [] runningPod (by decide) (by simp) ?_
  decide

end StorageGauges
