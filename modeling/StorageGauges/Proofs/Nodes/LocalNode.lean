import StorageGauges.Proofs.Occurrences

/-!
# The Local Node

An exporter for one node takes that node in at its start and follows no watch of
nodes. Its collector sweeps all the same, and a sweep asks what is listed, not
what the exporter is for. So the local node is tracked as long as every listing
of the nodes that a sweep has got contains it, and nothing else ever is. The
first listing that lacks it takes it away, and since nobody tells of nodes
nothing brings it back.

## Main definitions

* `Occurrence.tellsOfNodes`: A node may be taken in.
* `Occurrence.listedNodes?`: What a sweep of the nodes has listed.
* `Exporter.localTarget`: The local node as a target.

## Theorems

* `Exporter.targets_happen`: What a step does to the targets.
* `Exporter.targets_live`: What a run leaves of them.
* `Rehearsal.exporter_learnSelf`: A rehearsed start takes the local node in.
* `localNode_tracked_while_listed`: What is tracked by an exporter for one node.
-/

namespace StorageGauges

namespace Occurrence

/-- Nodes are told of one by one or in the listing at the start, and those that
    are ready are taken in. -/
def tellsOfNodes : Occurrence → Bool
  | .nodes (.event _) => true
  | .nodes (.learn _) => true
  | _ => false

/-- The names that a sweep of the nodes has listed, unless its listing failed. -/
def listedNodes? : Occurrence → Option (List String)
  | .nodes (.sweep (.ok names)) => some names
  | .sweep ⟨.nodes, _, _, .ok names⟩ => some names
  | _ => none

end Occurrence

namespace Exporter

variable (o : Options) (interval : Duration) (e : Exporter)

/-- What is heard of pods does not touch the targets. -/
theorem targets_hearPodReport (r : Report Pod) : (e.hearPodReport o r).targets = e.targets := by
  cases r with
  | news said =>
      cases said with
      | seen p =>
          rw [hearPodReport, hearPod, applyPod]
          split <;> rfl
      | gone p => rfl
  | listed names =>
      -- The profiles go first, and then the series.
      exact foldl_keeps Exporter.targets
        (fun x (p : String × PodProfile) => x.evictPod p.1 p.2.containerNames .sweep)
        { e with profiles := e.profiles.keep names.contains } (e.stalePods names)
        fun _ _ _ => rfl

/-- Nor does any step that concerns pods. -/
theorem targets_cacheStep (step : CacheStep) : (e.cacheStep o step).targets = e.targets := by
  rw [cacheStep_eq_foldl_reports]
  exact foldl_keeps Exporter.targets _ e _ fun x r _ => targets_hearPodReport o x r

/-- Nor does a scrape, also where its node gave no answer and lost its series. -/
theorem targets_finishScrape (node : String) (answer : Option Payload) (allowed : AllowList)
    (elapsed : Nat) :
    (e.finishScrape o interval node answer allowed elapsed).targets = e.targets := by
  rw [finishScrape_eq]
  exact foldl_keeps Exporter.targets _ e _ fun x deed _ => targets_act interval node x deed

/-- Where nobody tells of nodes only a sweep of the nodes changes the targets. It
    keeps those that it has listed. -/
theorem targets_happen (h : Occurrence) (hquiet : h.tellsOfNodes = false) :
    (e.happen o interval h).targets =
      match h.listedNodes? with
      | some names => e.targets.keep names.contains
      | none => e.targets := by
  cases h with
  | nodes step =>
      -- Events and listings that are taken in tell of nodes, and it is quiet.
      cases step with
      | event ev => exact absurd hquiet (by simp [Occurrence.tellsOfNodes])
      | learn listing => exact absurd hquiet (by simp [Occurrence.tellsOfNodes])
      | sweep listing =>
          cases listing with
          | ok names => exact targets_removeStaleNodes e names
          | error error => rfl
  | pods step => exact targets_cacheStep o e step
  | sweep ended =>
      rcases ended with ⟨domain, now, elapsed, error | names⟩
      · cases domain <;> rfl
      · cases domain with
        | nodes => exact targets_removeStaleNodes e names
        | pods => exact targets_hearPodReport o e (.listed names)
  | scrape node answer allowed elapsed =>
      exact targets_finishScrape o interval e node answer allowed elapsed
  | deed node deed => exact targets_act interval node e deed

/-- Where nobody tells of nodes a run leaves the targets that every sweep has
    listed. -/
theorem targets_live (occurrences : List Occurrence)
    (hquiet : ∀ h ∈ occurrences, h.tellsOfNodes = false) :
    (e.live o interval occurrences).targets =
      e.targets.keep fun name =>
        (occurrences.filterMap Occurrence.listedNodes?).all fun names => names.contains name := by
  induction occurrences generalizing e with
  | nil => exact (List.filter_eq_self.mpr fun entry _ => rfl).symm
  | cons first rest ih =>
      have hfirst := targets_happen o interval e first (hquiet first List.mem_cons_self)
      have hrest := ih (e.happen o interval first) fun h hh =>
        hquiet h (List.mem_cons_of_mem first hh)
      rw [live, List.foldl_cons]
      refine hrest.trans ?_
      -- The rest of the run starts from what the first sweep has left.
      rw [hfirst, List.filterMap_cons]
      cases first.listedNodes? with
      | none => rfl
      | some names =>
          -- What is kept by this sweep and then by the others is kept by all of them.
          simp only [NameMap.keep, List.filter_filter, List.all_cons, Bool.and_comm]

/-- The local node as a target. What was found of it matters only when kubelets
    are scraped directly. -/
def localTarget (o : Options) (found : Option Node) : Target :=
  { name := o.selfNode
    endpoint := if o.direct then found.bind fun n => n.endpoint? o.readOnlyPort else none }

/-- Where nothing is tracked the local node is taken in as the only target. -/
theorem targets_seedSelf (found : Option Node) (h : e.targets = []) :
    (e.seedSelf o found).targets = [(o.selfNode, localTarget o found)] := by
  rw [seedSelf, h]
  rfl

end Exporter

/-- A rehearsed start of an exporter for one node takes it in, whatever was found
    of it. -/
theorem Rehearsal.exporter_learnSelf (r : Rehearsal)
    (hmode : r.setup.options.mode.isClusterWide = false) :
    r.learnNodes.2.exporter =
      r.findSelf.2.exporter.seedSelf r.setup.options r.findSelf.1 := by
  have hlocal : ¬ r.setup.options.mode.isClusterWide = true := by
    rw [hmode]
    exact Bool.false_ne_true
  rw [learnNodes, if_neg hlocal]
  rfl

/-- An exporter for one node, after its start and anything that can happen to it
    then, tracks the local node and nothing else as long as every sweep of the
    nodes whose listing succeeded has listed it. From the first one that has not
    on it tracks nothing. It does not matter whether the node was found at the
    start. -/
theorem localNode_tracked_while_listed (o : Options) (interval : Duration)
    (health : Health.Registry) (found : Option Node) (occurrences : List Occurrence)
    (hquiet : ∀ h ∈ occurrences, h.tellsOfNodes = false) :
    (((Exporter.initial health).seedSelf o found).live o interval occurrences).targets =
      if ∀ names ∈ occurrences.filterMap Occurrence.listedNodes?, o.selfNode ∈ names then
        [(o.selfNode, Exporter.localTarget o found)]
      else [] := by
  rw [Exporter.targets_live o interval _ occurrences hquiet,
    Exporter.targets_seedSelf o _ found rfl]
  by_cases hlisted : ∀ names ∈ occurrences.filterMap Occurrence.listedNodes?, o.selfNode ∈ names
  · rw [if_pos hlisted]
    -- The one target there is stays in every sweep.
    refine List.filter_eq_self.mpr fun entry hentry => ?_
    rw [List.mem_singleton.mp hentry, List.all_eq_true]
    exact fun names hnames => List.contains_iff_mem.mpr (hlisted names hnames)
  · rw [if_neg hlisted]
    -- A sweep that lacks the node leaves nothing, and nothing can come back.
    refine List.filter_eq_nil_iff.mpr fun entry hentry hkept => hlisted fun names hnames => ?_
    rw [List.mem_singleton.mp hentry, List.all_eq_true] at hkept
    exact List.contains_iff_mem.mp (hkept names hnames)

/-- An exporter for the node `local`. -/
def localOptions : Options :=
  { Options.standard with selfNode := "local" }

/-- The node stays when a listing fails and when a listing contains it. -/
theorem localNode_tracked_after_sweeps :
    (((Exporter.initial .empty).seedSelf localOptions none).live localOptions (.ofSeconds 15)
      [.nodes (.sweep (.error ⟨"refused"⟩)), .nodes (.sweep (.ok ["other", "local"]))]).targets =
        [("local", { name := "local", endpoint := none })] := by
  have h := localNode_tracked_while_listed localOptions (.ofSeconds 15) .empty none
    [.nodes (.sweep (.error ⟨"refused"⟩)), .nodes (.sweep (.ok ["other", "local"]))] (by decide)
  rw [h]
  decide

/-- It does not stay whatever is listed. -/
theorem localNode_dropped_by_sweep :
    ¬ ∀ listings : List (Except ListError (List String)),
      (((Exporter.initial .empty).seedSelf localOptions none).live localOptions (.ofSeconds 15)
        (listings.map fun listing => .nodes (.sweep listing))).targets.names = ["local"] := by
  intro h
  have hlocal := h [.ok ["other"]]
  revert hlocal
  decide

end StorageGauges
