import StorageGauges.Proofs.Nodes.Tracking
import StorageGauges.Proofs.Reports
import StorageGauges.Rehearsal.Learn

/-!
# Which Nodes Are Tracked

An exporter for the whole cluster learns of nodes in three ways. A watch tells
of single nodes or of all of them, the first listing brings all nodes, and a
sweep lists the names of all nodes. Listings can fail.

After any number of such steps a node is tracked exactly if it was seen ready
once, and since it was last seen ready it was neither deleted nor missing from
a sweep's listing. Its target is made of the node as it was then. What is seen
of a node that is not ready counts for nothing, and neither do listings that
fail or that are not a sweep's.

## Main definitions

* `NodeStep`: A watch event, an attempt to learn, or a sweep.
* `NodeStep.reports`: What a step says.
* `Exporter.nodeStep`: What a step does.
* `LastReady`: The last time that a node was seen ready.

## Theorems

* `Node.isReady_iff`: Which nodes are ready.
* `Exporter.find?_targets_nodeSteps`: The target of a name follows the reports.
* `Rehearsal.exporter_learnNodes`, `Rehearsal.exporter_collectNodes`: Rehearsed
  attempts and sweeps are these steps.
* `find?_targets_iff_lastReady`: Which nodes are tracked, and with what target.
-/

namespace StorageGauges

/-- Something from which the exporter learns of nodes: a watch event, an
    attempt to list the nodes at the start, or the listing of a sweep. -/
inductive NodeStep
  | event (event : WatchEvent Node)
  | learn (listing : Except ListError (List Node))
  | sweep (listing : Except ListError (List String))

namespace NodeStep

/-- What a step says of nodes, in order. A listing that failed says nothing. -/
def reports : NodeStep → List (Report Node)
  | event ev => ev.news.map .news
  | learn (.ok nodes) => nodes.map fun n => .news (.seen n)
  | learn (.error _) => []
  | sweep (.ok names) => [.listed names]
  | sweep (.error _) => []

end NodeStep

/-- The target that a node gets when it is seen. -/
def Node.target? (o : Options) (n : Node) : Option Target :=
  if n.isReady then some (n.target o.direct o.readOnlyPort) else none

/-- A node is ready if a condition of the kind `Ready` has the status `True`,
    whatever its others are and also if another one of that kind has not. -/
theorem Node.isReady_iff (n : Node) :
    n.isReady = true ↔ ∃ c ∈ n.conditions, c.kind = "Ready" ∧ c.status = "True" := by
  simp only [Node.isReady, List.any_eq_true, Bool.and_eq_true, decide_eq_true_eq]

namespace Exporter

variable (o : Options) (e : Exporter)

/-- A step is taken. Only a listing that was answered changes anything. -/
def nodeStep (e : Exporter) : NodeStep → Exporter
  | .event ev => e.nodeEvent o ev
  | .learn (.ok nodes) => e.applyNodes o nodes
  | .learn (.error _) => e
  | .sweep (.ok names) => e.removeStaleNodes names
  | .sweep (.error _) => e

/-- A single report comes. -/
def hearNode (e : Exporter) : Report Node → Exporter
  | .news (.seen n) => e.applyNode o n
  | .news (.gone n) => e.removeNode n.name Cause.watchDelete.word
  | .listed names => e.removeStaleNodes names

/-- Nodes that come together are heard of one by one. -/
theorem applyNodes_eq_foldl_reports (nodes : List Node) :
    e.applyNodes o nodes =
      (nodes.map fun n => Report.news (.seen n)).foldl (hearNode o) e := by
  rw [List.foldl_map]
  rfl

/-- A step does no more than its reports say, in their order. -/
theorem nodeStep_eq_foldl_reports (step : NodeStep) :
    e.nodeStep o step = step.reports.foldl (hearNode o) e := by
  cases step with
  | event ev =>
      cases ev with
      | applied n => rfl
      | deleted n => rfl
      | restarted nodes =>
          -- A restart brings the nodes of its listing one by one.
          have hreports : (NodeStep.event (.restarted nodes)).reports =
              nodes.map fun n => .news (.seen n) := List.map_map
          rw [hreports, ← applyNodes_eq_foldl_reports]
          rfl
  | learn listing =>
      cases listing with
      | ok nodes => exact applyNodes_eq_foldl_reports o e nodes
      | error _ => rfl
  | sweep listing => cases listing <;> rfl

/-- A report changes the target of a name as what is held for it. -/
theorem find?_targets_hearNode (r : Report Node) (name : String) :
    (e.hearNode o r).targets.find? name =
      heed Node.name (Node.target? o) name (e.targets.find? name) r := by
  cases r with
  | news said =>
      cases said with
      | seen n =>
          -- A node that is seen matters to the name that it has, and only if it is ready.
          rw [hearNode, find?_targets_applyNode, heed, Node.target?]
          by_cases hname : n.name = name
          · by_cases hready : n.isReady = true <;> simp [hname, hready]
          · simp [hname, Ne.symm hname]
      | gone n =>
          rw [hearNode, find?_targets_removeNode, heed]
          simp only [eq_comm]
  | listed names => exact find?_targets_removeStaleNodes e names name

/-- What holds of one report holds of any number of them, one after the other. -/
theorem find?_targets_foldl_hearNode (reports : List (Report Node)) (name : String) :
    (reports.foldl (hearNode o) e).targets.find? name =
      reports.foldl (heed Node.name (Node.target? o) name) (e.targets.find? name) := by
  induction reports generalizing e with
  | nil => rfl
  | cons r rest ih => rw [List.foldl_cons, ih, find?_targets_hearNode, List.foldl_cons]

/-- The target of a name after some steps follows the reports of the steps. -/
theorem find?_targets_nodeSteps (steps : List NodeStep) (name : String) :
    (steps.foldl (nodeStep o) e).targets.find? name =
      (steps.flatMap NodeStep.reports).foldl (heed Node.name (Node.target? o) name)
        (e.targets.find? name) := by
  induction steps generalizing e with
  | nil => rfl
  | cons step rest ih =>
      rw [List.foldl_cons, ih, nodeStep_eq_foldl_reports, find?_targets_foldl_hearNode,
        List.flatMap_cons, List.foldl_append]

/-- A step whose reports do not settle a name leaves its target as it is. -/
theorem find?_targets_nodeStep_of_not_settles (step : NodeStep) (name : String)
    (h : ∀ said ∈ step.reports, ¬ said.Settles Node.name (Node.target? o) name) :
    (e.nodeStep o step).targets.find? name = e.targets.find? name := by
  rw [nodeStep_eq_foldl_reports, find?_targets_foldl_hearNode]
  exact foldl_heed_of_not_settles _ _ _ _ _ h

end Exporter

namespace Rehearsal

/-- A rehearsed attempt to learn of the nodes of a whole cluster is a step with
    the answer that it gets. -/
theorem exporter_learnNodes (r : Rehearsal) (hmode : r.setup.options.mode.isClusterWide = true) :
    r.learnNodes.2.exporter =
      (r.request .nodes Cluster.allNodes).2.exporter.nodeStep r.setup.options
        (.learn (r.request .nodes Cluster.allNodes).1) := by
  unfold learnNodes
  rw [if_pos hmode]
  rcases r.request .nodes Cluster.allNodes with ⟨error | nodes, r'⟩ <;> rfl

/-- So is a rehearsed sweep of the nodes. -/
theorem exporter_collectNodes (r : Rehearsal) :
    r.collectNodes.2.exporter =
      r.listNodes.2.exporter.nodeStep r.setup.options (.sweep r.listNodes.1) := by
  unfold collectNodes
  rcases r.listNodes with ⟨error | names, r'⟩ <;> rfl

end Rehearsal

/-- The node is what was seen when a name was last seen ready, by an event or
    in a listing, and what was said after that is this. -/
structure LastReady (name : String) (steps : List NodeStep) (n : Node)
    (after : List (Report Node)) : Prop where
  seen : ∃ before, steps.flatMap NodeStep.reports = before ++ .news (.seen n) :: after
  named : n.name = name
  ready : n.isReady = true
  last : ∀ m, .news (.seen m) ∈ after → m.isReady = true → m.name ≠ name

/-- What does not settle a name, kind by kind. -/
theorem Report.not_settles_target?_iff (o : Options) (name : String)
    (reports : List (Report Node)) :
    (∀ said ∈ reports, ¬ said.Settles Node.name (Node.target? o) name) ↔
      (∀ m, .news (.seen m) ∈ reports → m.isReady = true → m.name ≠ name) ∧
        (∀ m, .news (.gone m) ∈ reports → m.name ≠ name) ∧
          ∀ names, .listed names ∈ reports → name ∈ names := by
  have hready : ∀ m : Node, m.target? o ≠ none ↔ m.isReady = true := by
    intro m
    unfold Node.target?
    by_cases h : m.isReady = true <;> simp [h]
  simp only [Report.forall_not_settles_iff, hready]

/-- A node is tracked exactly if it was seen ready and was, since it was last
    seen ready, neither deleted nor missing from the listing of a sweep. Its
    target is then made of the node as it was. A step that brings no ready node
    of a name, does not say that one is gone and is no sweep that lacks the name
    leaves the target of the name. -/
theorem find?_targets_iff_lastReady (o : Options) (health : Health.Registry) (name : String) :
    (∀ (steps : List NodeStep) (t : Target),
      (steps.foldl (Exporter.nodeStep o) (.initial health)).targets.find? name = some t ↔
        ∃ n after, LastReady name steps n after ∧ (∀ m, .news (.gone m) ∈ after → m.name ≠ name) ∧
          (∀ names, .listed names ∈ after → name ∈ names) ∧
            t = { name, endpoint := if o.direct then n.endpoint? o.readOnlyPort else none }) ∧
      ∀ (e : Exporter) (step : NodeStep),
        (∀ n, .news (.seen n) ∈ step.reports → n.isReady = true → n.name ≠ name) →
        (∀ n, .news (.gone n) ∈ step.reports → n.name ≠ name) →
        (∀ names, .listed names ∈ step.reports → name ∈ names) →
        (e.nodeStep o step).targets.find? name = e.targets.find? name := by
  constructor
  · intro steps t
    -- The target that a ready node of the name gets is written out once, for both
    -- directions.
    have hentry : ∀ n : Node, n.name = name → (n.target? o = some t ↔ n.isReady = true ∧
        t = { name, endpoint := if o.direct then n.endpoint? o.readOnlyPort else none }) := by
      intro n hname
      rw [Node.target?, Node.target, hname]
      by_cases h : n.isReady = true
      · rw [if_pos h, Option.some.injEq, eq_comm]
        exact (and_iff_right h).symm
      · rw [if_neg h]
        exact iff_of_false (Option.some_ne_none t).symm fun ht => h ht.1
    have hstart : (Exporter.initial health).targets.find? name = none := rfl
    rw [Exporter.find?_targets_nodeSteps, hstart, foldl_heed_eq_some_iff]
    simp only [Report.not_settles_target?_iff]
    constructor
    · rintro ⟨before, n, after, heq, hname, htarget, hlast, hgone, hlisted⟩
      rcases (hentry n hname).mp htarget with ⟨hready, ht⟩
      exact ⟨n, after, ⟨⟨before, heq⟩, hname, hready, hlast⟩, hgone, hlisted, ht⟩
    · rintro ⟨n, after, ⟨⟨before, heq⟩, hname, hready, hlast⟩, hgone, hlisted, ht⟩
      have htarget := (hentry n hname).mpr ⟨hready, ht⟩
      exact ⟨before, n, after, heq, hname, htarget, hlast, hgone, hlisted⟩
  · intro e step hseen hgone hlisted
    refine e.find?_targets_nodeStep_of_not_settles o step name ?_
    exact (Report.not_settles_target?_iff o name step.reports).mpr ⟨hseen, hgone, hlisted⟩

/-- A node that is not ready. -/
def unreadyNode : Node :=
  { readyNode with conditions := [] }

/-- A node that was seen ready, and then not ready, is tracked after a listing
    that failed, a relist that lacks it and a sweep that lists it. -/
theorem find?_targets_of_readyNode :
    ([NodeStep.event (.applied readyNode), .event (.applied unreadyNode), .learn (.error ⟨""⟩),
        .event (.restarted []), .sweep (.ok ["node"])].foldl
      (Exporter.nodeStep .standard) (.initial .empty)).targets.find? "node" =
      some { name := "node", endpoint := none } := by
  have hlast : LastReady "node" [.event (.applied readyNode), .event (.applied unreadyNode),
      .learn (.error ⟨""⟩), .event (.restarted []), .sweep (.ok ["node"])] readyNode
      [.news (.seen unreadyNode), .listed ["node"]] := by
    refine ⟨⟨[], rfl⟩, rfl, by decide, fun m hm hready => ?_⟩
    -- The only node that is seen afterwards is not ready.
    have hm : m = unreadyNode := by simpa using hm
    rw [hm, Node.isReady_iff] at hready
    rcases hready with ⟨c, hc, -⟩
    exact absurd hc List.not_mem_nil
  refine ((find?_targets_iff_lastReady .standard .empty "node").1 _ _).mpr
    ⟨readyNode, _, hlast, ?_, ?_, rfl⟩
  · simp
  · simp

end StorageGauges
