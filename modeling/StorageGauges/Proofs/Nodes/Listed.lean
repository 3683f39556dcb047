import StorageGauges.Proofs.Nodes.Tracking
import StorageGauges.Proofs.Pods.Paged

/-!
# What Node Sweeps Take

A sweep of the nodes asks for all nodes at once. An error ends it with nothing
changed. A listing is used for its names and for nothing else: a node that is
listed is kept as it was, ready or not, and one that is listed but not tracked
is not taken in.

The nodes that the listing lacks are removed one after the other, in an order
that nothing settles. A series carries the name of one node at most. So what
one removal takes is taken by no other, all of them together are one deletion
(`Exporter.store_removeNodes`), and each finds the same whatever went before.
What the order shows in is the order of the records, and only there
(`Exporter.removeNodes_perm`).

## Main definitions

* `Exporter.sweepNodes`: A sweep, given the answer to its request.
* `Exporter.SameButOrder`: Two states differ at most in the order of records.
* `Exporter.NodesSweptBy`: What a sweep comes to when its listing has brought
  some names.

## Theorems

* `Exporter.store_removeNodes`: The removal of some nodes is one deletion.
* `Exporter.removeNodes_perm`: Nodes are removed in any order.
* `Exporter.staleNodes_removeStaleNodes`: Nothing is stale after a sweep.
* `Exporter.nodesSweptBy_removeStaleNodes`: What a sweep comes to.
* `Exporter.finishNodeSweep_eq`, `Rehearsal.collectNodes_eq_sweepNodes`: The
  sweeps of the loop, and those that are rehearsed, are this one.
-/

namespace StorageGauges

namespace Exporter

variable (e : Exporter)

/-- The removal of some nodes is one deletion. -/
theorem store_removeNodes (names : List String) (cause : String) :
    (e.removeNodes names cause).store =
      e.store.remove fun s => names.any (s.matchesLabel .nodeName) := by
  induction names generalizing e with
  | nil => exact (Store.remove_none e.store).symm
  | cons name rest ih =>
      have hrest := ih (e.removeNode name cause)
      have hfirst : (e.removeNode name cause).store =
          e.store.remove fun s => s.matchesLabel .nodeName name := rfl
      rw [removeNodes] at hrest
      -- A removal is one deletion, and deletions one after the other are one.
      rw [removeNodes, List.foldl_cons, hrest, hfirst, Store.remove_remove]
      simp only [List.any_cons]

/-- Two states differ at most in the order in which things were put on record. -/
structure SameButOrder (e other : Exporter) : Prop where
  targets : other.targets = e.targets
  profiles : other.profiles = e.profiles
  store : other.store = e.store
  health : other.health = e.health
  records : other.records.Perm e.records

namespace SameButOrder

variable {e} {other third : Exporter}

theorem refl (e : Exporter) : e.SameButOrder e := ⟨rfl, rfl, rfl, rfl, .refl _⟩

theorem trans (h : e.SameButOrder other) (h' : other.SameButOrder third) :
    e.SameButOrder third where
  targets := h'.targets.trans h.targets
  profiles := h'.profiles.trans h.profiles
  store := h'.store.trans h.store
  health := h'.health.trans h.health
  records := h'.records.trans h.records

/-- The count that is put on record is of the store, and the stores are the same. -/
theorem removeNode (h : e.SameButOrder other) (name cause : String) :
    (e.removeNode name cause).SameButOrder (other.removeNode name cause) where
  targets := congrArg (·.erase name) h.targets
  profiles := h.profiles
  store := congrArg (fun st => (st.evictNode name).store) h.store
  health := h.health
  records := by
    simp only [Exporter.removeNode, log, h.store]
    exact h.records.append_right _

/-- What is the same but for the order of the records stays so under further
    removals. -/
theorem removeNodes (h : e.SameButOrder other) (names : List String) (cause : String) :
    (e.removeNodes names cause).SameButOrder (other.removeNodes names cause) := by
  induction names generalizing e other with
  | nil => exact h
  | cons name rest ih => exact ih (h.removeNode name cause)

end SameButOrder

/-- What the removal of one node finds is not taken by that of another. -/
theorem removed_evictNode_evictNode (st : Store) (name other : String) (hne : name ≠ other) :
    ((st.evictNode name).store.evictNode other).removed = (st.evictNode other).removed := by
  change (st.index.filter fun s => !s.matchesLabel .nodeName name).countP
    (·.matchesLabel .nodeName other) = st.index.countP (·.matchesLabel .nodeName other)
  rw [List.countP_filter]
  refine List.countP_congr fun s _ => ?_
  rw [Bool.and_eq_true, Bool.not_eq_true', Series.matchesLabel_eq_true_iff,
    Series.matchesLabel_eq_false_iff]
  -- A series has one name of a node, and this is the other one.
  exact and_iff_left_of_imp fun hother hname => hne (Option.some.inj (hname.symm.trans hother))

/-- Of two nodes either can be removed first. -/
theorem removeNode_comm (name other cause : String) :
    ((e.removeNode name cause).removeNode other cause).SameButOrder
      ((e.removeNode other cause).removeNode name cause) := by
  by_cases hne : name = other
  · rw [hne]
    exact .refl _
  · refine ⟨?_, rfl, ?_, rfl, ?_⟩
    · change (e.targets.erase other).erase name = (e.targets.erase name).erase other
      simp only [NameMap.erase, NameMap.keep, List.filter_filter, Bool.and_comm]
    · -- The series that go are those with either name, whichever is looked for first.
      have htwo := e.store_removeNodes [other, name] cause
      have hback := e.store_removeNodes [name, other] cause
      simp only [List.any_cons, List.any_nil, Bool.or_false] at htwo hback
      exact htwo.trans ((congrArg e.store.remove (funext fun s => Bool.or_comm _ _)).trans
        hback.symm)
    · -- The two records change places, each with the count that it has in the other order
      -- too.
      have hfirst := removed_evictNode_evictNode e.store other name (Ne.symm hne)
      have hsecond := removed_evictNode_evictNode e.store name other hne
      simp only [removeNode, log, hfirst, hsecond, List.append_assoc]
      exact (List.Perm.swap _ _ []).append_left e.records

/-- Nodes are removed in any order. -/
theorem removeNodes_perm {names order : List String} (h : order.Perm names) (cause : String) :
    (e.removeNodes names cause).SameButOrder (e.removeNodes order cause) := by
  -- The induction follows the exchanges that lead from one order to the other.
  induction h generalizing e with
  | nil => exact .refl _
  | cons name _ ih => exact ih (e.removeNode name cause)
  | swap first second rest => exact (e.removeNode_comm first second cause).removeNodes rest cause
  | trans _ _ ih ih' => exact (ih' e).trans (ih e)

/-- Only the names that were listed matter to which nodes are stale. -/
theorem staleNodes_congr (names others : List String) (h : ∀ name, name ∈ others ↔ name ∈ names) :
    e.staleNodes others = e.staleNodes names := by
  refine List.filter_congr fun name _ => ?_
  rw [List.contains_eq_mem, List.contains_eq_mem, decide_eq_decide.mpr (h name)]

/-- After a sweep nothing that is tracked is missing from its listing. -/
theorem staleNodes_removeStaleNodes (names : List String) :
    (e.removeStaleNodes names).staleNodes names = [] := by
  refine List.eq_nil_iff_forall_not_mem.mpr fun name hstale => ?_
  rcases (mem_staleNodes_iff _ _ _).mp hstale with ⟨htracked, hlisted⟩
  rw [find?_targets_removeStaleNodes, if_neg hlisted] at htracked
  exact htracked rfl

/-- A sweep with nothing to drop does nothing at all. -/
theorem removeStaleNodes_of_none_stale (names : List String) (h : e.staleNodes names = []) :
    e.removeStaleNodes names = e := by
  rw [removeStaleNodes, h, List.foldl_nil]

/-- The counts of a sweep, read off the listing and the targets and not off what the
    sweep does. -/
theorem nodeSweep_eq (names : List String) :
    e.nodeSweep names =
      { listed := names.toFinset.card
        removed := e.targets.countP fun entry => entry.1 ∉ names } := by
  have hremoved : (e.staleNodes names).length = e.targets.countP fun entry => entry.1 ∉ names := by
    rw [staleNodes, ← List.countP_eq_length_filter, NameMap.names, List.countP_map]
    refine List.countP_congr fun entry _ => ?_
    rw [Function.comp_apply, List.contains_eq_mem, ← decide_not]
  rw [nodeSweep, length_distinct, hremoved]

/-- A sweep of the nodes, given the answer to its request. -/
def sweepNodes (answer : Except ListError (List Node)) : Except ListError Swept × Exporter :=
  match answer with
  | .error error => (.error error, e)
  | .ok nodes =>
    let names := nodes.map (·.name)
    (.ok (e.nodeSweep names), e.removeStaleNodes names)

/-- What a sweep comes to when its listing has brought some names: which targets
    are kept, which series stay live and what is read of them, and what is
    counted. Another listing of the same names comes to the same, a second sweep
    finds nothing more, and the nodes can be removed in any order. -/
structure NodesSweptBy (names : List String) (after : Except ListError Swept × Exporter) :
    Prop where
  kept : after.2.targets = e.targets.filter fun entry => entry.1 ∈ names
  live : ∀ s, s ∈ after.2.store.index ↔
    s ∈ e.store.index ∧ ∀ entry ∈ e.targets, entry.1 ∉ names → s.value? .nodeName ≠ some entry.1
  values : ∀ s ∈ after.2.store.index,
    (∀ t ∈ e.store.index, t ∉ after.2.store.index → t.family = s.family → t.key ≠ s.key) →
      after.2.store.get? s = e.store.get? s
  others : after.2.profiles = e.profiles ∧ after.2.health = e.health
  result : after.1 = .ok
    { listed := names.toFinset.card
      removed := e.targets.countP fun entry => entry.1 ∉ names }
  anyListing : ∀ nodes : List Node, (∀ name, name ∈ nodes.map (·.name) ↔ name ∈ names) →
    e.sweepNodes (.ok nodes) = after
  again : ∀ nodes : List Node, (∀ name, name ∈ nodes.map (·.name) ↔ name ∈ names) →
    after.2.sweepNodes (.ok nodes) = (.ok { listed := names.toFinset.card, removed := 0 }, after.2)
  anyOrder : ∀ order : List String, order.Perm (e.staleNodes names) →
    after.2.SameButOrder (e.removeNodes order Cause.sweep.word)

/-- Only the names that were listed matter to a sweep. -/
theorem sweepNodes_congr (names : List String) (nodes : List Node)
    -- A removal that is counted is one of a target that the listing lacks.
    (h : ∀ name, name ∈ nodes.map (·.name) ↔ name ∈ names) :
    e.sweepNodes (.ok nodes) = (.ok (e.nodeSweep names), e.removeStaleNodes names) := by
  have hlisted : (nodes.map (·.name)).toFinset = names.toFinset := by
    ext name
    rw [List.mem_toFinset, List.mem_toFinset]
    exact h name
  have hcount : e.nodeSweep (nodes.map (·.name)) = e.nodeSweep names := by
    rw [nodeSweep_eq, nodeSweep_eq, hlisted]
    simp only [h]
  simp only [sweepNodes, hcount, removeStaleNodes, staleNodes_congr e names _ h]

/-- A series that stays is read as before, unless a series of its family that
    goes has the same key. -/
theorem get?_removeStaleNodes (names : List String) (s : Series)
    (hapart : ∀ t ∈ e.store.index, t ∉ (e.removeStaleNodes names).store.index →
      t.family = s.family → t.key ≠ s.key) :
    (e.removeStaleNodes names).store.get? s = e.store.get? s := by
  have hstore : (e.removeStaleNodes names).store =
      e.store.remove fun s => (e.staleNodes names).any (s.matchesLabel .nodeName) :=
    store_removeNodes e _ _
  rw [hstore] at hapart ⊢
  refine Store.get?_remove_of_apart _ _ s fun t ht htest => ?_
  have hgone : t ∉ (e.store.remove fun s =>
      (e.staleNodes names).any (s.matchesLabel .nodeName)).index := by
    rw [Store.mem_index_remove, htest]
    exact fun h => absurd h.2 (by simp only [Bool.true_eq_false, not_false_eq_true])
  rw [← Bool.not_eq_true, Series.sharesGauge_iff]
  exact fun hshares => hapart t ht hgone hshares.1 hshares.2

/-- A sweep of the loop comes to all of this, point by point. -/
theorem nodesSweptBy_removeStaleNodes (names : List String) :
    e.NodesSweptBy names (.ok (e.nodeSweep names), e.removeStaleNodes names) where
  kept := by
    rw [targets_removeStaleNodes, NameMap.keep]
    exact List.filter_congr fun entry _ => List.contains_eq_mem entry.1 names
  live := by
    intro s
    rw [mem_index_removeStaleNodes]
    refine and_congr_right fun _ => ⟨fun h entry hentry hlisted => ?_, fun h name htracked => ?_⟩
    · have hname : entry.1 ∈ e.targets.names := List.mem_map.mpr ⟨entry, hentry, rfl⟩
      exact h entry.1 ((NameMap.mem_names_iff _ _).mp hname) hlisted
    · rcases List.mem_map.mp ((NameMap.mem_names_iff _ _).mpr htracked) with ⟨entry, hentry, rfl⟩
      exact h entry hentry
  values := fun s _ hapart => get?_removeStaleNodes e names s hapart
  others := ⟨profiles_removeNodes e _ _, health_removeNodes e _ _⟩
  result := by rw [nodeSweep_eq]
  anyListing := sweepNodes_congr e names
  again := by
    intro nodes hsame
    -- Nothing is stale any more, so the second sweep counts and removes nothing.
    have hstale := staleNodes_removeStaleNodes e names
    rw [sweepNodes_congr _ names nodes hsame, removeStaleNodes_of_none_stale _ names hstale,
      nodeSweep, hstale, length_distinct, List.length_nil]
  anyOrder := fun _ hperm => removeNodes_perm e hperm _

/-- A sweep of the loop reports on a sweep. -/
theorem finishNodeSweep_eq (now : Int) (elapsed : Nat) (answer : Except ListError (List Node)) :
    e.finishNodeSweep now elapsed (answer.map fun nodes => nodes.map (·.name)) =
      match e.sweepNodes answer with
      | (.ok swept, after) => after.sweepSucceeded now "node" swept elapsed
      | (.error error, after) => after.sweepFailed now "Node" error := by
  cases answer <;> rfl

end Exporter

namespace Rehearsal

/-- Whether a request is answered does not depend on what is read. -/
theorem request_map {α β : Type} (r : Rehearsal) (call : Call) (read : Cluster → Except ListError α)
    (f : α → β) :
    r.request call (fun c => (read c).map f) =
      ((r.request call read).1.map f, (r.request call read).2) := by
  simp only [request, Cluster.answer]
  split
  · rfl
  · split <;> rfl

/-- A rehearsed sweep of the nodes is a sweep of what the exporter has when the
    listing is over. -/
theorem collectNodes_eq_sweepNodes (r : Rehearsal) :
    (r.collectNodes.1, r.collectNodes.2.exporter) =
      (r.request .nodes Cluster.allNodes).2.exporter.sweepNodes
        (r.request .nodes Cluster.allNodes).1 := by
  have hlisted : r.listNodes = r.request .nodes fun c => c.allNodes.map fun ns => ns.map (·.name) :=
    rfl
  -- The rehearsed request asks for the names, and so asks for the nodes and reads theirs.
  rw [collectNodes, hlisted, request_map]
  rcases r.request .nodes Cluster.allNodes with ⟨error | nodes, r'⟩ <;> rfl

end Rehearsal

/-- A sweep whose listing fails changes nothing. With a listing, in which nodes
    may stand more than once, be unknown or not be ready, a sweep keeps the
    targets that are listed as they were and takes the series of those that are
    not. It counts the names that were listed, once each, and the targets it
    dropped. A second sweep with these names finds nothing, and nothing but the
    order of the records depends on the order of the removals. -/
theorem nodeSweep_of_listing (e : Exporter) :
    (∀ error, e.sweepNodes (.error error) = (.error error, e)) ∧
      ∀ nodes : List Node,
        e.NodesSweptBy (nodes.map (·.name)) (e.sweepNodes (.ok nodes)) :=
  ⟨fun _ => rfl, fun nodes => e.nodesSweptBy_removeStaleNodes (nodes.map (·.name))⟩

/-- A node that is listed twice counts once, and one that is not listed goes. -/
example :
    (({ Exporter.initial .empty with
          targets := [("gone", ⟨"gone", none⟩), ("node", ⟨"node", some "here"⟩)] } :
        Exporter).sweepNodes (.ok [readyNode, readyNode])).1.toOption =
      some { listed := 1, removed := 1 } := by decide

end StorageGauges
