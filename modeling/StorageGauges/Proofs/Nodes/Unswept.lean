import StorageGauges.Proofs.Nodes.Flight
import StorageGauges.Proofs.Run

/-!
# What Node Sweeps Leave

A sweep of the nodes compares a listing with the tracked nodes and never looks
at the series. A scrape that is in flight when its node goes does not look
either: it writes for a node that is no longer tracked, and no later sweep
finds that node to remove.

For every order in which events, sweeps, ticks and the single writes of
scrapes can come, this says which series of unlisted nodes are live right
after a sweep. They are those that a flight wrote after its node, tracked at
the tick, was tracked no more. Only three things can take such a series away
again or bring it back under the sweeps: the node is seen ready, it is
deleted, or a flight of it finds that it does not answer.

It makes no difference whether scrapes are in flight when the sweep comes.

## Main definitions

* `Exporter.Stray`: A live series of a node that is not tracked.
* `Traffic.Settles`: A move by which a node has no stray series.
* `Traffic.WritesUntracked`: A move that writes for a node that went.
* `Traffic.WrittenUntracked`: A run left a series of a node that went.

## Theorems

* `Exporter.stray_of_nodeEvent`, `Exporter.stray_nodeEvent`: What events do to
  stray series.
* `Exporter.stray_removeStaleNodes`: Sweeps do nothing to them.
* `Traffic.turn_strays`: Only a write makes a series stray.
* `Traffic.not_settles_of_stray`: No move that settles leaves a stray series.
* `Traffic.stray_turn`: Every other move leaves it stray.
* `Traffic.stray_run_iff`: The stray series of a run.
-/

namespace StorageGauges

namespace Exporter

/-- A live series of a node that is not tracked. -/
structure Stray (e : Exporter) (s : Series) (node : String) : Prop where
  live : s ∈ e.store.index
  untracked : e.targets.find? node = none

variable (o : Options) (e : Exporter) (s : Series) (node : String)

/-- A series that a sweep leaves, of a node that is not tracked or not listed
    then, was stray before. -/
theorem stray_of_removeStaleNodes (hs : s.value? .nodeName = some node)
    (listed : List String) (hlive : s ∈ (e.removeStaleNodes listed).store.index)
    (h : node ∉ listed ∨ (e.removeStaleNodes listed).targets.find? node = none) :
    e.Stray s node := by
  rw [mem_index_removeStaleNodes] at hlive
  refine ⟨hlive.1, ?_⟩
  by_cases hlisted : node ∈ listed
  · rw [find?_targets_removeStaleNodes, if_pos hlisted] at h
    exact h.resolve_left (not_not_intro hlisted)
  · -- A tracked node that is not listed loses its series with its target.
    by_contra htracked
    exact hlive.2 node htracked hlisted hs

/-- No event makes a series stray. -/
theorem stray_of_nodeEvent (hs : s.value? .nodeName = some node)
    (ev : WatchEvent Node) (h : (e.nodeEvent o ev).Stray s node) : e.Stray s node := by
  rcases h with ⟨hlive, huntracked⟩
  rw [nodeEvent_eq] at hlive huntracked
  cases hgone : ev.departure? with
  | none =>
      simp only [hgone] at hlive huntracked
      rw [store_applyNodes] at hlive
      rw [find?_targets_applyNodes_eq_none_iff] at huntracked
      exact ⟨hlive, huntracked.1⟩
  | some n =>
      simp only [hgone] at hlive huntracked
      rw [mem_index_removeNode] at hlive
      -- The series is still live, so it is another node that was deleted.
      have hname : node ≠ n.name := fun heq => hlive.2 (heq ▸ hs)
      rw [find?_targets_removeNode, if_neg hname] at huntracked
      exact ⟨hlive.1, huntracked⟩

/-- An event that neither brings a ready node nor says that it is gone leaves
    its stray series. -/
theorem stray_nodeEvent (hs : s.value? .nodeName = some node)
    (ev : WatchEvent Node) (h : e.Stray s node)
    (hbrings : ∀ n ∈ ev.arrivals, ¬ (n.isReady = true ∧ n.name = node))
    (hdeletes : ∀ n, ev.departure? = some n → n.name ≠ node) :
    (e.nodeEvent o ev).Stray s node := by
  rcases h with ⟨hlive, huntracked⟩
  rw [nodeEvent_eq]
  cases hgone : ev.departure? with
  | none =>
      refine ⟨?_, ?_⟩
      · rw [store_applyNodes]
        exact hlive
      · rw [find?_targets_applyNodes_eq_none_iff]
        exact ⟨huntracked, hbrings⟩
  | some n =>
      have hname : node ≠ n.name := fun heq => hdeletes n hgone heq.symm
      refine ⟨?_, ?_⟩
      · rw [mem_index_removeNode, hs]
        exact ⟨hlive, fun heq => hname (Option.some.inj heq)⟩
      · rw [find?_targets_removeNode, if_neg hname]
        exact huntracked

/-- A sweep leaves every stray series: a node that is not tracked is not among
    those that are removed. -/
theorem stray_removeStaleNodes (hs : s.value? .nodeName = some node)
    (listed : List String) (h : e.Stray s node) : (e.removeStaleNodes listed).Stray s node := by
  rcases h with ⟨hlive, huntracked⟩
  refine ⟨?_, ?_⟩
  · rw [mem_index_removeStaleNodes, hs]
    refine ⟨hlive, fun name htracked _ heq => htracked ?_⟩
    rw [← Option.some.inj heq]
    exact huntracked
  · rw [find?_targets_removeStaleNodes, huntracked]
    exact ite_self none

end Exporter

namespace Traffic

/-- After the move a node is tracked or has no series: it is seen ready, or it
    is deleted, or a flight of it gets no answer. -/
def Settles (t : Traffic) (node : String) : Move → Prop
  | .event ev =>
    (∃ n ∈ ev.arrivals, n.isReady = true ∧ n.name = node) ∨
      ∃ n, ev.departure? = some n ∧ n.name = node
  | .act i => t.next? i = some (node, .evict)
  | _ => False

/-- The move writes a series in a flight of a node that is not tracked. -/
def WritesUntracked (t : Traffic) (s : Series) (node : String) (move : Move) : Prop :=
  ∃ i w, move = .act i ∧ t.next? i = some (node, .write w) ∧ w.series = s ∧
    t.exporter.targets.find? node = none

/-- The run dispatched a scrape of a tracked node, wrote a series in it when
    the node was tracked no more, and has done nothing since that settles. -/
def WrittenUntracked (o : Options) (interval : Duration) (start : Traffic) (moves : List Move)
    (s : Series) (node : String) : Prop :=
  ∃ early allowed between write after,
    moves = early ++ .tick allowed :: between ++ write :: after ∧
      (start.run o interval early).exporter.targets.find? node ≠ none ∧
      (start.run o interval (early ++ .tick allowed :: between)).WritesUntracked s node write ∧
      ∀ mid move rest, after = mid ++ move :: rest →
        ¬ (start.run o interval (early ++ .tick allowed :: between ++ write :: mid)).Settles node
          move

variable (o : Options) (interval : Duration) (t : Traffic) (s : Series) (node : String)

/-- Only a write makes a series stray, and it is a write for a node that is
    not tracked. -/
theorem turn_strays (hs : s.value? .nodeName = some node)
    (hown : ∀ f ∈ t.flights, f.OwnWrites) (move : Move) (hbefore : ¬ t.exporter.Stray s node)
    (hafter : (t.turn o interval move).exporter.Stray s node) :
    t.WritesUntracked s node move := by
  rcases hafter with ⟨hlive, huntracked⟩
  cases move with
  | event ev =>
      refine absurd ?_ hbefore
      exact Exporter.stray_of_nodeEvent o _ s node hs ev ⟨hlive, huntracked⟩
  | sweep listing =>
      refine absurd ?_ hbefore
      cases listing with
      | ok listed =>
          -- What is live after a sweep was live before it.
          exact Exporter.stray_of_removeStaleNodes _ s node hs listed hlive (Or.inr huntracked)
      | error _ => exact ⟨hlive, huntracked⟩
  | tick allowed => exact absurd ⟨hlive, huntracked⟩ hbefore
  | answer i answer elapsed =>
      rw [turn, exporter_hear] at hlive huntracked
      exact absurd ⟨hlive, huntracked⟩ hbefore
  | act i =>
      rw [turn, exporter_act] at hlive huntracked
      cases hnext : t.next? i with
      | none =>
          simp only [hnext] at hlive huntracked
          exact absurd ⟨hlive, huntracked⟩ hbefore
      | some next =>
          rcases next with ⟨other, deed⟩
          simp only [hnext, Exporter.targets_act] at hlive huntracked
          rcases (Exporter.mem_index_act interval other _ deed s).mp hlive with
            hold | ⟨w, rfl, rfl⟩
          · exact absurd ⟨hold.1, huntracked⟩ hbefore
          · -- What a flight writes carries its own node, so the two nodes are one.
            rcases flight_of_next? t i other _ hnext with ⟨f, hf, rfl, rest, hrest⟩
            have hother := hown f hf _ hrest w List.mem_cons_self
            rw [← Option.some.inj (hs.symm.trans hother)] at hnext
            exact ⟨i, w, rfl, hnext, rfl, huntracked⟩

/-- A write for a node that is not tracked makes a stray series. -/
theorem stray_of_writesUntracked (move : Move) (h : t.WritesUntracked s node move) :
    (t.turn o interval move).exporter.Stray s node := by
  rcases h with ⟨i, w, rfl, hnext, rfl, huntracked⟩
  rw [turn, exporter_act, hnext]
  exact ⟨(Store.mem_index_apply _ w w.series).mpr (Or.inl rfl), huntracked⟩

/-- After a move that settles the node is tracked or has no live series. -/
theorem not_settles_of_stray (hs : s.value? .nodeName = some node) (move : Move)
    (hafter : (t.turn o interval move).exporter.Stray s node) : ¬ t.Settles node move := by
  rcases hafter with ⟨hlive, huntracked⟩
  intro hsettles
  cases move with
  | event ev =>
      -- A node that is seen ready is tracked, and one that is deleted has no series left.
      rcases hsettles with ⟨n, hn, hready, rfl⟩ | ⟨n, hgone, hname⟩
      · exact Exporter.find?_targets_nodeEvent_ne_none o t.exporter ev n hn hready huntracked
      · simp only [turn, Exporter.nodeEvent_eq, hgone] at hlive
        rw [Exporter.mem_index_removeNode, hname] at hlive
        exact hlive.2 hs
  | act i =>
      have hnext : t.next? i = some (node, .evict) := hsettles
      rw [turn, exporter_act, hnext] at hlive
      rcases (Exporter.mem_index_act interval node _ .evict s).mp hlive with
        hold | ⟨w, hw, -⟩
      · exact hold.2 rfl hs
      · exact absurd hw (by simp)
  | sweep listing => exact hsettles
  | tick allowed => exact hsettles
  | answer i answer elapsed => exact hsettles

/-- A move that does not settle leaves a stray series as it is. Sweeps are
    among these moves. -/
theorem stray_turn (hs : s.value? .nodeName = some node) (move : Move)
    (h : t.exporter.Stray s node) (hsettles : ¬ t.Settles node move) :
    (t.turn o interval move).exporter.Stray s node := by
  rcases h with ⟨hlive, huntracked⟩
  cases move with
  | event ev =>
      refine Exporter.stray_nodeEvent o _ s node hs ev ⟨hlive, huntracked⟩ ?_ ?_
      · exact fun n hn hready => hsettles (Or.inl ⟨n, hn, hready⟩)
      · exact fun n hgone hname => hsettles (Or.inr ⟨n, hgone, hname⟩)
  | sweep listing =>
      cases listing with
      | error _ => exact ⟨hlive, huntracked⟩
      | ok listed => exact Exporter.stray_removeStaleNodes _ s node hs listed ⟨hlive, huntracked⟩
  | tick allowed => exact ⟨hlive, huntracked⟩
  | answer i answer elapsed =>
      rw [turn, exporter_hear]
      exact ⟨hlive, huntracked⟩
  | act i =>
      rw [turn, exporter_act]
      cases hnext : t.next? i with
      | none => exact ⟨hlive, huntracked⟩
      | some next =>
          rcases next with ⟨other, deed⟩
          refine ⟨(Exporter.mem_index_act interval other _ deed s).mpr (Or.inl ⟨hlive, ?_⟩), ?_⟩
          · -- An eviction is of another node, or the move would settle.
            rintro rfl heq
            rw [hs] at heq
            exact hsettles (by rw [Settles, hnext, Option.some.inj heq])
          · rw [Exporter.targets_act]
            exact huntracked

/-- The stray series of a run that starts with nothing are those that it wrote
    for nodes that went. -/
theorem stray_run_iff (hempty : t.exporter.store.index = []) (hnone : t.flights = [])
    (hnamed : t.exporter.TargetsNamed) (hs : s.value? .nodeName = some node)
    (moves : List Move) :
    (t.run o interval moves).exporter.Stray s node ↔
      WrittenUntracked o interval t moves s node := by
  have hno : ∀ f ∈ t.flights, f.OwnWrites := by
    rw [hnone]
    exact fun f hf => absurd hf List.not_mem_nil
  constructor
  · intro h
    -- The run is one of writes and of moves that settle, whatever else it does.
    have hsince : Since (turn o interval) (fun x move => x.WritesUntracked s node move)
        (fun x move => x.Settles node move) t moves := by
      refine since_of_holds (turn o interval) _ _ t (fun x => x.exporter.Stray s node) moves ?_ ?_ h
      · intro hstray
        have hlive := hstray.live
        rw [hempty] at hlive
        exact absurd hlive List.not_mem_nil
      · intro before move hafter
        -- What turns a series stray or keeps it so is known only for flights with own
        -- writes.
        have hown := ownWrites_run o interval t before hno
        by_cases hbefore : (before.foldl (turn o interval) t).exporter.Stray s node
        · exact Or.inr ⟨hbefore, not_settles_of_stray o interval _ s node hs move hafter⟩
        · exact Or.inl (turn_strays o interval _ s node hs hown move hbefore hafter)
    rcases hsince with ⟨before, write, after, rfl, hwrites, hafter⟩
    -- The flight that wrote was dispatched by a tick before.
    rcases hwrites with ⟨i, w, rfl, hnext, hw, huntracked⟩
    rcases flight_of_next? _ i node _ hnext with ⟨f, hf, hnode, -⟩
    rcases dispatched_of_mem_run o interval t before hnamed hnone f hf with
      ⟨early, allowed, between, rfl, htracked⟩
    rw [hnode] at htracked
    exact ⟨early, allowed, between, .act i, after, rfl, htracked,
      ⟨i, w, rfl, hnext, hw, huntracked⟩, hafter⟩
  · rintro ⟨early, allowed, between, write, after, rfl, -, hwrites, hafter⟩
    refine holds_of_since (turn o interval) (fun x move => x.WritesUntracked s node move)
      (fun x move => x.Settles node move) t (fun x => x.exporter.Stray s node) _ ?_ ?_
      ⟨_, write, after, rfl, hwrites, hafter⟩
    · exact fun x move hmove => stray_of_writesUntracked o interval x s node move hmove
    · exact fun x move hstray hsettles => stray_turn o interval x s node hs move hstray hsettles

end Traffic

/-- Right after a sweep a series of a node that the listing lacks is live
    exactly if a flight, dispatched while its node was tracked, wrote it when
    the node was tracked no more, and nothing has settled that node since. -/
theorem live_after_nodeSweep_iff (o : Options) (interval : Duration) (health : Health.Registry)
    (pool : Pool) (moves : List Move) (listed : List String) (s : Series) (node : String)
    (hs : s.value? .nodeName = some node) (hlisted : node ∉ listed) :
    s ∈ (((Traffic.initial health pool).run o interval moves).turn o interval
        (.sweep (.ok listed))).exporter.store.index ↔
      Traffic.WrittenUntracked o interval (Traffic.initial health pool) moves s node := by
  -- Right after a sweep the series of nodes that are not listed are the stray ones.
  rw [← Traffic.stray_run_iff o interval _ s node rfl rfl (fun _ h => absurd h List.not_mem_nil)
    hs moves]
  constructor
  · intro hlive
    exact Exporter.stray_of_removeStaleNodes _ s node hs listed hlive (Or.inl hlisted)
  · intro h
    exact (Exporter.stray_removeStaleNodes _ s node hs listed h).live

/-- A node is deleted while a scrape of it is in flight. -/
def deletedInFlight : Traffic :=
  (Traffic.initial .empty (.ofSize 1)).run .standard (.ofSeconds 15)
    [.event (.applied readyNode), .tick none, .event (.deleted readyNode)]

/-- What a payload without pods leaves a scrape to do. -/
theorem deeds_noPods (e : Exporter) (interval : Duration) (elapsed : Nat) :
    e.deeds .standard interval "node" (some [0x7B, 0x7D]) none elapsed =
      Exporter.closingDeeds .standard "node" (remainingTime interval elapsed) := by
  rw [Exporter.deeds, parse?_noPods]
  rfl

/-- A node is deleted while a scrape of it is in flight, and the scrape goes on
    to its end. -/
def lateScrape : List Move :=
  [.event (.applied readyNode), .tick none, .event (.deleted readyNode),
    .answer 0 (some [0x7B, 0x7D]) 0, .act 0, .act 0, .act 0]

/-- The run up to the first deed is evaluated once; what the payload leaves to do is
    known without reading it again. -/
theorem run_lateScrape :
    (Traffic.initial .empty (.ofSize 1)).run .standard (.ofSeconds 15) lateScrape =
      ({ deletedInFlight with
          flights := [⟨"node", none, some (Exporter.closingDeeds .standard "node"
            (remainingTime (.ofSeconds 15) 0))⟩] } : Traffic).run .standard (.ofSeconds 15)
        [.act 0, .act 0, .act 0] := by
  rw [← deeds_noPods deletedInFlight.exporter]
  rfl

/-- The late scrape has written a series for a node that went. -/
theorem writtenUntracked_lateScrape :
    Traffic.WrittenUntracked .standard (.ofSeconds 15) (Traffic.initial .empty (.ofSize 1))
      lateScrape (pollingRate "node") "node" :=
  (live_after_nodeSweep_iff .standard (.ofSeconds 15) .empty (.ofSize 1) lateScrape []
    (pollingRate "node") "node" rfl (by decide)).mp (by rw [run_lateScrape]; decide)

/-- A run at whose end nothing is in flight can leave a series of a node that
    was not listed. -/
theorem nodeSweep_leaves_late :
    ¬ ∀ (moves : List Move) (listed : List String) (s : Series) (node : String),
      ((Traffic.initial .empty (.ofSize 1)).run .standard (.ofSeconds 15) moves).flights = [] →
      s ∈ (((Traffic.initial .empty (.ofSize 1)).run .standard (.ofSeconds 15) moves).turn
        .standard (.ofSeconds 15) (.sweep (.ok listed))).exporter.store.index →
      s.value? .nodeName = some node → node ∈ listed := by
  -- The run of the late scrape is such a run, with nothing listed at all.
  intro h
  refine absurd (h lateScrape [] (pollingRate "node") "node" ?_ ?_ rfl) List.not_mem_nil
  · rw [run_lateScrape]
    rfl
  · rw [run_lateScrape]
    decide

end StorageGauges
