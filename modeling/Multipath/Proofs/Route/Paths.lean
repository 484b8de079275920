import Multipath.Proofs.Route.Forwarding

/-!
# Following decisions to the destination

Every decision on the way saves one hop, so a packet walks along a shortest path whatever the
hash picks. A shortest path visits no node twice: it has fewer hops than the topology has nodes,
and the guard against loops is never met.

Results:
1. `pathFrom_eq_support`, `path?_eq_support`: with a budget of at least the hop distance the
   walk arrives.
2. `path?_exact`: the path of two nodes, for all flows.
3. `path?_line`: between the ends of a line it visits every node, with nothing of the budget left.
-/

namespace Multipath

/-- Four switches in a line. -/
def Topology.line : Topology :=
  (ofSwitches 4 [(0, 1), (1, 2), (2, 3)]).toOption.get (by decide)

namespace Router

variable {t : Topology} {config : Config} {r : Router} {table : LinkTable}

/-! ## 1. The walk -/

/-- The budget left is never less than the hop distance left, since both shrink by one. -/
theorem pathFrom_eq_support {source destination : ℕ} (flow : Flow)
    (installed : LinkTable.install t.graph = .ok table) (built : withLinks t table config = .ok r)
    (inRangeSource : source < t.size) (inRangeDestination : destination < t.size) (budget : ℕ) :
    ∀ current < t.size, t.graph.simple.Reachable current destination →
      t.graph.simple.dist current destination ≤ budget →
      ∃ w : t.graph.simple.Walk current destination,
        w.length = t.graph.simple.dist current destination ∧
        r.pathFrom source destination flow budget current = .ok (some w.support) := by
  induction budget with
  | zero =>
    intro current inRange connected enough
    obtain rfl : current = destination :=
      connected.dist_eq_zero_iff.1 (Nat.le_zero.1 enough)
    refine ⟨SimpleGraph.Walk.nil, by simp, ?_⟩
    rw [pathFrom, (decide_eq_localDelivery_iff flow installed built
      ⟨inRange, inRangeSource, inRangeDestination⟩).2 rfl]
    rfl
  | succ budget ih =>
    intro current inRange connected enough
    by_cases same : current = destination
    · subst same
      refine ⟨SimpleGraph.Walk.nil, by simp, ?_⟩
      rw [pathFrom, (decide_eq_localDelivery_iff flow installed built
        ⟨inRange, inRangeSource, inRangeDestination⟩).2 rfl]
      rfl
    · obtain ⟨egress, decided, adjacent, further, closer⟩ := decide_eq_forward flow
        installed built ⟨inRange, inRangeSource, inRangeDestination⟩ same connected
      obtain ⟨w, shortest, walked⟩ :=
        ih egress.neighbor (Graph.lt_size_of_adj adjacent).2 further (by omega)
      refine ⟨SimpleGraph.Walk.cons adjacent w, ?_, ?_⟩
      · rw [SimpleGraph.Walk.length_cons, shortest, closer]
      · rw [pathFrom, decided]
        dsimp only
        rw [walked]
        rfl

/-! ## 2. Paths -/

theorem dist_lt_size {g : Graph} {a b : ℕ} (inRange : a < g.size)
    (connected : g.simple.Reachable a b) : g.simple.dist a b < g.size := by
  obtain ⟨p, path, shortest⟩ := connected.exists_path_of_dist
  rw [← shortest]
  exact Graph.length_lt_size_of_isPath path inRange

/-- The budget is one less than the number of nodes, which is enough for a shortest walk. -/
theorem path?_eq_support (made : ofTopology t config = .ok r) {source destination : ℕ}
    (inRange : source < t.size) (connected : t.graph.simple.Reachable source destination)
    (flow : Flow) :
    ∃ w : t.graph.simple.Walk source destination,
      w.length = t.graph.simple.dist source destination ∧
      r.path? source destination flow = .ok (some w.support) := by
  obtain ⟨table, installed, built⟩ := ofTopology_eq_ok_iff.1 made
  have size : r.size = t.size := (routes_of_installed installed built).size
  have enough : t.graph.simple.dist source destination ≤ r.size - 1 := by
    rw [size]
    exact Nat.le_sub_one_of_lt (dist_lt_size inRange connected)
  exact pathFrom_eq_support flow installed built inRange
    (Graph.lt_size_of_reachable connected inRange) (r.size - 1) source inRange connected enough

theorem path?_eq_none (made : ofTopology t config = .ok r) {source destination : ℕ}
    (inRangeSource : source < t.size) (inRangeDestination : destination < t.size)
    (unconnected : ¬ t.graph.simple.Reachable source destination) (flow : Flow) :
    r.path? source destination flow = .ok none := by
  obtain ⟨table, installed, built⟩ := ofTopology_eq_ok_iff.1 made
  have decided := (decide_eq_noRoute_iff flow installed built
    ⟨inRangeSource, inRangeSource, inRangeDestination⟩).2 unconnected
  rw [path?, pathFrom.eq_def, decided]

/-- Between two nodes that are connected there is always a path, and it is a shortest one:
whatever the flow is, it leads from the source to the destination along edges, visits no node
twice and has as many hops as the graph needs. Without a connection there is no path, and that
is no error. -/
theorem path?_exact (made : ofTopology t config = .ok r) {source destination : ℕ}
    (inRangeSource : source < t.size) (inRangeDestination : destination < t.size) (flow : Flow) :
    (t.graph.simple.Reachable source destination →
      ∃ path, r.path? source destination flow = .ok (some path) ∧
        path.head? = some source ∧ path.getLast? = some destination ∧
        path.IsChain (fun node next => t.hasEdge node next = true) ∧ path.Nodup ∧
        path.length = t.graph.simple.dist source destination + 1) ∧
    (¬ t.graph.simple.Reachable source destination →
      r.path? source destination flow = .ok none) := by
  obtain ⟨table, installed, built⟩ := ofTopology_eq_ok_iff.1 made
  have size : r.size = t.size := (routes_of_installed installed built).size
  constructor
  · intro connected
    have enough : t.graph.simple.dist source destination ≤ r.size - 1 := by
      have below := dist_lt_size inRangeSource connected
      rw [size]
      exact Nat.le_sub_one_of_lt below
    obtain ⟨w, shortest, walked⟩ := pathFrom_eq_support flow installed built inRangeSource
      inRangeDestination (r.size - 1) source inRangeSource connected enough
    refine ⟨w.support, walked, ?_, ?_, ?_, ?_, ?_⟩
    · rw [List.head?_eq_some_head w.support_ne_nil, w.head_support]
    · rw [List.getLast?_eq_some_getLast w.support_ne_nil, w.getLast_support]
    · exact w.isChain_adj_support.imp fun _ _ adjacent =>
        Graph.hasEdge_iff.2 (Graph.adj_simple.1 adjacent)
    · exact (w.isPath_of_length_eq_dist shortest).support_nodup
    · rw [SimpleGraph.Walk.length_support, shortest]
  · intro unconnected
    have decided := (decide_eq_noRoute_iff flow installed built
      ⟨inRangeSource, inRangeSource, inRangeDestination⟩).2 unconnected
    rw [path?, pathFrom.eq_def, decided]

/-- A hop in the line leads at most one switch further. -/
theorem le_add_length_of_line {a b : ℕ} (w : Topology.line.graph.simple.Walk a b) :
    b ≤ a + w.length := by
  induction w with
  | nil => exact Nat.le_refl _
  | @cons a next b adjacent rest ih =>
    have single : ∀ edge ∈ Topology.line.graph.edges, edge.2 = edge.1 + 1 := by decide
    have hop : next ≤ a + 1 := by
      cases adjacent with
      | inl listed => exact (single _ listed).le
      | inr listed => exact (Nat.le_succ next).trans ((single _ listed).ge.trans (Nat.le_succ a))
    rw [SimpleGraph.Walk.length_cons]
    exact ih.trans (by omega)

/-- A path may have as many nodes as the topology, and the guard still lets it through. -/
theorem path?_line : 0 < Topology.line.size ∧ 3 < Topology.line.size ∧
    ∃ r, ofTopology Topology.line {} = .ok r ∧ ∀ flow,
      ∃ path, r.path? 0 3 flow = .ok (some path) ∧ path.Nodup ∧ path.length = Topology.line.size := by
  obtain ⟨r, made⟩ := @exists_ofTopology Topology.line {} (by decide) (by decide)
  refine ⟨by decide, by decide, r, made, fun flow => ?_⟩
  have connected : Topology.line.graph.simple.Reachable 0 3 :=
    ⟨.cons (v := 1) (Or.inl (by decide)) (.cons (v := 2) (Or.inl (by decide))
      (.cons (v := 3) (Or.inl (by decide)) .nil))⟩
  obtain ⟨path, found, -, -, -, distinct, length⟩ :=
    (path?_exact made (by decide) (by decide) flow).1 connected
  have below : Topology.line.graph.simple.dist 0 3 < 4 := dist_lt_size (by decide) connected
  obtain ⟨w, shortest⟩ := connected.exists_walk_length_eq_dist
  have far := le_add_length_of_line w
  refine ⟨path, found, distinct, ?_⟩
  show path.length = 4
  omega

end Router

end Multipath
