import Multipath.Proofs.Route.NextHopLists
import Multipath.Topology.Basic

/-!
# Walking the table of next hops

Following next hops to a destination gives the shortest paths to it: all of them, and nothing
that is longer or goes round. What a shortest path is refers to the edge list alone.

Results:
1. `shortest_cons`: a first hop is listed exactly when it starts a shortest path.
2. `isShortestPath_iff_hops_listed`: a sequence of nodes is a shortest path exactly when each of
   its nodes lists the next one.
-/

namespace Multipath

/-- The nodes of a walk to `destination` that has as few edges as any from the same start. -/
def Graph.IsShortestPath (g : Graph) (path : List ℕ) (destination : ℕ) : Prop :=
  ∃ source, ∃ w : g.simple.Walk source destination,
    w.support = path ∧ w.length = g.simple.dist source destination

namespace Topology

/-- A topology of switches alone. -/
def ofSwitches (size : ℕ) (edges : List (ℕ × ℕ)) : Except TopologyError Topology :=
  ofBlueprint
    { nodeCount := size, edgeCount := edges.length, switches := List.range size, tors := [],
      servers := [], edges }

/-- Four switches in a ring. -/
def ring : Topology :=
  (ofSwitches 4 [(0, 1), (1, 3), (0, 2), (2, 3)]).toOption.get (by decide)

end Topology

namespace NextHops

variable {g : Graph} {config : Config} {table : NextHops} {destination : ℕ}

/-! ## 1. First hops -/

theorem edist_eq_succ_iff {a b t : ℕ} (fromA : g.simple.Reachable a t)
    (fromB : g.simple.Reachable b t) :
    g.simple.edist a t = g.simple.edist b t + 1 ↔ g.simple.dist a t = g.simple.dist b t + 1 := by
  rw [← fromA.coe_dist_eq_edist, ← fromB.coe_dist_eq_edist]
  norm_cast

/-- A listed hop has a route to the destination, and the route of the node itself is longer by
that hop. -/
theorem mem_get_iff_dist (fit : g.PathsFit) (built : ofGraph g config = .ok table) {a b : ℕ} :
    b ∈ table.get a destination ↔ g.simple.Adj a b ∧ g.simple.Reachable b destination ∧
      g.simple.dist a destination = g.simple.dist b destination + 1 := by
  rw [mem_get_iff fit built]
  constructor
  · rintro ⟨adjacent, connected, closer⟩
    exact ⟨adjacent, connected,
      (edist_eq_succ_iff (adjacent.reachable.trans connected) connected).1 closer⟩
  · rintro ⟨adjacent, connected, closer⟩
    exact ⟨adjacent, connected,
      (edist_eq_succ_iff (adjacent.reachable.trans connected) connected).2 closer⟩

/-- The first hop of a shortest path is listed, and behind it the path is shortest again. -/
theorem shortest_cons {a b : ℕ} (fit : g.PathsFit) (built : ofGraph g config = .ok table)
    (adjacent : g.simple.Adj a b) (rest : g.simple.Walk b destination) :
    (SimpleGraph.Walk.cons adjacent rest).length = g.simple.dist a destination ↔
      b ∈ table.get a destination ∧ rest.length = g.simple.dist b destination := by
  rw [mem_get_iff_dist fit built, SimpleGraph.Walk.length_cons]
  have least := SimpleGraph.dist_le rest
  have triangle : g.simple.dist a destination ≤ g.simple.dist b destination + 1 := by
    obtain ⟨w, length⟩ := rest.reachable.exists_walk_length_eq_dist
    have around := SimpleGraph.dist_le (SimpleGraph.Walk.cons adjacent w)
    rwa [SimpleGraph.Walk.length_cons, length] at around
  constructor
  · intro shortest
    exact ⟨⟨adjacent, rest.reachable, by omega⟩, by omega⟩
  · rintro ⟨⟨-, -, closer⟩, shortest⟩
    omega

/-! ## 2. Whole paths -/

theorem isChain_of_shortest (fit : g.PathsFit) (built : ofGraph g config = .ok table) {a : ℕ}
    (w : g.simple.Walk a destination) (shortest : w.length = g.simple.dist a destination) :
    w.support.IsChain fun node next => next ∈ table.get node destination := by
  induction w with
  | nil => exact List.IsChain.singleton _
  | cons adjacent rest ih =>
    obtain ⟨listed, shortestRest⟩ := (shortest_cons fit built adjacent rest).1 shortest
    rw [SimpleGraph.Walk.support_cons, ← rest.cons_tail_support]
    refine List.IsChain.cons_cons listed ?_
    rw [rest.cons_tail_support]
    exact ih shortestRest

/-- Next hops that end at the destination make a walk, and every hop of it saves one edge. -/
theorem exists_walk_of_isChain (fit : g.PathsFit) (built : ofGraph g config = .ok table) :
    ∀ {a : ℕ} {rest : List ℕ}, (a :: rest).getLast? = some destination →
      (a :: rest).IsChain (fun node next => next ∈ table.get node destination) →
      ∃ w : g.simple.Walk a destination,
        w.support = a :: rest ∧ w.length = g.simple.dist a destination := by
  intro a rest ends chain
  induction rest generalizing a with
  | nil =>
    obtain rfl : a = destination := by simpa using ends
    exact ⟨SimpleGraph.Walk.nil, rfl, by simp⟩
  | cons b rest ih =>
    rw [List.isChain_cons_cons] at chain
    obtain ⟨listed, chain⟩ := chain
    obtain ⟨w, visited, shortest⟩ := ih (by simpa using ends) chain
    have adjacent := ((mem_get_iff_dist fit built).1 listed).1
    refine ⟨SimpleGraph.Walk.cons adjacent w, ?_, ?_⟩
    · rw [SimpleGraph.Walk.support_cons, visited]
    · exact (shortest_cons fit built adjacent w).2 ⟨listed, shortest⟩

/-- A sequence of nodes that ends at `destination` is a shortest path of the graph if and only
if every node of it lists the one after it. -/
theorem isShortestPath_iff_hops_listed (small : g.size ≤ 2 ^ 31)
    (built : ofGraph g config = .ok table) {path : List ℕ}
    (ends : path.getLast? = some destination) :
    g.IsShortestPath path destination ↔
      ∀ i, (next : i + 1 < path.length) → path[i + 1] ∈ table.get path[i] destination := by
  have fit := Graph.pathsFit_of_size_le small
  rw [← List.isChain_iff_getElem (R := fun node next => next ∈ table.get node destination)]
  constructor
  · rintro ⟨source, w, rfl, shortest⟩
    exact isChain_of_shortest fit built w shortest
  · intro chain
    cases path with
    | nil => cases ends
    | cons a rest =>
      obtain ⟨w, visited, shortest⟩ := exists_walk_of_isChain fit built ends chain
      exact ⟨a, w, visited, shortest⟩

/-- The table of the ring, row by row: only opposite nodes have a choice. -/
def ringTable : NextHops :=
  ⟨4, #[[], [1], [2], [1, 2], [0], [], [0, 3], [3], [0], [0, 3], [], [3], [1, 2], [1], [2], []]⟩

/-- Both ways round the ring are shortest paths; turning back on one of them is not. -/
theorem ring_shortest_paths :
    Topology.ring.graph.size ≤ 2 ^ 31 ∧ ofGraph Topology.ring.graph {} = .ok ringTable ∧
      Topology.ring.graph.IsShortestPath [0, 1, 3] 3 ∧
      Topology.ring.graph.IsShortestPath [0, 2, 3] 3 ∧
      ¬ Topology.ring.graph.IsShortestPath [0, 1, 0, 2, 3] 3 := by
  have small : Topology.ring.graph.size ≤ 2 ^ 31 := by decide
  have built : ofGraph Topology.ring.graph {} = .ok ringTable := by decide +kernel
  have left : [0, 1, 3].IsChain fun node next => next ∈ ringTable.get node 3 := by decide
  have right : [0, 2, 3].IsChain fun node next => next ∈ ringTable.get node 3 := by decide
  refine ⟨small, built, ?_, ?_, fun shortest => ?_⟩
  · exact (isShortestPath_iff_hops_listed small built rfl).2 (List.isChain_iff_getElem.1 left)
  · exact (isShortestPath_iff_hops_listed small built rfl).2 (List.isChain_iff_getElem.1 right)
  · have back := (isShortestPath_iff_hops_listed small built rfl).1 shortest 1 (by decide)
    exact absurd back (by decide)

end NextHops

end Multipath
