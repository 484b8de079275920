import Multipath.Proofs.Graph.Drawn
import Multipath.Proofs.Route.ShortestPaths

/-!
# Which topologies have the same next hops

The configuration bounds the size of a table and says nothing about its lists, so one graph has one
table. Conversely the graph can be read off its table: a node that is its own next hop is one hop
away, which is to say that it is a neighbor.

Results:
1. `mem_get_destination_iff`, `graph_unique`: the edges in a table.
2. `ofGraph_unique`: the table of a graph.
3. `tables_eq_iff`: two tables are equal exactly when they belong to the same nodes and edges.
-/

namespace Multipath

/-- The edge list holds all that a graph has besides its number of nodes. -/
theorem Graph.ext_edges {g h : Graph} (size : g.size = h.size) (edges : g.edges = h.edges) :
    g = h := by
  refine ext_neighbors size fun node other => ?_
  rw [← adj_simple, ← adj_simple]
  show (node, other) ∈ g.edges ∨ (other, node) ∈ g.edges ↔
    (node, other) ∈ h.edges ∨ (other, node) ∈ h.edges
  rw [edges]

namespace NextHops

variable {g h : Graph} {config configOther : Config} {table : NextHops}

/-! ## 1. From the table to the graph -/

/-- A destination is its own next hop from its neighbors and from no other node. -/
theorem mem_get_destination_iff (fit : g.PathsFit) (built : ofGraph g config = .ok table)
    {node destination : ℕ} :
    destination ∈ table.get node destination ↔ destination ∈ g.neighbors node := by
  rw [mem_get_iff fit built, ← Graph.adj_simple]
  constructor
  · rintro ⟨adjacent, -, -⟩
    exact adjacent
  · intro adjacent
    refine ⟨adjacent, SimpleGraph.Reachable.refl destination, ?_⟩
    rw [SimpleGraph.edist_eq_one_iff_adj.2 adjacent, SimpleGraph.edist_self, zero_add]

theorem size_of_ofGraph (built : ofGraph g config = .ok table) : table.size = g.size := by
  obtain ⟨d, -, rfl⟩ := ofGraph_eq_ok_iff.1 built
  exact size_fill g d

theorem graph_unique (fit : g.PathsFit) (fitOther : h.PathsFit)
    (built : ofGraph g config = .ok table) (builtOther : ofGraph h configOther = .ok table) :
    g = h := by
  have size : g.size = h.size := (size_of_ofGraph built).symm.trans (size_of_ofGraph builtOther)
  exact Graph.ext_neighbors size fun node other =>
    (mem_get_destination_iff fit built).symm.trans (mem_get_destination_iff fitOther builtOther)

/-! ## 2. From the graph to the table -/

theorem ofGraph_unique {other : NextHops} (built : ofGraph g config = .ok table)
    (builtOther : ofGraph g configOther = .ok other) : table = other := by
  obtain ⟨d, computed, rfl⟩ := ofGraph_eq_ok_iff.1 built
  obtain ⟨d', computedOther, rfl⟩ := ofGraph_eq_ok_iff.1 builtOther
  obtain ⟨-, rfl⟩ := Distances.ofGraph_eq_ok_iff.1 computed
  obtain ⟨-, rfl⟩ := Distances.ofGraph_eq_ok_iff.1 computedOther
  rfl

/-! ## 3. Equal tables -/

/-- Two tables are equal exactly when their topologies have the same number of nodes and the same
edges. Neither the roles of the nodes nor the configuration have a part in it, and no edge can be
added, dropped or moved without a trace. -/
theorem tables_eq_iff {t u : Topology} {other : NextHops} (small : t.size ≤ 2 ^ 31)
    (smallOther : u.size ≤ 2 ^ 31) (built : ofGraph t.graph config = .ok table)
    (builtOther : ofGraph u.graph configOther = .ok other) :
    table = other ↔ t.size = u.size ∧ t.edges = u.edges := by
  constructor
  · rintro rfl
    have same : t.graph = u.graph := graph_unique (Graph.pathsFit_of_size_le small)
      (Graph.pathsFit_of_size_le smallOther) built builtOther
    exact ⟨congrArg Graph.size same, congrArg Graph.edges same⟩
  · rintro ⟨size, edges⟩
    have same : t.graph = u.graph := Graph.ext_edges size edges
    rw [← same] at builtOther
    exact ofGraph_unique built builtOther

/-- The ring with a server at each of two racks instead of switches alone. -/
def rackedRing : Topology :=
  (Topology.ofBlueprint
    { nodeCount := 4, edgeCount := 4, switches := [3, 0], tors := [0, 3], servers := [1, 2],
      edges := [(2, 3), (0, 2), (3, 1), (1, 0)] }).toOption.get (by decide)

/-- The ring with the edge between 0 and 2 moved to 0 and 3. -/
def movedRing : Topology :=
  (Topology.ofSwitches 4 [(0, 1), (1, 3), (0, 3), (2, 3)]).toOption.get (by decide)

def movedRingTable : NextHops :=
  ⟨4, #[[], [1], [3], [3], [0], [], [3], [3], [3], [3], [], [3], [0], [1], [2], []]⟩

/-- Servers in the ring and another configuration leave its table as it is; an edge that is moved
does not. -/
theorem ring_tables : ofGraph Topology.ring.graph {} = .ok ringTable ∧
    ofGraph rackedRing.graph ⟨5, 3, 77⟩ = .ok ringTable ∧
    ofGraph movedRing.graph {} = .ok movedRingTable ∧
    (rackedRing.size = Topology.ring.size ∧ rackedRing.edges = Topology.ring.edges) ∧
    ringTable ≠ movedRingTable := by
  have small : Topology.ring.size ≤ 2 ^ 31 := by decide
  have smallRacked : rackedRing.size ≤ 2 ^ 31 := by decide
  have smallMoved : movedRing.size ≤ 2 ^ 31 := by decide
  have built : ofGraph Topology.ring.graph {} = .ok ringTable := by decide +kernel
  have builtRacked : ofGraph rackedRing.graph ⟨5, 3, 77⟩ = .ok ringTable := by decide +kernel
  have builtMoved : ofGraph movedRing.graph {} = .ok movedRingTable := by decide +kernel
  have moved : Topology.ring.edges ≠ movedRing.edges := by decide
  exact ⟨built, builtRacked, builtMoved,
    (tables_eq_iff smallRacked small builtRacked built).1 rfl,
    fun same => moved ((tables_eq_iff small smallMoved built builtMoved).1 same).2⟩

end NextHops

end Multipath
