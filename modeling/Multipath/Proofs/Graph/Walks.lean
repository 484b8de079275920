import Mathlib.Combinatorics.SimpleGraph.Metric
import Multipath.Graph.Basic

/-!
# Walks along the edges of a graph

`Graph.simple` is the graph that the edge list draws, as a graph of the library: walks, paths
and hop distances of a `Graph` are those of `simple`, and nothing here knows how distances are
computed.

Results:
1. `adj_simple`: the edge list and the neighbor sets draw the same graph.
2. `length_le_edges_of_isPath`, `length_lt_size_of_isPath`: a path is bounded by the number of
   edges and by the number of nodes.
3. `pathsFit_of_size_le`, `pathsFit_of_edges_le`: hop counts of paths can be added in 32 bits,
   in graphs of up to `2 ^ 31` nodes as well as in graphs of few edges.
-/

namespace Multipath.Graph

/-! ## 1. The graph of the edge list -/

/-- Two nodes are adjacent when their edge is listed, in either order of its ends. -/
def simple (g : Graph) : SimpleGraph ℕ where
  Adj a b := (a, b) ∈ g.edges ∨ (b, a) ∈ g.edges
  symm := ⟨fun _ _ listed => listed.symm⟩
  loopless := ⟨fun _ listed => (mem_edges.1 (listed.elim id id)).1.false⟩

variable {g : Graph}

theorem adj_simple {a b : ℕ} : g.simple.Adj a b ↔ b ∈ g.neighbors a := by
  constructor
  · intro adjacent
    cases adjacent with
    | inl listed => exact hasEdge_iff.1 (mem_edges.1 listed).2
    | inr listed => exact g.symmetric b a (hasEdge_iff.1 (mem_edges.1 listed).2)
  · intro adjacent
    have back : a ∈ g.neighbors b := g.symmetric a b adjacent
    rcases Nat.lt_trichotomy a b with below | same | above
    · exact Or.inl (mem_edges.2 ⟨below, hasEdge_iff.2 adjacent⟩)
    · subst same
      exact absurd adjacent (g.loopless a)
    · exact Or.inr (mem_edges.2 ⟨above, hasEdge_iff.2 back⟩)

theorem lt_size_of_adj {a b : ℕ} (adjacent : g.simple.Adj a b) : a < g.size ∧ b < g.size :=
  ⟨lt_size_of_adjacent (adj_simple.1 adjacent), lt_size_of_adjacent (adj_simple.1 adjacent.symm)⟩

/-- A walk that starts at a node stays at nodes. -/
theorem lt_size_of_mem_support {a b : ℕ} (w : g.simple.Walk a b) (start : a < g.size) :
    ∀ node ∈ w.support, node < g.size := by
  induction w with
  | nil => simpa using start
  | cons adjacent rest ih =>
    intro node visited
    rcases List.mem_cons.1 visited with rfl | visited
    · exact start
    · exact ih (lt_size_of_adj adjacent).2 node visited

theorem lt_size_of_reachable {a b : ℕ} (connected : g.simple.Reachable a b) (start : a < g.size) :
    b < g.size := by
  obtain ⟨w⟩ := connected
  exact lt_size_of_mem_support w start b w.end_mem_support

/-! ## 2. Lengths of paths -/

theorem length_lt_size_of_isPath {a b : ℕ} {p : g.simple.Walk a b} (path : p.IsPath)
    (start : a < g.size) : p.length < g.size := by
  have visited : p.support ⊆ List.range g.size := fun node listed =>
    List.mem_range.2 (lt_size_of_mem_support p start node listed)
  have bounded := (path.support_nodup.subperm visited).length_le
  rw [SimpleGraph.Walk.length_support, List.length_range] at bounded
  omega

/-- A path uses no edge twice. -/
theorem length_le_edges_of_isPath {a b : ℕ} {p : g.simple.Walk a b} (path : p.IsPath) :
    p.length ≤ g.edges.length := by
  have listed : p.edges ⊆ g.edges.map fun edge => s(edge.1, edge.2) := by
    intro edge used
    induction edge with
    | _ u v =>
      cases SimpleGraph.Walk.adj_of_mem_edges p used with
      | inl forth => exact List.mem_map.2 ⟨(u, v), forth, rfl⟩
      | inr back => exact List.mem_map.2 ⟨(v, u), back, Sym2.eq_swap⟩
  have bounded := (path.isTrail.edges_nodup.subperm listed).length_le
  rwa [SimpleGraph.Walk.length_edges, List.length_map] at bounded

/-! ## 3. Hop counts of 32 bits -/

/-- The hop counts of two paths add up to less than the largest 32-bit word. -/
def PathsFit (g : Graph) : Prop :=
  ∀ (a b : ℕ) (p : g.simple.Walk a b), p.IsPath → 2 * p.length + 1 < UInt32.size

theorem pathsFit_of_size_le (small : g.size ≤ 2 ^ 31) : g.PathsFit := by
  intro a b p path
  rw [UInt32.size]
  cases p with
  | nil => simp
  | cons adjacent rest =>
    have bounded := length_lt_size_of_isPath path (lt_size_of_adj adjacent).1
    omega

theorem pathsFit_of_edges_le (few : g.edges.length < 2 ^ 31 - 1) : g.PathsFit := by
  intro a b p path
  have bounded := length_le_edges_of_isPath path
  rw [UInt32.size]
  omega

end Multipath.Graph
