import Multipath.Proofs.Graph.Walks

/-!
# Heights over a node

Where the shape of a graph is known, hop distances need not be computed: a height that changes by
one at most along an edge, and from which there is a way down everywhere else, is the distance to
the node at the bottom. The shape also bounds the paths, which pass through no leaf.

Results:
1. `dist_eq_height`: the height is the hop distance.
2. `length_le_of_leaves`: a path is not longer than the nodes that are no leaves allow.
-/

namespace Multipath.Graph

/-! ## 1. Distances -/

section

variable {G : SimpleGraph ℕ} {height : ℕ → ℕ} {bottom : ℕ}

theorem height_le_of_walk (slope : ∀ u v, G.Adj u v → height u ≤ height v + 1) {u v : ℕ}
    (w : G.Walk u v) : height u ≤ height v + w.length := by
  induction w with
  | nil => exact Nat.le_refl _
  | @cons u next v adjacent rest ih =>
    rw [SimpleGraph.Walk.length_cons]
    have step := slope u next adjacent
    omega

/-- Going down step by step arrives. -/
theorem exists_walk_of_height {inside : ℕ → Prop}
    (descent : ∀ u, inside u → u ≠ bottom →
      ∃ v, G.Adj u v ∧ inside v ∧ height u = height v + 1)
    (ground : height bottom = 0) :
    ∀ {u : ℕ}, inside u → ∃ w : G.Walk u bottom, w.length = height u := by
  intro u start
  induction steps : height u generalizing u with
  | zero =>
    by_cases arrived : u = bottom
    · subst arrived
      exact ⟨.nil, rfl⟩
    · obtain ⟨v, -, -, lower⟩ := descent u start arrived
      omega
  | succ left ih =>
    have apart : u ≠ bottom := by
      rintro rfl
      omega
    obtain ⟨v, adjacent, further, lower⟩ := descent u start apart
    obtain ⟨w, length⟩ := ih further (by omega)
    exact ⟨.cons adjacent w, by rw [SimpleGraph.Walk.length_cons, length]⟩

theorem dist_eq_height {inside : ℕ → Prop}
    (slope : ∀ u v, G.Adj u v → height u ≤ height v + 1) (ground : height bottom = 0)
    (descent : ∀ u, inside u → u ≠ bottom →
      ∃ v, G.Adj u v ∧ inside v ∧ height u = height v + 1)
    {u : ℕ} (start : inside u) : G.Reachable u bottom ∧ G.dist u bottom = height u := by
  obtain ⟨w, length⟩ := exists_walk_of_height descent ground start
  refine ⟨w.reachable, le_antisymm (length ▸ SimpleGraph.dist_le w) ?_⟩
  obtain ⟨shortest, least⟩ := w.reachable.exists_walk_length_eq_dist
  have bounded := height_le_of_walk slope shortest
  rwa [ground, Nat.zero_add, least] at bounded

end

/-! ## 2. Leaves -/

variable {g : Graph}

/-- A path goes on from an inner node to another node than the one it came from. -/
theorem exists_neighbors_of_inner {a b node : ℕ} {p : g.simple.Walk a b} (path : p.IsPath)
    (visited : node ∈ p.support) (notStart : node ≠ a) (notEnd : node ≠ b) :
    ∃ u v, u ≠ v ∧ g.simple.Adj node u ∧ g.simple.Adj node v := by
  obtain ⟨i, rfl, inPath⟩ := SimpleGraph.Walk.mem_support_iff_exists_getVert.1 visited
  have positive : i ≠ 0 := by
    rintro rfl
    exact notStart p.getVert_zero
  have notLast : i ≠ p.length := by
    rintro rfl
    exact notEnd p.getVert_length
  obtain ⟨before, rfl⟩ := Nat.exists_eq_succ_of_ne_zero positive
  refine ⟨p.getVert before, p.getVert (before + 2), fun same => ?_,
    (p.adj_getVert_succ (by omega)).symm, p.adj_getVert_succ (by omega)⟩
  have twice := path.getVert_injOn (by simp; omega) (by simp; omega) same
  omega

theorem length_le_of_leaves {inner : List ℕ}
    (leaves : ∀ node < g.size, node ∉ inner →
      ∀ u v, g.simple.Adj node u → g.simple.Adj node v → u = v)
    {a b : ℕ} {p : g.simple.Walk a b} (path : p.IsPath) (start : a < g.size) :
    p.length ≤ inner.length + 1 := by
  have visited : p.support ⊆ a :: b :: inner := by
    intro node listed
    by_contra outside
    simp only [List.mem_cons, not_or] at outside
    obtain ⟨u, v, apart, adjacent, adjacentOther⟩ :=
      exists_neighbors_of_inner path listed outside.1 outside.2.1
    exact apart (leaves node (lt_size_of_mem_support p start node listed) outside.2.2 u v adjacent
      adjacentOther)
  have bounded := (path.support_nodup.subperm visited).length_le
  rw [SimpleGraph.Walk.length_support, List.length_cons, List.length_cons] at bounded
  omega

end Multipath.Graph
