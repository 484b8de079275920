import Mathlib.Algebra.BigOperators.Group.Finset.Piecewise
import Mathlib.Data.List.Sort
import Multipath.Proofs.Graph.Walks

/-!
# Edges at a node

Tables are filled by going through all edges in order, where a node is the lower end of some
edges and the upper end of others.

Results:
1. `pairwise_edges`: edges are listed in lexicographic order, each of them once.
2. `farEnds_edges`: going through all edges meets the neighbors of a node in ascending order.
3. `sum_size_neighbors`: over all nodes each edge is met twice.
4. `min_max_mem_edges_iff`: an edge is looked up with its lower end first.
-/

namespace Multipath.Graph

/-- The far end of an edge at `node`. -/
def farEnd? (node : ℕ) (edge : ℕ × ℕ) : Option ℕ :=
  if edge.1 = node then some edge.2 else if edge.2 = node then some edge.1 else none

/-- The far ends of the edges at `node`, in the order of the edges. -/
def farEnds (node : ℕ) (edges : List (ℕ × ℕ)) : List ℕ := edges.filterMap (farEnd? node)

theorem farEnd?_eq_some_iff {node far : ℕ} {edge : ℕ × ℕ} (ascending : edge.1 < edge.2) :
    farEnd? node edge = some far ↔ edge = (node, far) ∨ edge = (far, node) := by
  obtain ⟨low, high⟩ := edge
  dsimp only at ascending
  unfold farEnd?
  simp only [Prod.mk.injEq]
  split
  · next atLow => simp only [Option.some.injEq]; omega
  · next notLow =>
    split
    · next atHigh => simp only [Option.some.injEq]; omega
    · next notHigh => simp only [reduceCtorEq, false_iff]; omega

theorem isSome_farEnd?_iff {node : ℕ} {edge : ℕ × ℕ} :
    (farEnd? node edge).isSome ↔ node = edge.1 ∨ node = edge.2 := by
  unfold farEnd?
  split
  · next atLow => exact iff_of_true rfl (Or.inl atLow.symm)
  · next notLow =>
    split
    · next atHigh => exact iff_of_true rfl (Or.inr atHigh.symm)
    · next notHigh => exact iff_of_false nofun (not_or.2 ⟨Ne.symm notLow, Ne.symm notHigh⟩)

variable (g : Graph)

/-- The order of edges: by lower ends, then by upper ends. -/
def EdgeLt (edge later : ℕ × ℕ) : Prop :=
  edge.1 < later.1 ∨ edge.1 = later.1 ∧ edge.2 < later.2

theorem pairwise_edges : g.edges.Pairwise EdgeLt := by
  unfold edges
  rw [List.pairwise_flatMap]
  constructor
  · intro low _
    rw [List.pairwise_map]
    exact ((g.neighbors low).ascending.filter _).imp fun less => Or.inr ⟨rfl, less⟩
  · refine List.pairwise_lt_range.imp fun less edge inBlock later inLater => ?_
    obtain ⟨_, -, rfl⟩ := List.mem_map.1 inBlock
    obtain ⟨_, -, rfl⟩ := List.mem_map.1 inLater
    exact Or.inl less

theorem nodup_edges : g.edges.Nodup := by
  refine g.pairwise_edges.imp fun less same => ?_
  subst same
  unfold EdgeLt at less
  omega

variable {g}

theorem lt_of_mem_edges {edge : ℕ × ℕ} (listed : edge ∈ g.edges) : edge.1 < edge.2 :=
  (mem_edges.1 listed).1

theorem lt_size_of_mem_edges {edge : ℕ × ℕ} (listed : edge ∈ g.edges) :
    edge.1 < g.size ∧ edge.2 < g.size := by
  have adjacent := hasEdge_iff.1 (mem_edges.1 listed).2
  exact ⟨lt_size_of_adjacent adjacent, lt_size_of_adjacent (g.symmetric _ _ adjacent)⟩

theorem mem_farEnds_edges {node far : ℕ} :
    far ∈ farEnds node g.edges ↔ far ∈ g.neighbors node := by
  unfold farEnds
  rw [List.mem_filterMap, ← adj_simple]
  constructor
  · rintro ⟨edge, listed, found⟩
    rcases (farEnd?_eq_some_iff (lt_of_mem_edges listed)).1 found with rfl | rfl
    · exact Or.inl listed
    · exact Or.inr listed
  · intro adjacent
    cases adjacent with
    | inl listed =>
      have found := (farEnd?_eq_some_iff (lt_of_mem_edges listed)).2 (Or.inl rfl)
      exact ⟨(node, far), listed, found⟩
    | inr listed =>
      have found := (farEnd?_eq_some_iff (lt_of_mem_edges listed)).2 (Or.inr rfl)
      exact ⟨(far, node), listed, found⟩

/-- As a lower end of edges a node meets its larger neighbors, as an upper end its smaller ones,
and the edges of the latter kind come first. -/
theorem pairwise_farEnds_edges (node : ℕ) : (farEnds node g.edges).Pairwise (· < ·) := by
  unfold farEnds
  rw [List.pairwise_filterMap]
  refine g.pairwise_edges.imp_of_mem ?_
  intro edge later listed listedLater less far found farLater foundLater
  have ascending := lt_of_mem_edges listed
  have ascendingLater := lt_of_mem_edges listedLater
  unfold EdgeLt at less
  rcases (farEnd?_eq_some_iff ascending).1 found with rfl | rfl <;>
    rcases (farEnd?_eq_some_iff ascendingLater).1 foundLater with rfl | rfl <;>
    dsimp only at less ascending ascendingLater <;> omega

theorem farEnds_edges (node : ℕ) : farEnds node g.edges = (g.neighbors node).toList :=
  (pairwise_farEnds_edges node).eq_of_mem_iff (g.neighbors node).ascending fun _ =>
    mem_farEnds_edges.trans NodeSet.mem_toList.symm

theorem length_farEnds_cons {node : ℕ} {edge : ℕ × ℕ} (apart : edge.1 ≠ edge.2)
    (rest : List (ℕ × ℕ)) :
    (farEnds node (edge :: rest)).length =
      (if edge.1 = node then 1 else 0) + (if edge.2 = node then 1 else 0) +
        (farEnds node rest).length := by
  unfold farEnds
  by_cases atLow : edge.1 = node
  · have notHigh : edge.2 ≠ node := fun atHigh => apart (atLow.trans atHigh.symm)
    simp [farEnd?, atLow, notHigh, Nat.add_comm]
  · by_cases atHigh : edge.2 = node <;> simp [farEnd?, atLow, atHigh, Nat.add_comm]

theorem sum_length_farEnds {size : ℕ} {edges : List (ℕ × ℕ)}
    (inRange : ∀ edge ∈ edges, edge.1 < edge.2 ∧ edge.2 < size) :
    ∑ node ∈ Finset.range size, (farEnds node edges).length = 2 * edges.length := by
  induction edges with
  | nil => simp [farEnds]
  | cons edge rest ih =>
    rw [List.forall_mem_cons] at inRange
    obtain ⟨⟨ascending, high⟩, inRangeRest⟩ := inRange
    have low : edge.1 < size := ascending.trans high
    rw [Finset.sum_congr rfl fun node _ => length_farEnds_cons ascending.ne rest,
      Finset.sum_add_distrib, Finset.sum_add_distrib, Finset.sum_ite_eq, Finset.sum_ite_eq,
      if_pos (Finset.mem_range.2 low), if_pos (Finset.mem_range.2 high), ih inRangeRest,
      List.length_cons]
    omega

/-- Every edge has two ends. -/
theorem sum_size_neighbors (g : Graph) :
    ∑ node ∈ Finset.range g.size, (g.neighbors node).size = 2 * g.edges.length := by
  rw [← sum_length_farEnds fun edge listed =>
    ⟨lt_of_mem_edges listed, (lt_size_of_mem_edges listed).2⟩]
  refine Finset.sum_congr rfl fun node _ => ?_
  rw [farEnds_edges, NodeSet.size]

theorem min_max_mem_edges_iff {u v : ℕ} : (min u v, max u v) ∈ g.edges ↔ v ∈ g.neighbors u := by
  rcases Nat.lt_trichotomy u v with below | same | above
  · rw [min_eq_left below.le, max_eq_right below.le, mem_edges, and_iff_right below, hasEdge_iff]
  · subst same
    rw [min_self, max_self]
    exact iff_of_false (fun listed => (lt_of_mem_edges listed).false) (g.loopless u)
  · rw [min_eq_right above.le, max_eq_left above.le, mem_edges, and_iff_right above,
      g.hasEdge_comm, hasEdge_iff]

end Multipath.Graph
