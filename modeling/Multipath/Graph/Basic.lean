import Multipath.Graph.NodeSet

/-!
# Undirected graphs

A graph has the nodes `0, …, size - 1` and for each of them the set of its
neighbors. Neighborhood is symmetric and no node is its own neighbor: both hold by
type, since the only ways to make a graph are `empty` and `connect`.

* `edges` lists every edge once, lower end first, in ascending order.
* `connect` refuses a loop, an end that is no node and an edge that is there
  already. For an edge with several faults the first of these counts.
-/

namespace Multipath

def rowOf (rows : Array NodeSet) (node : Nat) : NodeSet :=
  rows[node]?.getD ∅

structure Graph where
  rows : Array NodeSet
  symmetric : ∀ a b, b ∈ rowOf rows a → a ∈ rowOf rows b
  loopless : ∀ a, ¬ a ∈ rowOf rows a

inductive EdgeError
  | loop (node : Nat)
  | outOfRange (node size : Nat)
  | duplicate (low high : Nat)
deriving DecidableEq, Repr

theorem rowOf_replicate (size node : Nat) : rowOf (Array.replicate size ∅) node = ∅ := by
  simp only [rowOf, Array.getElem?_replicate]
  split <;> rfl

theorem rowOf_set {rows : Array NodeSet} {changed : Nat} (inRange : changed < rows.size)
    (row : NodeSet) (node : Nat) :
    rowOf (rows.set changed row) node = if changed = node then row else rowOf rows node := by
  simp only [rowOf, Array.getElem?_set]
  split <;> simp

/-- The rows after each of two distinct nodes is added to the other's row. -/
theorem mem_rowOf_set_set {rows : Array NodeSet} {a b : Nat} {rowA rowB : NodeSet}
    (aInRange : a < rows.size) (bInRange : b < (rows.set a rowA).size)
    (insertedB : (rowOf rows a).insert? b = some rowA)
    (insertedA : (rowOf rows b).insert? a = some rowB) (apart : a ≠ b) (u v : Nat) :
    v ∈ rowOf ((rows.set a rowA).set b rowB) u ↔
      (u = a ∧ v = b) ∨ (u = b ∧ v = a) ∨ v ∈ rowOf rows u := by
  rw [rowOf_set, rowOf_set]
  by_cases isB : b = u
  · subst isB
    simp [NodeSet.mem_of_insert? insertedA, Ne.symm apart]
  · by_cases isA : a = u
    · subst isA
      simp [NodeSet.mem_of_insert? insertedB, apart, isB]
    · simp [isA, isB, Ne.symm isA, Ne.symm isB]

namespace Graph

def size (g : Graph) : Nat := g.rows.size

/-- The neighbors of a node; none for an id that is no node. -/
def neighbors (g : Graph) (node : Nat) : NodeSet := rowOf g.rows node

def hasEdge (g : Graph) (a b : Nat) : Bool := decide (b ∈ g.neighbors a)

def edges (g : Graph) : List (Nat × Nat) :=
  (List.range g.size).flatMap fun low =>
    ((g.neighbors low).toList.filter (low < ·)).map (low, ·)

def empty (size : Nat) : Graph where
  rows := Array.replicate size ∅
  symmetric a b adjacent := by
    rw [rowOf_replicate] at adjacent
    exact absurd adjacent (NodeSet.not_mem_empty b)
  loopless a adjacent := by
    rw [rowOf_replicate] at adjacent
    exact absurd adjacent (NodeSet.not_mem_empty a)

/-- Adds an edge between two distinct nodes that have none. -/
def connect? (g : Graph) (a b : Nat) (apart : a ≠ b) (aInRange : a < g.size)
    (bInRange : b < g.size) : Option Graph :=
  match insertedB : (g.neighbors a).insert? b, insertedA : (g.neighbors b).insert? a with
  | some rowA, some rowB =>
    have aBound : a < g.rows.size := aInRange
    have bBound : b < (g.rows.set a rowA aBound).size := by
      rw [Array.size_set]
      exact bInRange
    have grown := mem_rowOf_set_set aBound bBound insertedB insertedA apart
    some {
      rows := (g.rows.set a rowA aBound).set b rowB bBound
      symmetric := fun u v adjacent => by
        rw [grown] at adjacent ⊢
        rcases adjacent with ⟨rfl, rfl⟩ | ⟨rfl, rfl⟩ | adjacent
        · exact Or.inr (Or.inl ⟨rfl, rfl⟩)
        · exact Or.inl ⟨rfl, rfl⟩
        · exact Or.inr (Or.inr (g.symmetric u v adjacent))
      loopless := fun u adjacent => by
        rw [grown] at adjacent
        rcases adjacent with ⟨rfl, same⟩ | ⟨rfl, same⟩ | adjacent
        · exact apart same
        · exact apart same.symm
        · exact g.loopless u adjacent }
  | _, _ => none

def connect (g : Graph) (a b : Nat) : Except EdgeError Graph :=
  if apart : a = b then .error (.loop a)
  else if aInRange : a < g.size then
    if bInRange : b < g.size then
      match g.connect? a b apart aInRange bInRange with
      | some grown => .ok grown
      | none => .error (.duplicate (min a b) (max a b))
    else .error (.outOfRange b g.size)
  else .error (.outOfRange a g.size)

/-- The graph with these edges, which are added in order. -/
def ofEdges (size : Nat) (edges : List (Nat × Nat)) : Except EdgeError Graph :=
  edges.foldlM (fun g (a, b) => g.connect a b) (empty size)

theorem hasEdge_iff {g : Graph} {a b : Nat} : g.hasEdge a b = true ↔ b ∈ g.neighbors a := by
  simp [hasEdge]

theorem hasEdge_comm (g : Graph) (a b : Nat) : g.hasEdge a b = g.hasEdge b a := by
  rw [Bool.eq_iff_iff, hasEdge_iff, hasEdge_iff]
  exact ⟨g.symmetric a b, g.symmetric b a⟩

theorem hasEdge_self (g : Graph) (a : Nat) : g.hasEdge a a = false :=
  decide_eq_false (g.loopless a)

theorem size_empty (size : Nat) : (empty size).size = size := by
  simp [empty, Graph.size]

theorem lt_size_of_adjacent {g : Graph} {a b : Nat} (adjacent : b ∈ g.neighbors a) :
    a < g.size := by
  refine Decidable.byContradiction fun outside => ?_
  have missing : g.rows[a]? = none := Array.getElem?_eq_none (Nat.le_of_not_lt outside)
  rw [neighbors, rowOf, missing] at adjacent
  exact NodeSet.not_mem_empty b adjacent

theorem mem_edges {g : Graph} {low high : Nat} :
    (low, high) ∈ g.edges ↔ low < high ∧ g.hasEdge low high = true := by
  simp only [edges, List.mem_flatMap, List.mem_range, List.mem_map, List.mem_filter,
    decide_eq_true_eq, Prod.mk.injEq, hasEdge_iff]
  constructor
  · rintro ⟨node, _, neighbor, ⟨adjacent, above⟩, rfl, rfl⟩
    exact ⟨above, adjacent⟩
  · rintro ⟨above, adjacent⟩
    exact ⟨low, lt_size_of_adjacent adjacent, high, ⟨adjacent, above⟩, rfl, rfl⟩

end Graph

end Multipath
