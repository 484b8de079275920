import Mathlib.Data.List.Sort
import Mathlib.Tactic.MkIffOfInductiveProp
import Multipath.Graph.Basic
import Multipath.Proofs.Checked

/-!
# Graphs drawn from a list of edges

A graph is drawn edge by edge, and what is drawn already decides whether the next edge is taken.
`Accepts` says which edges those are, and `Draws` what a list of edges adds to a graph.

Results:
1. `NodeSet.ext_mem`, `Graph.ext_neighbors`: sets of nodes and graphs are given by what they
   contain, however they came about.
2. `connect_eq_ok_iff`: one edge.
3. `ofEdges_eq_ok_iff`: the lists that are drawn are those without loops, strange ends and
   repetitions, and their graph has each edge in both directions.
-/

namespace Multipath

/-! ## 1. Equal contents -/

namespace NodeSet

theorem ext_mem {nodes others : NodeSet} (same : ∀ node, node ∈ nodes ↔ node ∈ others) :
    nodes = others := by
  obtain ⟨list, ascending⟩ := nodes
  obtain ⟨other, ascendingOther⟩ := others
  rw [mk.injEq]
  exact ascending.eq_of_mem_iff ascendingOther same

/-- A set takes a node that it does not have. -/
theorem insert?_eq_some_iff {nodes grown : NodeSet} {node : ℕ} :
    nodes.insert? node = some grown ↔
      ¬ node ∈ nodes ∧ ∀ other, other ∈ grown ↔ other = node ∨ other ∈ nodes := by
  constructor
  · intro inserted
    refine ⟨fun listed => ?_, mem_of_insert? inserted⟩
    rw [insert?_eq_none_iff.2 listed] at inserted
    cases inserted
  · rintro ⟨new, members⟩
    cases inserted : nodes.insert? node with
    | none => exact absurd (insert?_eq_none_iff.1 inserted) new
    | some result =>
      have same : ∀ other, other ∈ result ↔ other ∈ grown := fun other =>
        (mem_of_insert? inserted other).trans (members other).symm
      rw [ext_mem same]

end NodeSet

namespace Graph

theorem ext_neighbors {g h : Graph} (size : g.size = h.size)
    (same : ∀ node other, other ∈ g.neighbors node ↔ other ∈ h.neighbors node) : g = h := by
  obtain ⟨rows, _, _⟩ := g
  obtain ⟨rowsOther, _, _⟩ := h
  rw [mk.injEq]
  refine Array.ext size fun node below belowOther => ?_
  have row : rowOf rows node = rowOf rowsOther node := NodeSet.ext_mem (same node)
  simpa [rowOf, below, belowOther] using row

/-! ## 2. One more edge -/

/-- The edge can be added to the graph. -/
structure Accepts (g : Graph) (edge : ℕ × ℕ) : Prop where
  apart : edge.1 ≠ edge.2
  inRange : edge.1 < g.size ∧ edge.2 < g.size
  new : ¬ edge.2 ∈ g.neighbors edge.1

/-- `drawn` is `g` with these edges added, each in both directions. -/
structure Draws (g : Graph) (edges : List (ℕ × ℕ)) (drawn : Graph) : Prop where
  size : drawn.size = g.size
  neighbors : ∀ u v, v ∈ drawn.neighbors u ↔ (u, v) ∈ edges ∨ (v, u) ∈ edges ∨ v ∈ g.neighbors u

variable {g drawn : Graph} {edge : ℕ × ℕ} {edges : List (ℕ × ℕ)}

theorem Draws.refl (g : Graph) : g.Draws [] g where
  size := rfl
  neighbors u v := by simp

/-- There is one way to draw the edges. -/
theorem Draws.unique {other : Graph} (draws : g.Draws edges drawn)
    (drawsOther : g.Draws edges other) : drawn = other :=
  ext_neighbors (draws.size.trans drawsOther.size.symm) fun u v =>
    (draws.neighbors u v).trans (drawsOther.neighbors u v).symm

theorem draws_of_connect? {a b : ℕ} {apart : a ≠ b} {aInRange : a < g.size} {bInRange : b < g.size}
    (connected : g.connect? a b apart aInRange bInRange = some drawn) : g.Draws [(a, b)] drawn := by
  unfold connect? at connected
  split at connected
  · next rowA rowB insertedB insertedA =>
    cases connected
    have aBound : a < g.rows.size := aInRange
    have bBound : b < (g.rows.set a rowA aBound).size := by
      rw [Array.size_set]
      exact bInRange
    constructor
    · show ((g.rows.set a rowA aBound).set b rowB bBound).size = g.rows.size
      rw [Array.size_set, Array.size_set]
    · intro u v
      refine (mem_rowOf_set_set aBound bBound insertedB insertedA apart u v).trans ?_
      simp only [List.mem_singleton, Prod.mk.injEq, and_comm, neighbors]
  · cases connected

theorem exists_connect? {a b : ℕ} (apart : a ≠ b) (aInRange : a < g.size) (bInRange : b < g.size) :
    (∃ drawn, g.connect? a b apart aInRange bInRange = some drawn) ↔ ¬ b ∈ g.neighbors a := by
  have back : a ∈ g.neighbors b ↔ b ∈ g.neighbors a := ⟨g.symmetric b a, g.symmetric a b⟩
  unfold connect?
  split
  · next rowA rowB insertedB insertedA =>
    exact iff_of_true ⟨_, rfl⟩ (NodeSet.insert?_eq_some_iff.1 insertedB).1
  · next refused =>
    refine iff_of_false nofun fun new => ?_
    cases insertedB : (g.neighbors a).insert? b with
    | none => exact new (NodeSet.insert?_eq_none_iff.1 insertedB)
    | some rowA =>
      cases insertedA : (g.neighbors b).insert? a with
      | none => exact new (back.1 (NodeSet.insert?_eq_none_iff.1 insertedA))
      | some rowB => exact refused rowA rowB insertedB insertedA

theorem connect_eq_ok_iff :
    g.connect edge.1 edge.2 = .ok drawn ↔ g.Accepts edge ∧ g.Draws [edge] drawn := by
  unfold connect
  split
  · next loop => exact iff_of_false nofun fun ⟨accepted, _⟩ => accepted.apart loop
  · next apart =>
    split
    · next aInRange =>
      split
      · next bInRange =>
        have possible := exists_connect? apart aInRange bInRange
        cases connected : g.connect? edge.1 edge.2 apart aInRange bInRange with
        | none =>
          rw [connected] at possible
          exact iff_of_false nofun fun ⟨accepted, _⟩ => nomatch possible.2 accepted.new
        | some grown =>
          have draws := draws_of_connect? connected
          have new := possible.1 ⟨grown, connected⟩
          constructor
          · rintro ⟨⟩
            exact ⟨⟨apart, ⟨aInRange, bInRange⟩, new⟩, draws⟩
          · rintro ⟨-, drawsOther⟩
            rw [draws.unique drawsOther]
      · next outside => exact iff_of_false nofun fun ⟨accepted, _⟩ => outside accepted.inRange.2
    · next outside => exact iff_of_false nofun fun ⟨accepted, _⟩ => outside accepted.inRange.1

theorem Accepts.exists_draws (accepted : g.Accepts edge) : ∃ drawn, g.Draws [edge] drawn := by
  obtain ⟨drawn, connected⟩ :=
    (exists_connect? accepted.apart accepted.inRange.1 accepted.inRange.2).2 accepted.new
  exact ⟨drawn, draws_of_connect? connected⟩

/-! ## 3. All edges -/

/-- With an edge drawn, that edge is not accepted again, in either order of its ends. -/
theorem Draws.accepts_iff (draws : g.Draws [edge] drawn) {later : ℕ × ℕ} :
    drawn.Accepts later ↔ g.Accepts later ∧ later ≠ edge ∧ later ≠ edge.swap := by
  have adjacent := draws.neighbors later.1 later.2
  simp only [List.mem_singleton] at adjacent
  have swapped : (later.2, later.1) = edge ↔ later = edge.swap := Prod.swap_eq_iff_eq_swap
  constructor
  · rintro ⟨apart, inRange, new⟩
    rw [adjacent, not_or, not_or, swapped] at new
    rw [draws.size] at inRange
    exact ⟨⟨apart, inRange, new.2.2⟩, new.1, new.2.1⟩
  · rintro ⟨⟨apart, inRange, new⟩, different, turned⟩
    refine ⟨apart, by rwa [draws.size], ?_⟩
    rw [adjacent, not_or, not_or, swapped]
    exact ⟨different, turned, new⟩

theorem Draws.cons_iff {mid : Graph} (draws : g.Draws [edge] mid) :
    mid.Draws edges drawn ↔ g.Draws (edge :: edges) drawn := by
  have step : ∀ u v, ((u, v) ∈ edges ∨ (v, u) ∈ edges ∨ v ∈ mid.neighbors u) ↔
      ((u, v) ∈ edge :: edges ∨ (v, u) ∈ edge :: edges ∨ v ∈ g.neighbors u) := by
    intro u v
    rw [draws.neighbors]
    simp only [List.mem_cons, List.not_mem_nil, or_false]
    tauto
  constructor
  · rintro ⟨size, neighbors⟩
    exact ⟨size.trans draws.size, fun u v => (neighbors u v).trans (step u v)⟩
  · rintro ⟨size, neighbors⟩
    exact ⟨size.trans draws.size.symm, fun u v => (neighbors u v).trans (step u v).symm⟩

/-- No two edges of the list join the same nodes. -/
def Unrepeated (edges : List (ℕ × ℕ)) : Prop :=
  edges.Pairwise fun edge later => later ≠ edge ∧ later ≠ edge.swap

instance (edges : List (ℕ × ℕ)) : Decidable (Unrepeated edges) :=
  inferInstanceAs (Decidable (edges.Pairwise fun edge later => later ≠ edge ∧ later ≠ edge.swap))

/-- Whatever is accepted and unrepeated has a drawing. -/
theorem exists_draws (accepted : ∀ edge ∈ edges, g.Accepts edge) (unrepeated : Unrepeated edges) :
    ∃ drawn, g.Draws edges drawn := by
  unfold Unrepeated at unrepeated
  -- the rest is accepted by the graph with the first edge, so the graph varies
  induction edges generalizing g with
  | nil => exact ⟨g, Draws.refl g⟩
  | cons edge rest ih =>
    rw [List.forall_mem_cons] at accepted
    rw [List.pairwise_cons] at unrepeated
    obtain ⟨mid, draws⟩ := accepted.1.exists_draws
    obtain ⟨drawn, drawsRest⟩ := ih (g := mid) (fun later listed => draws.accepts_iff.2
      ⟨accepted.2 later listed, unrepeated.1 later listed⟩) unrepeated.2
    exact ⟨drawn, draws.cons_iff.1 drawsRest⟩

/-- An edge is refused for what the graph had before or for an earlier edge of the list. -/
theorem foldlM_connect_eq_ok_iff :
    edges.foldlM (fun g edge => g.connect edge.1 edge.2) g = .ok drawn ↔
      (∀ edge ∈ edges, g.Accepts edge) ∧ Unrepeated edges ∧ g.Draws edges drawn := by
  unfold Unrepeated
  induction edges generalizing g with
  | nil =>
    simp only [List.foldlM_nil, List.not_mem_nil, false_implies, implies_true, List.Pairwise.nil,
      true_and]
    constructor
    · rintro ⟨⟩
      exact Draws.refl _
    · intro draws
      rw [(Draws.refl g).unique draws]
      rfl
  | cons edge rest ih =>
    rw [List.foldlM_cons, bind_eq_ok_iff, List.forall_mem_cons, List.pairwise_cons]
    constructor
    · rintro ⟨mid, connected, further⟩
      obtain ⟨accepted, draws⟩ := connect_eq_ok_iff.1 connected
      obtain ⟨acceptedRest, unrepeated, drawsRest⟩ := ih.1 further
      exact ⟨⟨accepted, fun later listed => (draws.accepts_iff.1 (acceptedRest later listed)).1⟩,
        ⟨fun later listed => (draws.accepts_iff.1 (acceptedRest later listed)).2, unrepeated⟩,
        draws.cons_iff.1 drawsRest⟩
    · rintro ⟨⟨accepted, acceptedRest⟩, ⟨different, unrepeated⟩, drawsAll⟩
      obtain ⟨mid, draws⟩ := accepted.exists_draws
      exact ⟨mid, connect_eq_ok_iff.2 ⟨accepted, draws⟩, ih.2
        ⟨fun later listed =>
            draws.accepts_iff.2 ⟨acceptedRest later listed, different later listed⟩,
          unrepeated, draws.cons_iff.2 drawsAll⟩⟩

/-- The edges draw a simple graph of `size` nodes. -/
@[mk_iff]
structure Drawable (size : ℕ) (edges : List (ℕ × ℕ)) : Prop where
  apart : ∀ edge ∈ edges, edge.1 ≠ edge.2
  inRange : ∀ edge ∈ edges, edge.1 < size ∧ edge.2 < size
  unrepeated : Unrepeated edges

instance (size : ℕ) (edges : List (ℕ × ℕ)) : Decidable (Drawable size edges) :=
  decidable_of_iff' _ (drawable_iff size edges)

theorem not_mem_neighbors_empty (size u v : ℕ) : ¬ v ∈ (empty size).neighbors u := by
  rw [neighbors, empty, rowOf_replicate]
  exact NodeSet.not_mem_empty v

theorem accepts_empty_iff {size : ℕ} :
    (empty size).Accepts edge ↔ edge.1 ≠ edge.2 ∧ edge.1 < size ∧ edge.2 < size := by
  constructor
  · rintro ⟨apart, inRange, -⟩
    rw [size_empty] at inRange
    exact ⟨apart, inRange⟩
  · rintro ⟨apart, inRange⟩
    exact ⟨apart, by rwa [size_empty], not_mem_neighbors_empty size edge.1 edge.2⟩

theorem draws_empty_iff {size : ℕ} :
    (empty size).Draws edges g ↔
      g.size = size ∧ ∀ u v, v ∈ g.neighbors u ↔ (u, v) ∈ edges ∨ (v, u) ∈ edges := by
  have noOthers : ∀ u v, ((u, v) ∈ edges ∨ (v, u) ∈ edges ∨ v ∈ (empty size).neighbors u) ↔
      ((u, v) ∈ edges ∨ (v, u) ∈ edges) := fun u v =>
    or_congr_right (or_iff_left (not_mem_neighbors_empty size u v))
  constructor
  · rintro ⟨size, neighbors⟩
    exact ⟨size.trans (size_empty _), fun u v => (neighbors u v).trans (noOthers u v)⟩
  · rintro ⟨size, neighbors⟩
    exact ⟨size.trans (size_empty _).symm, fun u v => (neighbors u v).trans (noOthers u v).symm⟩

theorem ofEdges_eq_ok_iff {size : ℕ} :
    ofEdges size edges = .ok g ↔ Drawable size edges ∧
      g.size = size ∧ ∀ u v, v ∈ g.neighbors u ↔ (u, v) ∈ edges ∨ (v, u) ∈ edges := by
  rw [← draws_empty_iff]
  refine foldlM_connect_eq_ok_iff.trans ?_
  simp only [accepts_empty_iff]
  constructor
  · rintro ⟨accepted, unrepeated, draws⟩
    exact ⟨⟨fun edge listed => (accepted edge listed).1,
      fun edge listed => (accepted edge listed).2, unrepeated⟩, draws⟩
  · rintro ⟨⟨apart, inRange, unrepeated⟩, draws⟩
    exact ⟨fun edge listed => ⟨apart edge listed, inRange edge listed⟩, unrepeated, draws⟩

theorem Drawable.exists_ofEdges {size : ℕ} (drawable : Drawable size edges) :
    ∃ g, ofEdges size edges = .ok g := by
  have accepted : ∀ edge ∈ edges, (empty size).Accepts edge := fun edge listed =>
    accepts_empty_iff.2 ⟨drawable.apart edge listed, drawable.inRange edge listed⟩
  obtain ⟨g, draws⟩ := exists_draws accepted drawable.unrepeated
  exact ⟨g, ofEdges_eq_ok_iff.2 ⟨drawable, draws_empty_iff.1 draws⟩⟩

end Graph

end Multipath
