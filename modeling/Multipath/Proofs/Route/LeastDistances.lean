import Multipath.Proofs.Route.InPlace
import Multipath.Proofs.Route.ShortestPaths

/-!
# Least distances

The distances of a graph are the least numbers of edges between its nodes. The size limit is the
only thing that refuses a graph, and while hop counts fit the sentinel never stands for a distance.

Results:
1. `ofGraph_eq_error_iff`: only a graph above the limit is refused.
2. `Exact.hops_eq_unreachable_iff`, `Exact.isLeast_hops`: what a cell says about paths.
3. `Exact.diameter?_eq_none_iff`, `Exact.isGreatest_diameter`: the largest of the finite distances.
4. `ofGraph_exact`: the distances of all graphs of up to `2 ^ 31` nodes.
-/

namespace Multipath

namespace Distances

variable {g : Graph} {config : Config} {d : Distances}

/-! ## 1. The size limit -/

theorem ofGraph_eq_error_iff :
    ofGraph g config = .error (.tooManyNodes g.size config.maxNodes) ↔
      config.maxNodes < g.size := by
  refine ⟨fun refused => ?_, ofGraph_eq_error⟩
  by_contra notMore
  cases refused.symm.trans (ofGraph_eq_ok_iff.2 ⟨Nat.not_lt.1 notMore, rfl⟩)

/-! ## 2. Cells -/

theorem Exact.hops? (exactly : Exact g d) {a b : ℕ} (inRangeA : a < g.size)
    (inRangeB : b < g.size) : d.hops? a b = some (d.hops a b) :=
  (holds_cells d).cell a (exactly.size ▸ inRangeA) b (exactly.size ▸ inRangeB)

section

variable (exactly : Exact g d) {a b : ℕ} (inRangeA : a < g.size) (inRangeB : b < g.size)
include exactly inRangeA inRangeB

theorem Exact.hops_eq_unreachable_iff :
    d.hops a b = unreachable ↔ ¬ g.simple.Reachable a b := by
  rw [← hopCount_eq_top_iff, exactly.hops a inRangeA b inRangeB, ← not_iff_not, not_not]
  exact SimpleGraph.edist_ne_top_iff_reachable

theorem Exact.toNat_hops (connected : g.simple.Reachable a b) :
    (d.hops a b).toNat = g.simple.dist a b := by
  have finite : d.hops a b ≠ unreachable := fun same =>
    (exactly.hops_eq_unreachable_iff inRangeA inRangeB).1 same connected
  have cell := exactly.hops a inRangeA b inRangeB
  rw [hopCount_of_ne finite, ← connected.coe_dist_eq_edist] at cell
  exact_mod_cast cell

/-- A finite distance is the length of a path, and no path is shorter. -/
theorem Exact.isLeast_hops (finite : d.hops a b ≠ unreachable) :
    IsLeast {length | ∃ p : g.simple.Path a b, p.1.length = length} (d.hops a b).toNat := by
  have connected : g.simple.Reachable a b := by
    by_contra unconnected
    exact finite ((exactly.hops_eq_unreachable_iff inRangeA inRangeB).2 unconnected)
  rw [exactly.toNat_hops inRangeA inRangeB connected]
  constructor
  · obtain ⟨p, path, shortest⟩ := connected.exists_path_of_dist
    exact ⟨⟨p, path⟩, shortest⟩
  · rintro _ ⟨p, rfl⟩
    exact SimpleGraph.dist_le p.1

end

/-! ## 3. The diameter -/

/-- The larger of two words is the one that stands for more. -/
instance : Std.LawfulOrderMax UInt32 :=
  .of_max_le_iff
    (fun a b c => by
      show (if a ≤ b then b else a) ≤ c ↔ a ≤ c ∧ b ≤ c
      split
      · next below => exact ⟨fun bounded => ⟨UInt32.le_trans below bounded, bounded⟩, And.right⟩
      · next above =>
        have least : b ≤ a := (UInt32.le_total a b).resolve_left above
        exact ⟨fun bounded => ⟨bounded, UInt32.le_trans least bounded⟩, And.left⟩)
    (fun a b => by
      show (if a ≤ b then b else a) = a ∨ (if a ≤ b then b else a) = b
      split
      · exact Or.inr rfl
      · exact Or.inl rfl)

/-- The distances of a matrix are those of its rows and columns. -/
theorem mem_cells_iff {hops : UInt32} :
    hops ∈ d.cells.toList ↔ ∃ a < d.size, ∃ b < d.size, d.hops a b = hops := by
  rw [Array.mem_toList_iff, Array.mem_iff_getElem?]
  constructor
  · rintro ⟨cell, found⟩
    obtain ⟨inRange, -⟩ := Array.getElem?_eq_some_iff.1 found
    rw [d.size_cells] at inRange
    have positive : 0 < d.size := Nat.pos_of_mul_pos_right (Nat.zero_lt_of_lt inRange)
    refine ⟨cell / d.size, Nat.div_lt_of_lt_mul inRange, cell % d.size, Nat.mod_lt cell positive, ?_⟩
    rw [Distances.hops, Distances.hops?, Nat.div_add_mod', found, Option.getD_some]
  · rintro ⟨a, inRangeA, b, inRangeB, rfl⟩
    exact ⟨_, (holds_cells d).cell a inRangeA b inRangeB⟩

theorem mem_finite_iff {hops : UInt32} :
    hops ∈ d.cells.toList.filter (· != unreachable) ↔
      (∃ a < d.size, ∃ b < d.size, d.hops a b = hops) ∧ hops ≠ unreachable := by
  rw [List.mem_filter, mem_cells_iff, bne_iff_ne]

theorem Exact.diameter?_eq_none_iff (exactly : Exact g d) : d.diameter? = none ↔ g.size = 0 := by
  rw [diameter?, List.max?_eq_none_iff, List.eq_nil_iff_forall_not_mem]
  constructor
  · intro nothing
    by_contra positive
    have inRange : 0 < g.size := Nat.pos_of_ne_zero positive
    -- every node reaches itself
    have finite : d.hops 0 0 ≠ unreachable := fun same =>
      (exactly.hops_eq_unreachable_iff inRange inRange).1 same (SimpleGraph.Reachable.refl 0)
    have inRange' : 0 < d.size := exactly.size ▸ inRange
    exact nothing _ (mem_finite_iff.2 ⟨⟨0, inRange', 0, inRange', rfl⟩, finite⟩)
  · intro noNodes hops listed
    obtain ⟨⟨a, inRange, -⟩, -⟩ := mem_finite_iff.1 listed
    rw [exactly.size, noNodes] at inRange
    exact Nat.not_lt_zero a inRange

theorem Exact.isGreatest_diameter (exactly : Exact g d) {diameter : UInt32}
    (found : d.diameter? = some diameter) :
    IsGreatest {length | ∃ a < g.size, ∃ b < g.size, g.simple.Reachable a b ∧
      g.simple.dist a b = length} diameter.toNat := by
  obtain ⟨listed, largest⟩ := List.max?_eq_some_iff.1 found
  have connected : ∀ {a b}, a < g.size → b < g.size → d.hops a b ≠ unreachable →
      g.simple.Reachable a b := fun inRangeA inRangeB finite => by
    by_contra unconnected
    exact finite ((exactly.hops_eq_unreachable_iff inRangeA inRangeB).2 unconnected)
  constructor
  · obtain ⟨⟨a, inRangeA, b, inRangeB, rfl⟩, finite⟩ := mem_finite_iff.1 listed
    rw [exactly.size] at inRangeA inRangeB
    have joined := connected inRangeA inRangeB finite
    exact ⟨a, inRangeA, b, inRangeB, joined, (exactly.toNat_hops inRangeA inRangeB joined).symm⟩
  · rintro _ ⟨a, inRangeA, b, inRangeB, joined, rfl⟩
    rw [← exactly.toNat_hops inRangeA inRangeB joined]
    have finite : d.hops a b ≠ unreachable := fun same =>
      (exactly.hops_eq_unreachable_iff inRangeA inRangeB).1 same joined
    refine UInt32.le_iff_toNat_le.1 (largest _ (mem_finite_iff.2 ⟨⟨a, ?_, b, ?_, rfl⟩, finite⟩)) <;>
      rwa [exactly.size]

/-! ## 4. All graphs -/

/-- A graph is refused for its size exactly above the limit. Up to `2 ^ 31` nodes nothing else is in
the way: the cells have positions of 64 bits, and the loops over one array meet no missing cell and
no sum that leaves 32 bits. A cell is the least number of edges of a path between two nodes, or the
sentinel where there is no path, and the diameter is the largest of the finite distances. -/
theorem ofGraph_exact (g : Graph) (config : Config) :
    (ofGraph g config = .error (.tooManyNodes g.size config.maxNodes) ↔
      config.maxNodes < g.size) ∧
    (g.size ≤ 2 ^ 31 → g.size ≤ config.maxNodes → ∃ d, ofGraph g config = .ok d ∧
      inPlace? g = some d.cells ∧ d.size = g.size ∧ d.cells.size < Word.wordBound ∧
      (∀ a < g.size, ∀ b < g.size, d.hops? a b = some (d.hops a b) ∧
        (d.hops a b = unreachable ↔ ¬ g.simple.Reachable a b) ∧
        (d.hops a b ≠ unreachable →
          IsLeast {length | ∃ p : g.simple.Path a b, p.1.length = length} (d.hops a b).toNat)) ∧
      (d.diameter? = none ↔ g.size = 0) ∧
      ∀ diameter, d.diameter? = some diameter →
        IsGreatest {length | ∃ a < g.size, ∃ b < g.size, g.simple.Reachable a b ∧
          g.simple.dist a b = length} diameter.toNat) := by
  refine ⟨ofGraph_eq_error_iff, fun small allowed => ?_⟩
  have fit := Graph.pathsFit_of_size_le small
  obtain ⟨d, computed, exactly⟩ := ofGraph_eq_ok fit allowed
  have cells : d.cells.size ≤ 2 ^ 31 * 2 ^ 31 := by
    rw [d.size_cells, exactly.size]
    exact Nat.mul_le_mul small small
  exact ⟨d, computed, inPlace?_eq fit computed, exactly.size, cells.trans_lt (by decide),
    fun a inRangeA b inRangeB => ⟨exactly.hops? inRangeA inRangeB,
      exactly.hops_eq_unreachable_iff inRangeA inRangeB, exactly.isLeast_hops inRangeA inRangeB⟩,
    exactly.diameter?_eq_none_iff, fun _ => exactly.isGreatest_diameter⟩

/-- The matrix of the ring. -/
def ringDistances : Distances where
  size := 4
  cells := #[0, 1, 1, 2, 1, 0, 2, 1, 1, 2, 0, 1, 2, 1, 1, 0]
  size_cells := rfl

/-- Opposite switches of the ring are two hops apart, and no two switches are farther apart. -/
theorem ring_distances : Topology.ring.graph.size ≤ 2 ^ 31 ∧
    Topology.ring.graph.size ≤ ({} : Config).maxNodes ∧
    ofGraph Topology.ring.graph {} = .ok ringDistances ∧
    inPlace? Topology.ring.graph = some ringDistances.cells ∧
    IsLeast {length | ∃ p : Topology.ring.graph.simple.Path 0 3, p.1.length = length} 2 ∧
    IsGreatest {length | ∃ a < 4, ∃ b < 4, Topology.ring.graph.simple.Reachable a b ∧
      Topology.ring.graph.simple.dist a b = length} 2 := by
  have small : Topology.ring.graph.size ≤ 2 ^ 31 := by decide
  have allowed : Topology.ring.graph.size ≤ ({} : Config).maxNodes := by decide
  have computed : ofGraph Topology.ring.graph {} = .ok ringDistances := by decide +kernel
  obtain ⟨d, computed', inPlace, -, -, cells, -, diameter⟩ :=
    (ofGraph_exact Topology.ring.graph {}).2 small allowed
  rw [computed] at computed'
  cases computed'
  exact ⟨small, allowed, computed, inPlace, (cells 0 (by decide) 3 (by decide)).2.2 (by decide),
    diameter 2 (by decide)⟩

end Distances

end Multipath
