import Multipath.Proofs.Graph.InnerNodes
import Multipath.Proofs.Rows
import Multipath.Route.Distances

/-!
# The distance matrix holds the hop distances

The rounds of `Distances.ofGraph` go through the nodes in order. After the rounds for the nodes
below `bound` the cell of two nodes holds `Graph.distBelow bound`, the least length of a walk
with inner nodes below `bound`: that is `Settled`, and one round keeps it.

Results:
1. `hopCount_shorter`: the minimum that a cell takes is exact as long as sums fit 32 bits.
2. `Settled.relaxThrough`: a round takes no wrong minimum in a graph whose paths fit.
3. `ofGraph_eq_ok_iff`, `ofGraph_eq_error`: the computation fails only on the size limit.
   `ofGraph_eq_ok`: its result holds the hop distances of the graph.
-/

namespace Multipath

/-! ## 1. Words as hop counts -/

/-- A cell of the matrix as a distance: the sentinel is no number. -/
def hopCount (hops : UInt32) : ℕ∞ :=
  if hops = unreachable then ⊤ else hops.toNat

theorem hopCount_unreachable : hopCount unreachable = ⊤ := if_pos rfl

theorem hopCount_of_ne {hops : UInt32} (finite : hops ≠ unreachable) :
    hopCount hops = hops.toNat := if_neg finite

theorem hopCount_eq_top_iff {hops : UInt32} : hopCount hops = ⊤ ↔ hops = unreachable := by
  constructor
  · intro top
    by_contra finite
    rw [hopCount_of_ne finite] at top
    exact ENat.natCast_ne_top _ top
  · rintro rfl
    exact hopCount_unreachable

/-- A finite distance whose double leaves room below the sentinel. -/
def HopsFit (hops : UInt32) : Prop :=
  hops ≠ unreachable → 2 * hops.toNat + 1 < UInt32.size

section

variable {first second : UInt32} (fitFirst : HopsFit first) (fitSecond : HopsFit second)
  (finiteFirst : first ≠ unreachable) (finiteSecond : second ≠ unreachable)
include fitFirst fitSecond finiteFirst finiteSecond

theorem toNat_add_of_fit : (first + second).toNat = first.toNat + second.toNat := by
  have boundFirst := fitFirst finiteFirst
  have boundSecond := fitSecond finiteSecond
  rw [UInt32.size] at boundFirst boundSecond
  rw [UInt32.toNat_add]
  omega

theorem add_ne_unreachable_of_fit : first + second ≠ unreachable := by
  intro same
  have sum := toNat_add_of_fit fitFirst fitSecond finiteFirst finiteSecond
  have boundFirst := fitFirst finiteFirst
  have boundSecond := fitSecond finiteSecond
  have largest : unreachable.toNat = UInt32.size - 1 := rfl
  rw [same, largest] at sum
  omega

theorem hopCount_add_of_fit : hopCount (first + second) = hopCount first + hopCount second := by
  rw [hopCount_of_ne (add_ne_unreachable_of_fit fitFirst fitSecond finiteFirst finiteSecond),
    toNat_add_of_fit fitFirst fitSecond finiteFirst finiteSecond, hopCount_of_ne finiteFirst,
    hopCount_of_ne finiteSecond, Nat.cast_add]

end

/-- Words are compared as the distances they stand for, the sentinel being the largest. -/
theorem hopCount_lt_iff {near far : UInt32} (finite : near ≠ unreachable) :
    hopCount near < hopCount far ↔ near < far := by
  by_cases reached : far = unreachable
  · subst reached
    rw [hopCount_unreachable, hopCount_of_ne finite]
    refine iff_of_true (ENat.natCast_lt_top _) ?_
    have bound := near.toNat_lt
    have largest : unreachable.toNat = 4294967295 := rfl
    have different : near.toNat ≠ unreachable.toNat := fun same => finite (UInt32.toNat_inj.1 same)
    rw [UInt32.lt_iff_toNat_lt]
    omega
  · rw [hopCount_of_ne finite, hopCount_of_ne reached, Nat.cast_lt, UInt32.lt_iff_toNat_lt]

namespace Distances

theorem hopCount_shorter {direct first second : UInt32} (fitFirst : HopsFit first)
    (fitSecond : HopsFit second) :
    hopCount (shorter direct first second) =
      min (hopCount direct) (hopCount first + hopCount second) := by
  unfold shorter
  split
  · next missing =>
    rcases missing with rfl | rfl <;> simp [hopCount_unreachable]
  · next finite =>
    rw [not_or] at finite
    have sum := hopCount_add_of_fit fitFirst fitSecond finite.1 finite.2
    have below := @hopCount_lt_iff _ direct
      (add_ne_unreachable_of_fit fitFirst fitSecond finite.1 finite.2)
    rw [sum] at below
    split
    · next smaller => rw [sum, min_eq_right (below.2 smaller).le]
    · next larger => rw [min_eq_left (not_lt.1 fun less => larger (below.1 less))]

/-! ## 2. Rounds -/

theorem hops_eq_getElem {d : Distances} {a b : ℕ}
    (inRange : a * d.size + b < d.cells.size) : d.hops a b = d.cells[a * d.size + b] := by
  rw [hops, hops?, Array.getElem?_eq_getElem inRange, Option.getD_some]

theorem hops_direct {g : Graph} {a b : ℕ} (inRangeA : a < g.size) (inRangeB : b < g.size) :
    (direct g).hops a b = if a = b then 0 else if g.hasEdge a b then 1 else unreachable := by
  have inRange : a * (direct g).size + b < (direct g).cells.size := by
    simpa [direct] using Rows.cell_lt inRangeA inRangeB
  rw [hops_eq_getElem inRange]
  simp only [direct, Array.getElem_ofFn, Rows.cell_div inRangeB, Rows.cell_mod inRangeB]

theorem hops_relaxThrough {d : Distances} {k a b : ℕ} (inRangeA : a < d.size)
    (inRangeB : b < d.size) :
    (d.relaxThrough k).hops a b = shorter (d.hops a b) (d.hops a k) (d.hops k b) := by
  have inRange : a * d.size + b < d.cells.size := by
    rw [d.size_cells]
    exact Rows.cell_lt inRangeA inRangeB
  have inRange' : a * (d.relaxThrough k).size + b < (d.relaxThrough k).cells.size := by
    simpa [relaxThrough] using inRange
  rw [hops_eq_getElem inRange', hops_eq_getElem inRange]
  simp only [relaxThrough, Array.getElem_mapIdx, Rows.cell_div inRangeB, Rows.cell_mod inRangeB]

/-- The matrix after the rounds for the nodes below `bound`. -/
structure Settled (g : Graph) (bound : ℕ) (d : Distances) : Prop where
  size : d.size = g.size
  hops : ∀ a < g.size, ∀ b < g.size, hopCount (d.hops a b) = g.distBelow bound a b

theorem settled_direct (g : Graph) : Settled g 0 (direct g) where
  size := rfl
  hops a inRangeA b inRangeB := by
    rw [hops_direct inRangeA inRangeB]
    by_cases same : a = b
    · subst same
      rw [if_pos rfl, Graph.distBelow_self]
      rfl
    · rw [if_neg same]
      by_cases adjacent : g.hasEdge a b = true
      · rw [if_pos adjacent,
          Graph.distBelow_of_adj (Graph.adj_simple.2 (Graph.hasEdge_iff.1 adjacent))]
        rfl
      · rw [if_neg adjacent, hopCount_unreachable, Graph.distBelow_zero_of_not_adj same fun listed =>
          adjacent (Graph.hasEdge_iff.2 (Graph.adj_simple.1 listed))]

variable {g : Graph} {bound : ℕ} {d : Distances}

theorem Settled.fit (settled : Settled g bound d) (fit : g.PathsFit) {a b : ℕ}
    (inRangeA : a < g.size) (inRangeB : b < g.size) : HopsFit (d.hops a b) := by
  intro finite
  have cell := settled.hops a inRangeA b inRangeB
  have bounded := @Graph.distBelow_fits g bound a b fit
  rw [← cell, hopCount_of_ne finite, ENat.toNat_natCast] at bounded
  exact bounded (ENat.natCast_ne_top _)

/-- All three cells are read before the round, so the recurrence applies to them as they are. -/
theorem Settled.relaxThrough (settled : Settled g bound d) (fit : g.PathsFit)
    (inRange : bound < g.size) : Settled g (bound + 1) (d.relaxThrough bound) := by
  refine ⟨settled.size, fun a inRangeA b inRangeB => ?_⟩
  have inRangeA' : a < d.size := by rwa [settled.size]
  have inRangeB' : b < d.size := by rwa [settled.size]
  rw [hops_relaxThrough inRangeA' inRangeB',
    hopCount_shorter (settled.fit fit inRangeA inRange) (settled.fit fit inRange inRangeB),
    settled.hops a inRangeA b inRangeB, settled.hops a inRangeA bound inRange,
    settled.hops bound inRange b inRangeB, Graph.distBelow_succ]

/-! ## 3. The whole computation -/

/-- The first rounds, up to the one for `bound`. -/
def afterRounds (g : Graph) (bound : ℕ) : Distances :=
  (List.range bound).foldl (fun d k => d.relaxThrough k) (direct g)

theorem afterRounds_succ (g : Graph) (bound : ℕ) :
    afterRounds g (bound + 1) = (afterRounds g bound).relaxThrough bound := by
  rw [afterRounds, List.range_succ, List.foldl_concat, afterRounds]

theorem settled_afterRounds (fit : g.PathsFit) {rounds : ℕ} (enough : rounds ≤ g.size) :
    Settled g rounds (afterRounds g rounds) := by
  induction rounds with
  | zero => exact settled_direct g
  | succ k ih =>
    rw [afterRounds_succ]
    exact (ih (Nat.le_of_succ_le enough)).relaxThrough fit enough

/-- The cells of two nodes hold their hop distance. -/
structure Exact (g : Graph) (d : Distances) : Prop where
  size : d.size = g.size
  hops : ∀ a < g.size, ∀ b < g.size, hopCount (d.hops a b) = g.simple.edist a b

theorem ofGraph_eq_error {config : Config} (tooMany : config.maxNodes < g.size) :
    ofGraph g config = .error (.tooManyNodes g.size config.maxNodes) :=
  if_neg (Nat.not_le.2 tooMany)

/-- The limit is looked at before the rounds and never again. -/
theorem ofGraph_eq_ok_iff {config : Config} :
    ofGraph g config = .ok d ↔ g.size ≤ config.maxNodes ∧ afterRounds g g.size = d := by
  unfold ofGraph
  split
  · next allowed => exact (Except.ok.injEq _ _).to_iff.trans (and_iff_right allowed).symm
  · next tooMany => exact iff_of_false nofun fun computed => tooMany computed.1

theorem exact_afterRounds (fit : g.PathsFit) : Exact g (afterRounds g g.size) := by
  have settled := settled_afterRounds fit le_rfl
  refine ⟨settled.size, fun a inRangeA b inRangeB => ?_⟩
  rw [settled.hops a inRangeA b inRangeB, Graph.distBelow_size]

theorem ofGraph_eq_ok {config : Config} (fit : g.PathsFit) (allowed : g.size ≤ config.maxNodes) :
    ∃ d, ofGraph g config = .ok d ∧ Exact g d :=
  ⟨_, ofGraph_eq_ok_iff.2 ⟨allowed, rfl⟩, exact_afterRounds fit⟩

theorem exact_of_ofGraph {config : Config} (fit : g.PathsFit) (computed : ofGraph g config = .ok d) :
    Exact g d := by
  obtain ⟨-, rfl⟩ := ofGraph_eq_ok_iff.1 computed
  exact exact_afterRounds fit

end Distances

end Multipath
