import Multipath.Proofs.Route.Paths

/-!
# Next hops over distances of another graph

The table of next hops asks for the distances of as many nodes as its graph has, and for nothing
else: they may be those of another graph. A list is then still made of neighbors, namely of those
that the distances call one hop closer.

Results:
1. `isCloser_eq_true_iff`: when a neighbor is one hop closer.
2. `ofDistances?_exact`: all lists, over any distances.
-/

namespace Multipath.NextHops

variable {d : Distances} {g : Graph}

/-! ## 1. One hop closer -/

theorem isCloser_eq_true_iff {destination node next : ℕ} :
    isCloser d destination node next = true ↔
      d.hops node destination ≠ unreachable ∧ d.hops next destination ≠ unreachable ∧
        (d.hops next destination).toNat + 1 = (d.hops node destination).toNat := by
  simp only [isCloser, Bool.and_eq_true, bne_iff_ne, beq_iff_eq, and_assoc]
  exact and_congr_right fun _ => and_congr_right fun _ => eq_comm

/-- Nothing is closer than a node at distance zero. -/
theorem isCloser_of_hops_eq_zero {destination node : ℕ} (arrived : d.hops node destination = 0)
    (next : ℕ) : isCloser d destination node next = false := by
  rw [← Bool.not_eq_true, isCloser_eq_true_iff, arrived]
  exact fun closer => Nat.succ_ne_zero _ closer.2.2

theorem ofDistances?_eq_some_iff {table : NextHops} :
    ofDistances? g d = some table ↔ d.size = g.size ∧ fill g d = table := by
  rw [ofDistances?, Option.ite_none_right_eq_some, Option.some.injEq]

/-! ## 2. All lists -/

/-- Whatever graph of as many nodes the distances belong to, a list holds the neighbors of its node
in ascending order, as far as they are one hop closer to the destination. So no list has a next hop
twice, a destination at distance zero from itself has none, and neither has an id that is no
node. -/
theorem ofDistances?_exact (g : Graph) (d : Distances) :
    ((∃ table, ofDistances? g d = some table) ↔ d.size = g.size) ∧
    ∀ table, ofDistances? g d = some table →
      (∀ u < g.size, ∀ t < g.size, table.get u t = (g.neighbors u).toList.filter fun v =>
        d.hops u t ≠ unreachable ∧ d.hops v t ≠ unreachable ∧
          (d.hops v t).toNat + 1 = (d.hops u t).toNat) ∧
      (∀ u t, (table.get u t).Pairwise (· < ·) ∧ (table.get u t).Nodup) ∧
      (∀ t, d.hops t t = 0 → table.get t t = []) ∧
      ∀ u t, g.size ≤ u ∨ g.size ≤ t → table.get u t = [] := by
  simp only [ofDistances?_eq_some_iff]
  refine ⟨⟨fun ⟨_, same, _⟩ => same, fun same => ⟨_, same, rfl⟩⟩, ?_⟩
  rintro _ ⟨-, rfl⟩
  simp only [get_fill]
  refine ⟨fun u inRangeU t inRangeT => ?_, fun u t => ?_, fun t arrived => ?_, fun u t outside => ?_⟩
  · rw [if_pos ⟨inRangeU, inRangeT⟩]
    refine List.filter_congr fun v _ => ?_
    rw [Bool.eq_iff_iff, isCloser_eq_true_iff, decide_eq_true_iff]
  · have ascending : (if u < g.size ∧ t < g.size then
        (g.neighbors u).toList.filter (isCloser d t u) else []).Pairwise (· < ·) := by
      split
      · exact (g.neighbors u).ascending.filter _
      · exact List.Pairwise.nil
    exact ⟨ascending, ascending.imp Nat.ne_of_lt⟩
  · simp [isCloser_of_hops_eq_zero arrived]
  · rw [if_neg fun inRange => ?_]
    cases outside with
    | inl outsideU => exact Nat.not_lt.2 outsideU inRange.1
    | inr outsideT => exact Nat.not_lt.2 outsideT inRange.2

/-- Four switches in a line are up to three hops apart. -/
def lineDistances : Distances where
  size := 4
  cells := #[0, 1, 2, 3, 1, 0, 1, 2, 2, 1, 0, 1, 3, 2, 1, 0]
  size_cells := rfl

/-- Over the distances of the line a switch of the ring still lists neighbors only: 1 is one hop
closer to 3 than 0 is, and 2 would be two hops closer. -/
theorem ring_over_lineDistances : Distances.ofGraph Topology.line.graph {} = .ok lineDistances ∧
    ∃ table, ofDistances? Topology.ring.graph lineDistances = some table ∧
      table.get 0 3 = [1] ∧ table.get 3 3 = [] ∧ table.get 4 3 = [] := by
  obtain ⟨possible, lists⟩ := ofDistances?_exact Topology.ring.graph lineDistances
  obtain ⟨table, filled⟩ := possible.2 (by decide)
  obtain ⟨inRange, -, arrived, outside⟩ := lists table filled
  exact ⟨by decide +kernel, table, filled,
    (inRange 0 (by decide) 3 (by decide)).trans (by decide), arrived 3 (by decide),
    outside 4 3 (Or.inl (by decide))⟩

end Multipath.NextHops
