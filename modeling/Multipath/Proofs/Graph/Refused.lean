import Mathlib.Order.Bounds.Basic
import Multipath.Proofs.Graph.Drawn

/-!
# Edges that are refused

Drawing a graph stops at the first edge that cannot be added. What is wrong with it is said of the
edges before it alone, and of several things the first in the order loop, end, duplicate counts.

Results:
1. `connect_eq_error_iff`: one edge.
2. `ofEdges_eq_error_iff`: the first bad edge of a list.
3. `NodeSet.isLeast_iff_split`: the first node with a property is the least one.
-/

namespace Multipath

namespace Graph

/-! ## 1. One edge -/

/-- What is wrong with an edge that comes after `earlier` ones. A loop is one even where there is
no node, and of two ends that are no nodes the first is named. -/
inductive BadEdge (size : ℕ) (earlier : List (ℕ × ℕ)) : ℕ × ℕ → EdgeError → Prop
  | loop (node : ℕ) : BadEdge size earlier (node, node) (.loop node)
  | firstEnd {a b : ℕ} : a ≠ b → size ≤ a → BadEdge size earlier (a, b) (.outOfRange a size)
  | secondEnd {a b : ℕ} :
      a ≠ b → a < size → size ≤ b → BadEdge size earlier (a, b) (.outOfRange b size)
  | duplicate {low high : ℕ} {edge : ℕ × ℕ} :
      low < high → edge = (low, high) ∨ edge = (high, low) →
      (low, high) ∈ earlier ∨ (high, low) ∈ earlier →
      BadEdge size earlier edge (.duplicate low high)

variable {g : Graph} {size : ℕ} {earlier edges : List (ℕ × ℕ)} {edge : ℕ × ℕ} {fault : EdgeError}

/-- An edge that is there already is refused as a duplicate, with its lower end first. -/
theorem connect_of_adjacent {a b : ℕ} (adjacent : b ∈ g.neighbors a) :
    g.connect a b = .error (.duplicate (min a b) (max a b)) := by
  have apart : a ≠ b := by
    rintro rfl
    exact g.loopless a adjacent
  have aInRange := lt_size_of_adjacent adjacent
  have bInRange := lt_size_of_adjacent (g.symmetric a b adjacent)
  have refused : g.connect? a b apart aInRange bInRange = none := by
    refine Option.eq_none_iff_forall_ne_some.2 fun drawn connected => ?_
    exact (exists_connect? apart aInRange bInRange).1 ⟨drawn, connected⟩ adjacent
  unfold connect
  rw [dif_neg apart, dif_pos aInRange, dif_pos bInRange, refused]

theorem connect_of_badEdge (draws : (empty size).Draws earlier g)
    (bad : BadEdge size earlier edge fault) : g.connect edge.1 edge.2 = .error fault := by
  obtain ⟨rfl, neighbors⟩ := draws_empty_iff.1 draws
  cases bad with
  | loop node => exact dif_pos rfl
  | firstEnd apart outside =>
    unfold connect
    rw [dif_neg apart, dif_neg (Nat.not_lt.2 outside)]
  | secondEnd apart inRange outside =>
    unfold connect
    rw [dif_neg apart, dif_pos inRange, dif_neg (Nat.not_lt.2 outside)]
  | @duplicate low high _ ordered ends listed =>
    have adjacent : high ∈ g.neighbors low := (neighbors low high).2 listed
    rcases ends with rfl | rfl
    · rw [connect_of_adjacent adjacent, min_eq_left ordered.le, max_eq_right ordered.le]
    · rw [connect_of_adjacent (g.symmetric low high adjacent), min_eq_right ordered.le,
        max_eq_left ordered.le]

/-- Every edge is bad in one of these ways unless it can be added. -/
theorem exists_badEdge (draws : (empty size).Draws earlier g) (refused : ¬ g.Accepts edge) :
    ∃ cause, BadEdge size earlier edge cause := by
  obtain ⟨a, b⟩ := edge
  obtain ⟨rfl, neighbors⟩ := draws_empty_iff.1 draws
  by_cases apart : a = b
  · subst apart
    exact ⟨_, .loop a⟩
  by_cases aInRange : a < g.size
  · by_cases bInRange : b < g.size
    · have adjacent : b ∈ g.neighbors a := by
        by_contra new
        exact refused ⟨apart, ⟨aInRange, bInRange⟩, new⟩
      have listed := (neighbors a b).1 adjacent
      rcases Nat.lt_or_gt_of_ne apart with below | above
      · exact ⟨_, .duplicate below (Or.inl rfl) listed⟩
      · exact ⟨_, .duplicate above (Or.inr rfl) listed.symm⟩
    · exact ⟨_, .secondEnd apart aInRange (Nat.le_of_not_lt bInRange)⟩
  · exact ⟨_, .firstEnd apart (Nat.le_of_not_lt aInRange)⟩

/-- The graph that the earlier edges draw refuses the bad edges. -/
theorem connect_eq_error_iff (draws : (empty size).Draws earlier g) :
    g.connect edge.1 edge.2 = .error fault ↔ BadEdge size earlier edge fault := by
  constructor
  · intro failed
    have refused : ¬ g.Accepts edge := by
      intro accepted
      obtain ⟨drawn, drawsEdge⟩ := accepted.exists_draws
      cases (connect_eq_ok_iff.2 ⟨accepted, drawsEdge⟩).symm.trans failed
    obtain ⟨cause, bad⟩ := exists_badEdge draws refused
    cases (connect_of_badEdge draws bad).symm.trans failed
    exact bad
  · exact connect_of_badEdge draws

/-! ## 2. All edges -/

theorem drawable_iff_exists_ofEdges :
    Drawable size edges ↔ ∃ g, ofEdges size edges = .ok g := by
  constructor
  · exact Drawable.exists_ofEdges
  · rintro ⟨g, drawn⟩
    exact (ofEdges_eq_ok_iff.1 drawn).1

theorem ofEdges_eq_error_iff :
    ofEdges size edges = .error fault ↔ FirstBad (Drawable size) (BadEdge size) edges fault := by
  refine foldlM_eq_error_iff_firstBad (fun earlier => drawable_iff_exists_ofEdges) ?_
  intro earlier g drawn edge fault
  exact connect_eq_error_iff (draws_empty_iff.2 (ofEdges_eq_ok_iff.1 drawn).2)

end Graph

/-! ## 3. Least nodes -/

namespace NodeSet

variable {nodes : NodeSet} {holds : ℕ → Prop} {node : ℕ}

/-- The members are listed in ascending order, so the first with a property is the least with it. -/
theorem isLeast_iff_split :
    IsLeast {member | member ∈ nodes ∧ holds member} node ↔
      ∃ before after, nodes.toList = before ++ node :: after ∧ holds node ∧
        ∀ member ∈ before, ¬ holds member := by
  constructor
  · rintro ⟨⟨listed, holdsNode⟩, least⟩
    obtain ⟨before, after, split⟩ := List.append_of_mem listed
    refine ⟨before, after, split, holdsNode, fun member isBefore holdsMember => ?_⟩
    have ascending := nodes.ascending
    rw [split, List.pairwise_append] at ascending
    have below : member < node := ascending.2.2 member isBefore node List.mem_cons_self
    have inNodes : member ∈ nodes.toList := split ▸ List.mem_append_left _ isBefore
    exact Nat.not_lt.2 (least ⟨inNodes, holdsMember⟩) below
  · rintro ⟨before, after, split, holdsNode, others⟩
    have listed : node ∈ nodes.toList := split ▸ List.mem_append_right _ List.mem_cons_self
    refine ⟨⟨listed, holdsNode⟩, fun member ⟨inNodes, holdsMember⟩ => ?_⟩
    have ascending := nodes.ascending
    rw [split, List.pairwise_append, List.pairwise_cons] at ascending
    have place : member ∈ before ++ node :: after := split ▸ mem_toList.2 inNodes
    rw [List.mem_append, List.mem_cons] at place
    rcases place with isBefore | rfl | isAfter
    · exact absurd holdsMember (others member isBefore)
    · exact le_rfl
    · exact (ascending.2.1.1 member isAfter).le

theorem find?_eq_some_iff_isLeast [DecidablePred holds] :
    nodes.toList.find? (fun member => decide (holds member)) = some node ↔
      IsLeast {member | member ∈ nodes ∧ holds member} node := by
  rw [isLeast_iff_split, List.find?_eq_some_iff_append]
  simp only [decide_eq_true_eq, Bool.not_eq_true', decide_eq_false_iff_not]
  constructor
  · rintro ⟨holdsNode, before, after, split, others⟩
    exact ⟨before, after, split, holdsNode, others⟩
  · rintro ⟨before, after, split, holdsNode, others⟩
    exact ⟨holdsNode, before, after, split, others⟩

end NodeSet

end Multipath
