import Multipath.Proofs.Graph.Walks

/-!
# Walks with low inner nodes

`distBelow bound a b` is the least length of a walk between two nodes whose inner nodes are all
below `bound`. It starts with the edges alone, and it ends with the hop distance of the graph.

Results:
1. `distBelow_succ`: one more inner node gives the way through that node a chance.
2. `distBelow_self`, `distBelow_of_adj`, `distBelow_zero_of_not_adj`: without inner nodes there
   are only the edges.
3. `distBelow_size`: with all nodes it is the hop distance.
4. `distBelow_fits`: the lengths in between are those of paths.
-/

namespace Multipath.Graph

variable {g : Graph} {bound a b : ℕ}

/-- All nodes of the walk but its ends are below `bound`. -/
def InnerBelow (bound : ℕ) (w : g.simple.Walk a b) : Prop :=
  ∀ node ∈ w.support, node = a ∨ node = b ∨ node < bound

/-- The least length of a walk with inner nodes below `bound`. -/
noncomputable def distBelow (g : Graph) (bound a b : ℕ) : ℕ∞ :=
  ⨅ w : {w : g.simple.Walk a b // InnerBelow bound w}, (w.1.length : ℕ∞)

theorem distBelow_le {w : g.simple.Walk a b} (inner : InnerBelow bound w) :
    g.distBelow bound a b ≤ w.length :=
  iInf_le (fun w : {w : g.simple.Walk a b // InnerBelow bound w} => (w.1.length : ℕ∞)) ⟨w, inner⟩

theorem InnerBelow.bypass {w : g.simple.Walk a b} (inner : InnerBelow bound w) :
    InnerBelow bound w.bypass :=
  fun node visited => inner node (w.support_bypass_subset_support visited)

/-- A least walk may be taken to be a path: a detour would not be least. -/
theorem exists_path_of_distBelow (finite : g.distBelow bound a b ≠ ⊤) :
    ∃ p : g.simple.Walk a b, p.IsPath ∧ InnerBelow bound p ∧ g.distBelow bound a b = p.length := by
  have inhabited : Nonempty {w : g.simple.Walk a b // InnerBelow bound w} := by
    by_contra none
    rw [not_nonempty_iff] at none
    exact finite (iInf_of_empty _)
  obtain ⟨⟨w, inner⟩, least⟩ := ciInf_mem fun w : {w : g.simple.Walk a b // InnerBelow bound w} =>
    (w.1.length : ℕ∞)
  have shorter : (w.bypass.length : ℕ∞) ≤ w.length := by exact_mod_cast w.length_bypass_le_length
  exact ⟨w.bypass, w.bypass_isPath, inner.bypass,
    le_antisymm (distBelow_le inner.bypass) (shorter.trans_eq least)⟩

/-! ## 1. One more inner node -/

theorem InnerBelow.succ {w : g.simple.Walk a b} (inner : InnerBelow bound w) :
    InnerBelow (bound + 1) w := by
  intro node visited
  have := inner node visited
  omega

/-- Two walks that meet at `bound` make one whose inner nodes are at most `bound`. -/
theorem InnerBelow.append {w : g.simple.Walk a bound} {v : g.simple.Walk bound b}
    (innerW : InnerBelow bound w) (innerV : InnerBelow bound v) :
    InnerBelow (bound + 1) (w.append v) := by
  intro node visited
  cases (w.mem_support_append_iff v).1 visited with
  | inl inW =>
    have := innerW node inW
    omega
  | inr inV =>
    have := innerV node inV
    omega

/-- The part of a path up to an inner node has its other end behind it. -/
theorem innerBelow_takeUntil {p : g.simple.Walk a b} (path : p.IsPath)
    (inner : InnerBelow (bound + 1) p) (visited : bound ∈ p.support) (notEnd : b ≠ bound) :
    InnerBelow bound (p.takeUntil bound visited) := by
  intro node inPart
  have notLast : node ≠ b := by
    rintro rfl
    exact SimpleGraph.Walk.endpoint_notMem_support_takeUntil path visited notEnd inPart
  have := inner node (p.support_takeUntil_subset_support visited inPart)
  omega

theorem innerBelow_dropUntil {p : g.simple.Walk a b} (path : p.IsPath)
    (inner : InnerBelow (bound + 1) p) (visited : bound ∈ p.support) (notStart : a ≠ bound) :
    InnerBelow bound (p.dropUntil bound visited) := by
  intro node inPart
  have notFirst : node ≠ a := by
    rintro rfl
    -- `a` also starts the other part, and a path visits it once
    have nodup := path.support_nodup
    rw [← p.take_spec visited, SimpleGraph.Walk.support_append] at nodup
    rw [SimpleGraph.Walk.mem_support_iff] at inPart
    cases inPart with
    | inl same => exact notStart same
    | inr inTail =>
      exact (List.nodup_append.1 nodup).2.2 node (SimpleGraph.Walk.start_mem_support _) node inTail
        rfl
  have := inner node (p.support_dropUntil_subset_support visited inPart)
  omega

/-- The least path through one more node either avoids that node or is cut by it in two. -/
theorem distBelow_succ (g : Graph) (bound a b : ℕ) :
    g.distBelow (bound + 1) a b =
      min (g.distBelow bound a b) (g.distBelow bound a bound + g.distBelow bound bound b) := by
  apply le_antisymm
  · refine le_min (le_iInf fun w => distBelow_le w.2.succ) ?_
    by_cases first : g.distBelow bound a bound = ⊤
    · simp [first]
    by_cases second : g.distBelow bound bound b = ⊤
    · simp [second]
    obtain ⟨p, -, innerP, lengthP⟩ := exists_path_of_distBelow first
    obtain ⟨q, -, innerQ, lengthQ⟩ := exists_path_of_distBelow second
    calc g.distBelow (bound + 1) a b ≤ (p.append q).length := distBelow_le (innerP.append innerQ)
      _ = g.distBelow bound a bound + g.distBelow bound bound b := by
        rw [lengthP, lengthQ, SimpleGraph.Walk.length_append, Nat.cast_add]
  · by_cases finite : g.distBelow (bound + 1) a b = ⊤
    · simp [finite]
    obtain ⟨p, path, inner, length⟩ := exists_path_of_distBelow finite
    rw [length]
    by_cases through : bound ∈ p.support ∧ a ≠ bound ∧ b ≠ bound
    · obtain ⟨visited, notStart, notEnd⟩ := through
      refine min_le_of_right_le ?_
      calc g.distBelow bound a bound + g.distBelow bound bound b
          ≤ (p.takeUntil bound visited).length + (p.dropUntil bound visited).length :=
            add_le_add (distBelow_le (innerBelow_takeUntil path inner visited notEnd))
              (distBelow_le (innerBelow_dropUntil path inner visited notStart))
        _ = p.length := by
            rw [← Nat.cast_add, ← SimpleGraph.Walk.length_append, p.take_spec visited]
    · -- as an end of the path, or not on it at all, `bound` is no inner node
      refine min_le_of_left_le (distBelow_le fun node visited => ?_)
      have := inner node visited
      by_cases same : node = bound
      · subst same
        by_contra other
        exact through ⟨visited, by omega, by omega⟩
      · omega

/-! ## 2. No inner nodes -/

theorem distBelow_self (g : Graph) (bound a : ℕ) : g.distBelow bound a a = 0 := by
  have trivialWalk : InnerBelow bound (SimpleGraph.Walk.nil : g.simple.Walk a a) := by
    simp [InnerBelow]
  exact nonpos_iff_eq_zero.1 (by simpa using distBelow_le trivialWalk)

theorem distBelow_of_adj (adjacent : g.simple.Adj a b) : g.distBelow bound a b = 1 := by
  have single : InnerBelow bound adjacent.toWalk := by
    intro node visited
    simp only [SimpleGraph.Walk.support_cons, SimpleGraph.Walk.support_nil, List.mem_cons,
      List.not_mem_nil, or_false] at visited
    omega
  refine le_antisymm (by simpa using distBelow_le single) (le_iInf fun w => ?_)
  have apart : a ≠ b := adjacent.ne
  have positive : 1 ≤ w.1.length :=
    Nat.one_le_iff_ne_zero.2 fun zero => apart (SimpleGraph.Walk.eq_of_length_eq_zero zero)
  exact_mod_cast positive

theorem distBelow_zero_of_not_adj (apart : a ≠ b) (notAdjacent : ¬ g.simple.Adj a b) :
    g.distBelow 0 a b = ⊤ := by
  by_contra finite
  obtain ⟨p, path, inner, -⟩ := exists_path_of_distBelow finite
  cases p with
  | nil => exact apart rfl
  | @cons _ next _ step rest =>
    have second : next ∈ (SimpleGraph.Walk.cons step rest).support := by simp
    rcases inner next second with isStart | isEnd | below
    · exact step.ne isStart.symm
    · exact notAdjacent (isEnd ▸ step)
    · exact absurd below (Nat.not_lt_zero _)

/-! ## 3. All nodes -/

theorem distBelow_size (g : Graph) (a b : ℕ) : g.distBelow g.size a b = g.simple.edist a b := by
  refine le_antisymm (le_iInf fun w => distBelow_le ?_) (le_iInf fun w => w.1.edist_le)
  intro node visited
  cases w with
  | nil => exact Or.inl (by simpa using visited)
  | cons step rest =>
    exact Or.inr (Or.inr (lt_size_of_mem_support _ (lt_size_of_adj step).1 node visited))

/-! ## 4. Lengths in between -/

theorem distBelow_fits (fit : g.PathsFit) (finite : g.distBelow bound a b ≠ ⊤) :
    2 * (g.distBelow bound a b).toNat + 1 < UInt32.size := by
  obtain ⟨p, path, -, length⟩ := exists_path_of_distBelow finite
  rw [length, ENat.toNat_natCast]
  exact fit a b p path

end Multipath.Graph
