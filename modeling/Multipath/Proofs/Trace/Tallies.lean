import Mathlib.Data.List.Dedup
import Multipath.Proofs.Graph.FarEnds
import Multipath.Trace.Tally

/-!
# Tallies of paths

A tally goes through the steps of one path after the other and counts each of them where it
belongs. What it holds in the end depends on the list of all these steps alone: a row for each
step that occurs, with the number of its occurrences.

Results:
1. `map_fst_pathSteps`, `count_pathSteps`: a path that visits no node twice takes a step at most
   once, and leaves every node but the last by one step.
2. `foldl_add`: the tally of a list of paths.
3. `mem_rows_iff`, `pairwise_rows`, `sum_rows`: the rows of a tally.
-/

namespace Multipath.Tally

/-! ## 1. Steps of a path -/

def pathSteps (path : List ℕ) : List (ℕ × ℕ) := path.zip path.tail

theorem pathSteps_cons_cons (node next : ℕ) (rest : List ℕ) :
    pathSteps (node :: next :: rest) = (node, next) :: pathSteps (next :: rest) := rfl

theorem map_fst_pathSteps (path : List ℕ) : (pathSteps path).map Prod.fst = path.dropLast := by
  induction path with
  | nil => rfl
  | cons node rest ih =>
    cases rest with
    | nil => rfl
    | cons next rest => rw [pathSteps_cons_cons, List.map_cons, ih, List.dropLast_cons_cons]

theorem forall_mem_pathSteps {path : List ℕ} {holds : ℕ → ℕ → Prop} (chain : path.IsChain holds) :
    ∀ step ∈ pathSteps path, holds step.1 step.2 := by
  induction chain with
  | nil => simp [pathSteps]
  | singleton node => simp [pathSteps]
  | cons_cons first _ ih =>
    rw [pathSteps_cons_cons]
    exact List.forall_mem_cons.2 ⟨first, ih⟩

/-- How often a path takes the steps of a kind, when it takes one of them at most. -/
theorem count_pathSteps {path : List ℕ} (distinct : path.Nodup) (step : ℕ × ℕ) :
    (pathSteps path).count step = if step ∈ pathSteps path then 1 else 0 := by
  have nodup : ((pathSteps path).map Prod.fst).Nodup := by
    rw [map_fst_pathSteps]
    exact distinct.sublist path.dropLast_sublist
  exact nodup.of_map.count

/-- A path leaves each node that it visits once, except for the last one. -/
theorem countP_pathSteps {path : List ℕ} {node : ℕ} (distinct : path.Nodup)
    (apart : path.getLast? ≠ some node) :
    (pathSteps path).countP (·.1 = node) = if node ∈ path then 1 else 0 := by
  have atStart : (pathSteps path).countP (·.1 = node) = path.dropLast.count node := by
    rw [← map_fst_pathSteps, List.count, List.countP_map]
    rfl
  rw [atStart, (distinct.sublist path.dropLast_sublist).count]
  cases last : path.getLast? with
  | none =>
    rw [List.getLast?_eq_none_iff.1 last]
    rfl
  | some goal =>
    have other : node ≠ goal := fun same => apart (same ▸ last)
    have same : node ∈ path.dropLast ↔ node ∈ path := by
      conv_rhs => rw [← List.dropLast_append_getLast? goal last]
      rw [List.mem_append, List.mem_singleton, or_iff_left other]
    simp only [same]

/-! ## 2. The tally of a list of paths -/

variable (nextHops : NextHops) (destination : ℕ)

/-- At nodes with a choice all steps are counted. -/
theorem countP_choices {kind : ℕ × ℕ → Bool}
    (several : ∀ step, kind step = true → 1 < (nextHops.get step.1 destination).length)
    (path : List ℕ) :
    (choices nextHops destination path).countP kind = (pathSteps path).countP kind := by
  rw [choices, List.countP_filter]
  refine List.countP_congr fun step _ => ?_
  rw [Bool.and_eq_true, decide_eq_true_eq, and_iff_left_of_imp (several step)]

/-- A flow without a path takes no step. -/
theorem foldl_add (paths : List (Option (List ℕ))) :
    paths.foldl (add nextHops destination) empty =
      ⟨paths.countP (·.isSome), paths.countP (·.isNone),
        (paths.flatMap fun path => choices nextHops destination (path.getD [])).foldl addStep ∅⟩ := by
  -- from the end, where the path that was added last stands
  induction paths using List.reverseRecOn with
  | nil => rfl
  | append_singleton paths path ih =>
    rw [List.foldl_append, ih, List.flatMap_append, List.foldl_append, List.countP_append,
      List.countP_append, List.flatMap_singleton]
    cases path with
    | none => rfl
    | some path => rfl

/-- Where each item has a step of some kind at most once, the steps of this kind count the items
that have one. -/
theorem countP_flatMap_eq {items : List ℕ} {steps : ℕ → List (ℕ × ℕ)} {kind : ℕ × ℕ → Bool}
    {holds : ℕ → Prop} [DecidablePred holds]
    (once : ∀ item, (steps item).countP kind = if holds item then 1 else 0) :
    (items.flatMap steps).countP kind = items.countP (holds ·) := by
  induction items with
  | nil => rfl
  | cons item rest ih =>
    rw [List.flatMap_cons, List.countP_append, ih, once, List.countP_cons, Nat.add_comm]
    simp only [decide_eq_true_eq]

/-! ## 3. Rows -/

variable {steps : List (ℕ × ℕ)}

theorem getElem?_foldl_addStep (steps : List (ℕ × ℕ)) (step : ℕ × ℕ) :
    (steps.foldl addStep ∅)[step]? =
      if steps.count step = 0 then none else some (steps.count step) := by
  induction steps using List.reverseRecOn with
  | nil => simp
  | append_singleton steps last ih =>
    rw [List.foldl_append, List.foldl_cons, List.foldl_nil, addStep, Std.ExtTreeMap.getElem?_insert,
      List.count_append, List.count_singleton]
    simp only [Std.LawfulEqCmp.compare_eq_iff_eq, beq_iff_eq]
    split
    · next same =>
      subst same
      rw [ih, if_neg (Nat.succ_ne_zero _)]
      split
      · next fresh => rw [fresh]; rfl
      · rfl
    · rw [ih, Nat.add_zero]

/-- The rows of the steps that were taken, with their numbers. -/
def rows (steps : List (ℕ × ℕ)) : List ((ℕ × ℕ) × ℕ) := (steps.foldl addStep ∅).toList

theorem mem_rows_iff {step : ℕ × ℕ} {count : ℕ} :
    (step, count) ∈ rows steps ↔ 0 < count ∧ steps.count step = count := by
  rw [rows, Std.ExtTreeMap.mem_toList_iff_getElem?_eq_some, getElem?_foldl_addStep]
  split
  · next absent =>
    refine iff_of_false nofun fun ⟨positive, same⟩ => ?_
    rw [← same, absent] at positive
    exact Nat.lt_irrefl 0 positive
  · next present =>
    rw [Option.some.injEq]
    constructor
    · rintro rfl
      exact ⟨Nat.pos_of_ne_zero present, rfl⟩
    · exact And.right

theorem pairwise_rows (steps : List (ℕ × ℕ)) :
    ((rows steps).map Prod.fst).Pairwise Graph.EdgeLt := by
  rw [List.pairwise_map]
  refine Std.ExtTreeMap.ordered_keys_toList.imp fun {row later} less => ?_
  have first := Ordering.then_eq_lt.1 less
  simpa only [Graph.EdgeLt, compareOn, Nat.compare_eq_lt, Nat.compare_eq_eq] using first

theorem nodup_rows (steps : List (ℕ × ℕ)) : ((rows steps).map Prod.fst).Nodup := by
  refine (pairwise_rows steps).imp fun {step later} less same => ?_
  subst same
  exact less.elim (Nat.lt_irrefl _) fun second => Nat.lt_irrefl _ second.2

theorem mem_map_fst_rows {step : ℕ × ℕ} : step ∈ (rows steps).map Prod.fst ↔ step ∈ steps := by
  rw [List.mem_map, ← List.count_pos_iff]
  constructor
  · rintro ⟨⟨_, count⟩, listed, rfl⟩
    obtain ⟨positive, same⟩ := mem_rows_iff.1 listed
    exact same ▸ positive
  · intro positive
    exact ⟨(step, steps.count step), mem_rows_iff.2 ⟨positive, rfl⟩, rfl⟩

/-- The rows of any selection of steps add up to the number of times such a step was taken. -/
theorem sum_rows (steps : List (ℕ × ℕ)) (selected : ℕ × ℕ → Bool) :
    (((rows steps).filter fun row => selected row.1).map Prod.snd).sum = steps.countP selected := by
  have counts : ((rows steps).filter fun row => selected row.1).map Prod.snd =
      (((rows steps).map Prod.fst).filter selected).map (steps.count ·) := by
    rw [List.filter_map, List.map_map]
    refine List.map_congr_left fun row listed => ?_
    exact (mem_rows_iff.1 (List.mem_of_mem_filter listed)).2.symm
  have keys : ((rows steps).map Prod.fst).Perm steps.dedup := by
    rw [List.perm_ext_iff_of_nodup (nodup_rows steps) steps.nodup_dedup]
    intro step
    rw [mem_map_fst_rows, List.mem_dedup]
  have total := List.sum_map_count_dedup_filter_eq_countP selected steps
  rw [lawful_beq_subsingleton instBEqOfDecidableEq instBEqProd] at total
  rw [counts, ← total]
  exact ((keys.filter selected).map (steps.count ·)).sum_nat

end Multipath.Tally
