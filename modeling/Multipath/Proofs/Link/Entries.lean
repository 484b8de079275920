import Mathlib.Data.List.Nodup
import Multipath.Link.PairMap
import Multipath.Proofs.Graph.FarEnds

/-!
# Entries of a map that nothing overwrites

The maps of links are filled by inserting, link after link, one entry for each end or direction.
Where the keys are distinct, every entry stays. Two nodes are such a key, since edges are distinct
and never listed in both orders.

Results:
1. `getElem?_insertMany_eq_some_iff`: entries with distinct keys are all found again.
2. `size_insertMany`: the map is as large as the list of its entries.
3. `nodup_flatMap_directions`: the directions of distinct edges are distinct keys.
-/

namespace Multipath

section

variable {α β : Type} {cmp : α → α → Ordering} [Std.LawfulEqCmp cmp] {entries : List (α × β)}
  (distinct : (entries.map Prod.fst).Nodup)
include distinct

theorem pairwise_apart : entries.Pairwise fun a b => ¬ cmp a.1 b.1 = .eq :=
  (List.pairwise_map.1 distinct).imp fun different same =>
    different (Std.LawfulEqCmp.eq_of_compare same)

variable [DecidableEq α] [Std.TransCmp cmp]

/-- A map filled with entries of distinct keys has these entries and no others. -/
theorem getElem?_insertMany_eq_some_iff {key : α} {value : β} :
    ((∅ : Std.ExtTreeMap α β cmp).insertMany entries)[key]? = some value ↔
      (key, value) ∈ entries := by
  have found : ∀ {value' : β}, (key, value') ∈ entries →
      ((∅ : Std.ExtTreeMap α β cmp).insertMany entries)[key]? = some value' := fun listed =>
    Std.ExtTreeMap.getElem?_insertMany_list_of_mem Std.ReflCmp.compare_self
      (pairwise_apart distinct) listed
  constructor
  · intro stored
    by_cases known : key ∈ entries.map Prod.fst
    · obtain ⟨⟨_, value'⟩, listed, rfl⟩ := List.mem_map.1 known
      rw [found listed] at stored
      cases stored
      exact listed
    · have absent : (entries.map Prod.fst).contains key = false := by simpa using known
      rw [Std.ExtTreeMap.getElem?_insertMany_list_of_contains_eq_false absent,
        Std.ExtTreeMap.getElem?_empty] at stored
      cases stored
  · exact found

theorem size_insertMany :
    ((∅ : Std.ExtTreeMap α β cmp).insertMany entries).size = entries.length := by
  rw [Std.ExtTreeMap.size_insertMany_list (pairwise_apart distinct), Std.ExtTreeMap.size_empty,
    Nat.zero_add]
  exact fun _ known => absurd known Std.ExtTreeMap.not_mem_empty

end

namespace Graph

/-- Keys that stand for the two directions of distinct edges are distinct. -/
theorem nodup_flatMap_directions {edges : List (ℕ × ℕ)} (distinct : edges.Nodup)
    (ascending : ∀ edge ∈ edges, edge.1 < edge.2) {directions : ℕ × ℕ → List (ℕ × ℕ)}
    (both : ∀ edge, (directions edge).Perm [edge, edge.swap]) :
    (edges.flatMap directions).Nodup := by
  rw [List.nodup_flatMap]
  constructor
  · intro edge listed
    have less := ascending edge listed
    rw [(both edge).nodup_iff, List.nodup_cons, List.mem_singleton]
    refine ⟨fun same => ?_, List.nodup_singleton _⟩
    exact Nat.ne_of_lt less (congrArg Prod.fst same)
  · refine distinct.imp_of_mem fun {edge other} listed listedOther apart key inEdge inOther => ?_
    have less := ascending edge listed
    have lessOther := ascending other listedOther
    rw [(both edge).mem_iff, List.mem_pair] at inEdge
    rw [(both other).mem_iff, List.mem_pair] at inOther
    rcases inEdge with rfl | rfl <;> rcases inOther with same | same
    · exact apart same
    · subst same
      exact Nat.lt_asymm less lessOther
    · subst same
      exact Nat.lt_asymm less lessOther
    · exact apart (Prod.swap_injective same)

end Graph

end Multipath
