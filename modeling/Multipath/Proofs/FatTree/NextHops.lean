import Multipath.Proofs.FatTree.Neighbors
import Multipath.Proofs.Graph.Heights
import Multipath.Proofs.Route.ShortestPaths

/-!
# Next hops in a fat tree

How far a place is from a host depends on what it has in common with it: the rack, the pod, or
nothing. `Place.hopsTo` counts these hops. It is a height over the host, since it changes by one
along every link and there is a link down from everywhere else, so it is the hop distance. The
next hops are then read off the neighbors (`Place.towardHost`).

Results:
1. `filter_neighbors`: the neighbors that are one hop closer to a host.
2. `dist_node`: `Place.hopsTo` is the hop distance.
3. `pathsFit_build`: no hop count leaves its word while the matrix of them can be addressed.
4. `get_node`: the table of next hops lists `Place.towardHost`.
-/

namespace Multipath.FatTree

open Place

variable {arity pods half pod rack index : ℕ} {u v : Place}

/-! ## 1. Hops to a host -/

/-- The number of hops to host `index` at edge switch `rack` of pod `pod`. -/
def Place.hopsTo (pod rack index : ℕ) : Place → ℕ
  | .core _ _ => 3
  | .agg p _ => if p = pod then 2 else 4
  | .edge p e => if p = pod then if e = rack then 1 else 3 else 5
  | .host p e i => if p = pod then if e = rack then if i = index then 0 else 2 else 4 else 6

/-- Where a packet for that host goes next: up until pod and rack are the host's, then down. -/
def Place.towardHost (half pod rack index : ℕ) : Place → List Place
  | .core group _ => [.agg pod group]
  | .agg p group => if p = pod then [.edge pod rack] else (List.range half).map (.core group)
  | .edge p e =>
    if p = pod ∧ e = rack then [.host pod rack index] else (List.range half).map (.agg p)
  | .host p e i => if p = pod ∧ e = rack ∧ i = index then [] else [.edge p e]

theorem Uplink.hopsTo_le (linked : Uplink u v) :
    u.hopsTo pod rack index ≤ v.hopsTo pod rack index + 1 ∧
      v.hopsTo pod rack index ≤ u.hopsTo pod rack index + 1 := by
  cases linked <;> simp only [hopsTo] <;> split_ifs <;> omega

@[simp]
theorem hopsTo_host : (Place.host pod rack index).hopsTo pod rack index = 0 := by simp [hopsTo]

theorem filter_range_eq {count i : ℕ} (small : i < count) :
    (List.range count).filter (fun j => decide (j = i)) = [i] := by
  rw [List.filter_eq, List.count_eq_one_of_mem List.nodup_range (List.mem_range.2 small)]
  rfl

/-- Of the neighbors, those toward the host are one hop closer. -/
theorem filter_neighbors (inTree : (Place.host pod rack index).InTree pods half) (u : Place) :
    (u.neighbors pods half).filter
        (fun v => decide (u.hopsTo pod rack index = v.hopsTo pod rack index + 1)) =
      u.towardHost half pod rack index := by
  obtain ⟨inPods, inLayer, atRack⟩ := inTree
  cases u with
  | core group i =>
    simp [Place.neighbors, towardHost, hopsTo, List.filter_map, Function.comp_def,
      filter_range_eq inPods]
  | agg p group =>
    by_cases samePod : p = pod
    · simp [Place.neighbors, towardHost, hopsTo, List.filter_map, Function.comp_def, samePod,
        filter_range_eq inLayer]
    · simp [Place.neighbors, towardHost, hopsTo, List.filter_map, Function.comp_def, samePod]
  | edge p e =>
    by_cases samePod : p = pod
    · by_cases sameRack : e = rack
      · simp [Place.neighbors, towardHost, hopsTo, List.filter_map, Function.comp_def, samePod,
          sameRack, filter_range_eq atRack]
      · simp [Place.neighbors, towardHost, hopsTo, List.filter_map, Function.comp_def, samePod,
          sameRack]
    · simp [Place.neighbors, towardHost, hopsTo, List.filter_map, Function.comp_def, samePod]
  | host p e i =>
    by_cases samePod : p = pod <;> by_cases sameRack : e = rack <;>
      by_cases sameHost : i = index <;>
      simp [Place.neighbors, towardHost, hopsTo, samePod, sameRack, sameHost]

theorem mem_towardHost (inTree : u.InTree pods half)
    (inTreeHost : (Place.host pod rack index).InTree pods half) :
    v ∈ u.towardHost half pod rack index ↔ v.InTree pods half ∧ (Uplink u v ∨ Uplink v u) ∧
      u.hopsTo pod rack index = v.hopsTo pod rack index + 1 := by
  rw [← filter_neighbors inTreeHost, List.mem_filter, mem_neighbors inTree, decide_eq_true_eq,
    and_assoc]

theorem towardHost_ne_nil (positive : 0 < half) (apart : u ≠ .host pod rack index) :
    u.towardHost half pod rack index ≠ [] := by
  have up : ∀ upper : ℕ → Place, (List.range half).map upper ≠ [] := by
    intro upper none
    rw [List.map_eq_nil_iff, List.range_eq_nil] at none
    exact positive.ne' none
  cases u with
  | core group i => exact List.cons_ne_nil _ _
  | agg p group =>
    rw [towardHost]
    split
    · exact List.cons_ne_nil _ _
    · exact up _
  | edge p e =>
    rw [towardHost]
    split
    · exact List.cons_ne_nil _ _
    · exact up _
  | host p e i =>
    rw [towardHost, if_neg]
    · exact List.cons_ne_nil _ _
    · rintro ⟨rfl, rfl, rfl⟩
      exact apart rfl

/-! ## 2. Distances -/

section

variable {t : Topology} (made : Topology.ofBlueprint (build arity).blueprint = .ok t)
include made

theorem adj_node_iff (inTree : u.InTree arity (arity / 2)) {node : ℕ} :
    t.graph.simple.Adj (u.node (arity / 2)) node ↔
      ∃ v ∈ u.neighbors arity (arity / 2), v.node (arity / 2) = node := by
  rw [Graph.adj_simple]
  show node ∈ (t.neighbors (u.node (arity / 2))).toList ↔ _
  rw [toList_neighbors made inTree, List.mem_map]

theorem node_lt_size (inTree : u.InTree arity (arity / 2)) : u.node (arity / 2) < t.size := by
  rw [size_build made]
  exact node_lt inTree

theorem dist_node (inTreeHost : (Place.host pod rack index).InTree arity (arity / 2))
    (inTree : u.InTree arity (arity / 2)) :
    t.graph.simple.Reachable (u.node (arity / 2)) ((Place.host pod rack index).node (arity / 2)) ∧
      t.graph.simple.dist (u.node (arity / 2)) ((Place.host pod rack index).node (arity / 2)) =
        u.hopsTo pod rack index := by
  have positive : 0 < arity / 2 := Nat.zero_lt_of_lt inTreeHost.2.1
  -- the graph knows ids only, so the height of an id is that of its place
  let height (id : ℕ) : ℕ := (Place.ofNode (arity / 2) id).hopsTo pod rack index
  have height_node : ∀ {v : Place}, v.InTree arity (arity / 2) →
      height (v.node (arity / 2)) = v.hopsTo pod rack index := fun inTreeOther =>
    congrArg (Place.hopsTo pod rack index) (ofNode_node inTreeOther)
  have slope : ∀ a b, t.graph.simple.Adj a b → height a ≤ height b + 1 := by
    intro a b adjacent
    obtain ⟨v, inTreeV, rfl⟩ := exists_place made (Graph.lt_size_of_adj adjacent).1
    obtain ⟨w, listed, rfl⟩ := (adj_node_iff made inTreeV).1 adjacent
    obtain ⟨inTreeW, linked⟩ := (mem_neighbors inTreeV).1 listed
    rw [height_node inTreeV, height_node inTreeW]
    exact linked.elim (fun up => up.hopsTo_le.1) (fun down => down.hopsTo_le.2)
  have descent : ∀ a < t.size, a ≠ (Place.host pod rack index).node (arity / 2) →
      ∃ b, t.graph.simple.Adj a b ∧ b < t.size ∧ height a = height b + 1 := by
    intro a inRange apart
    obtain ⟨v, inTreeV, rfl⟩ := exists_place made inRange
    have elsewhere : v ≠ .host pod rack index := by
      rintro rfl
      exact apart rfl
    obtain ⟨w, listed⟩ := List.exists_mem_of_ne_nil _ (towardHost_ne_nil positive elsewhere)
    obtain ⟨inTreeW, linked, closer⟩ := (mem_towardHost inTreeV inTreeHost).1 listed
    refine ⟨w.node (arity / 2), (adj_node_iff made inTreeV).2
      ⟨w, (mem_neighbors inTreeV).2 ⟨inTreeW, linked⟩, rfl⟩, node_lt_size made inTreeW, ?_⟩
    rw [height_node inTreeV, height_node inTreeW, closer]
  have ground : height ((Place.host pod rack index).node (arity / 2)) = 0 :=
    (height_node inTreeHost).trans hopsTo_host
  rw [← height_node inTree]
  exact Graph.dist_eq_height slope ground descent (node_lt_size made inTree)

/-- A node that is no switch is a host, which has one link. -/
theorem eq_of_adj_of_not_mem_switches {node a b : ℕ}
    (outside : node ∉ (build arity).blueprint.switches) (adjacent : t.graph.simple.Adj node a)
    (adjacentOther : t.graph.simple.Adj node b) : a = b := by
  obtain ⟨v, inTree, rfl⟩ := exists_place made (Graph.lt_size_of_adj adjacent).1
  rw [node_mem_switches_iff inTree, not_not] at outside
  cases v with
  | host pod rack i =>
    obtain ⟨w, listed, rfl⟩ := (adj_node_iff made inTree).1 adjacent
    obtain ⟨w', listed', rfl⟩ := (adj_node_iff made inTree).1 adjacentOther
    rw [List.mem_singleton.1 listed, List.mem_singleton.1 listed']
  | edge | agg | core => cases outside

omit made in
theorem mul_half (even : isArity arity = true) :
    arity * (arity / 2) = 2 * (arity / 2 * (arity / 2)) :=
  (congrArg (· * (arity / 2)) (eq_two_mul_half even)).trans (Nat.mul_assoc _ _ _)

omit made in
theorem length_switches_build (even : isArity arity = true) :
    (build arity).blueprint.switches.length = 5 * (arity / 2 * (arity / 2)) := by
  have layer := mul_half even
  rw [switches_build, List.length_map, length_switchPlaces]
  omega

theorem size_eq_of_isArity (even : isArity arity = true) :
    t.size = 5 * (arity / 2 * (arity / 2)) + 2 * (arity / 2 * (arity / 2) * (arity / 2)) := by
  calc t.size = arity / 2 * (arity / 2) + 2 * (arity * (arity / 2)) +
        arity * (arity / 2) * (arity / 2) := by rw [size_build made, podSize]; ring
    _ = _ := by rw [mul_half even]; ring

/-- A path has switches only between its ends, and of these there are few beside the hosts. -/
theorem pathsFit_build (even : isArity arity = true) (small : t.size * t.size < Word.wordBound) :
    t.graph.PathsFit := by
  have size := size_eq_of_isArity made even
  have few : t.size < 2 ^ 32 := by
    by_contra many
    have large := Nat.mul_le_mul (Nat.not_lt.1 many) (Nat.not_lt.1 many)
    rw [Word.wordBound, UInt64.size] at small
    omega
  intro a b path isPath
  cases path with
  | nil => simp
  | cons adjacent rest =>
    have bounded := Graph.length_le_of_leaves
      (fun _ _ outside _ _ => eq_of_adj_of_not_mem_switches made outside) isPath
      (Graph.lt_size_of_adj adjacent).1
    rw [length_switches_build even] at bounded
    rw [UInt32.size]
    -- with three hosts at an edge switch or more, there are more hosts than switches
    by_cases wide : 3 ≤ arity / 2
    · have hosts := Nat.mul_le_mul_left (arity / 2 * (arity / 2)) wide
      omega
    · have narrow := Nat.lt_succ_iff.1 (Nat.not_le.1 wide)
      have cores := Nat.mul_le_mul narrow narrow
      omega

/-! ## 3. The table -/

variable {config : Config} {table : NextHops}

theorem get_node (fit : t.graph.PathsFit) (built : NextHops.ofGraph t.graph config = .ok table)
    (inTree : u.InTree arity (arity / 2))
    (inTreeHost : (Place.host pod rack index).InTree arity (arity / 2)) :
    table.get (u.node (arity / 2)) ((Place.host pod rack index).node (arity / 2)) =
      (u.towardHost (arity / 2) pod rack index).map (node (arity / 2)) := by
  have ascending := (t.neighbors (u.node (arity / 2))).ascending.sublist
    (NextHops.get_sublist built (u.node (arity / 2)) ((Place.host pod rack index).node (arity / 2)))
  have ascendingPlaces := (pairwise_neighbors inTree).sublist
    ((List.filter_sublist (p := fun v =>
      decide (u.hopsTo pod rack index = v.hopsTo pod rack index + 1))).map (node (arity / 2)))
  rw [filter_neighbors inTreeHost] at ascendingPlaces
  refine ascending.eq_of_mem_iff ascendingPlaces fun node => ?_
  rw [NextHops.mem_get_iff_dist fit built, (dist_node made inTreeHost inTree).2, List.mem_map]
  constructor
  · rintro ⟨adjacent, -, closer⟩
    obtain ⟨v, listed, rfl⟩ := (adj_node_iff made inTree).1 adjacent
    obtain ⟨inTreeV, linked⟩ := (mem_neighbors inTree).1 listed
    rw [(dist_node made inTreeHost inTreeV).2] at closer
    exact ⟨v, (mem_towardHost inTree inTreeHost).2 ⟨inTreeV, linked, closer⟩, rfl⟩
  · rintro ⟨v, listed, rfl⟩
    obtain ⟨inTreeV, linked, closer⟩ := (mem_towardHost inTree inTreeHost).1 listed
    obtain ⟨connected, far⟩ := dist_node made inTreeHost inTreeV
    exact ⟨(adj_node_iff made inTree).2 ⟨v, (mem_neighbors inTree).2 ⟨inTreeV, linked⟩, rfl⟩,
      connected, by rw [far, closer]⟩

end

end Multipath.FatTree
