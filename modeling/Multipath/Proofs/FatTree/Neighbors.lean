import Multipath.Proofs.FatTree.Wiring
import Multipath.Proofs.Topology.Rearranged

/-!
# The topology of a fat tree

`Place.neighbors` lists the other ends of the links at a place in the order of their ids. These
are the neighbors of its node, so switches have as many neighbors as the tree has pods.

Results:
1. `mem_neighbors`, `pairwise_neighbors`: the other ends of the links, in order.
2. `toList_neighbors`: the topology of a fat tree has these neighbors.
3. `exists_wired`: a fat tree is accepted, and sizes, lookups, neighbors and roles are as they
   should be.
-/

namespace Multipath.FatTree

open Place

variable {arity pods half : ℕ} {u v : Place}

/-! ## 1. Neighbors -/

/-- The places at the other ends of the links, in the order of their ids. -/
def Place.neighbors (pods half : ℕ) : Place → List Place
  | .host pod rack _ => [.edge pod rack]
  | .edge pod rack => (List.range half).map (.agg pod) ++ (List.range half).map (.host pod rack)
  | .agg pod group => (List.range half).map (.core group) ++ (List.range half).map (.edge pod)
  | .core group _ => (List.range pods).map (.agg · group)

theorem mem_neighbors (inTree : u.InTree pods half) :
    v ∈ u.neighbors pods half ↔ v.InTree pods half ∧ (Uplink u v ∨ Uplink v u) := by
  constructor
  · intro listed
    cases u with
    | host pod rack i =>
      obtain rfl := List.mem_singleton.1 listed
      exact ⟨⟨inTree.1, inTree.2.1⟩, Or.inl (.host pod rack i)⟩
    | edge pod rack =>
      cases List.mem_append.1 listed with
      | inl up =>
        obtain ⟨i, small, rfl⟩ := List.mem_map.1 up
        exact ⟨⟨inTree.1, List.mem_range.1 small⟩, Or.inl (.edge pod rack i)⟩
      | inr down =>
        obtain ⟨i, small, rfl⟩ := List.mem_map.1 down
        exact ⟨⟨inTree.1, inTree.2, List.mem_range.1 small⟩, Or.inr (.host pod rack i)⟩
    | agg pod group =>
      cases List.mem_append.1 listed with
      | inl up =>
        obtain ⟨i, small, rfl⟩ := List.mem_map.1 up
        exact ⟨⟨inTree.2, List.mem_range.1 small⟩, Or.inl (.agg pod group i)⟩
      | inr down =>
        obtain ⟨i, small, rfl⟩ := List.mem_map.1 down
        exact ⟨⟨inTree.1, List.mem_range.1 small⟩, Or.inr (.edge pod i group)⟩
    | core group i =>
      obtain ⟨pod, small, rfl⟩ := List.mem_map.1 listed
      exact ⟨⟨List.mem_range.1 small, inTree.1⟩, Or.inr (.agg pod group i)⟩
  · rintro ⟨inTreeOther, up | down⟩
    · cases up with
      | host pod rack i => exact List.mem_singleton.2 rfl
      | edge pod rack i =>
        exact List.mem_append_left _ (List.mem_map_of_mem (List.mem_range.2 inTreeOther.2))
      | agg pod group i =>
        exact List.mem_append_left _ (List.mem_map_of_mem (List.mem_range.2 inTreeOther.2))
    · cases down with
      | host pod rack i =>
        exact List.mem_append_right _ (List.mem_map_of_mem (List.mem_range.2 inTreeOther.2.2))
      | edge pod rack i =>
        exact List.mem_append_right _ (List.mem_map_of_mem (List.mem_range.2 inTreeOther.2))
      | agg pod group i =>
        exact List.mem_map_of_mem (f := (Place.agg · group)) (List.mem_range.2 inTreeOther.1)

/-- Of two rows of nodes the one with the lower ids comes first. -/
theorem pairwise_rows {count countOther : ℕ} {row other : ℕ → Place}
    (ascending : ∀ i j, i < j → (row i).node half < (row j).node half)
    (ascendingOther : ∀ i j, i < j → (other i).node half < (other j).node half)
    (below : ∀ i < count, ∀ j, (row i).node half < (other j).node half) :
    (((List.range count).map row ++ (List.range countOther).map other).map
      (node half)).Pairwise (· < ·) := by
  rw [List.map_append, List.map_map, List.map_map, List.pairwise_append, List.pairwise_map,
    List.pairwise_map]
  refine ⟨List.pairwise_lt_range.imp (ascending _ _), List.pairwise_lt_range.imp
    (ascendingOther _ _), fun first listed second listedOther => ?_⟩
  obtain ⟨i, small, rfl⟩ := List.mem_map.1 listed
  obtain ⟨j, -, rfl⟩ := List.mem_map.1 listedOther
  exact below i (List.mem_range.1 small) j

theorem pairwise_neighbors (inTree : u.InTree pods half) :
    ((u.neighbors pods half).map (node half)).Pairwise (· < ·) := by
  cases u with
  | host pod rack i => exact List.pairwise_singleton _ _
  | edge pod rack =>
    refine pairwise_rows ?_ ?_ ?_ <;> intro i j less <;> simp only [node, aggId, hostId] <;> omega
  | agg pod group =>
    refine pairwise_rows ?_ ?_ fun i small j => ?_
    · intro i j less
      simp only [node, coreId]
      omega
    · intro i j less
      simp only [node, edgeId]
      omega
    · calc coreId half group i < half * half := Rows.cell_lt inTree.2 small
        _ ≤ podStart half pod := Nat.le_add_right _ _
        _ ≤ edgeId half pod j := Nat.le_add_right _ _
  | core group i =>
    obtain ⟨inGroups, -⟩ := inTree
    show (((List.range pods).map (Place.agg · group)).map (node half)).Pairwise (· < ·)
    rw [List.map_map, List.pairwise_map]
    refine List.pairwise_lt_range.imp fun {pod later} less => ?_
    have start : podStart half pod < podStart half later :=
      Nat.add_lt_add_left (Nat.mul_lt_mul_of_pos_right less (by omega)) _
    simp only [Function.comp_apply, node, aggId]
    omega

variable {t : Topology}

theorem realizes_build (made : Topology.ofBlueprint (build arity).blueprint = .ok t) :
    t.Realizes (build arity).blueprint := (Topology.ofBlueprint_eq_ok_iff.1 made).2

theorem size_build (made : Topology.ofBlueprint (build arity).blueprint = .ok t) :
    t.size = arity / 2 * (arity / 2) + arity * podSize (arity / 2) :=
  (realizes_build made).size.trans nodeCount_build

theorem toList_neighbors (made : Topology.ofBlueprint (build arity).blueprint = .ok t)
    (inTree : u.InTree arity (arity / 2)) :
    (t.neighbors (u.node (arity / 2))).toList =
      (u.neighbors arity (arity / 2)).map (node (arity / 2)) := by
  refine (t.neighbors _).ascending.eq_of_mem_iff (pairwise_neighbors inTree) fun other => ?_
  rw [NodeSet.mem_toList, (realizes_build made).neighbors, edges_build]
  constructor
  · rintro (up | down)
    · obtain ⟨⟨low, high⟩, present, same⟩ := List.mem_map.1 up
      obtain ⟨inTreeLow, inTreeHigh, linked⟩ := mem_uplinks.1 present
      obtain ⟨atLow, rfl⟩ := Prod.mk.inj same
      obtain rfl := (node_inj inTreeLow inTree).1 atLow
      exact List.mem_map_of_mem ((mem_neighbors inTree).2 ⟨inTreeHigh, Or.inl linked⟩)
    · obtain ⟨⟨low, high⟩, present, same⟩ := List.mem_map.1 down
      obtain ⟨inTreeLow, inTreeHigh, linked⟩ := mem_uplinks.1 present
      obtain ⟨rfl, atHigh⟩ := Prod.mk.inj same
      obtain rfl := (node_inj inTreeHigh inTree).1 atHigh
      exact List.mem_map_of_mem ((mem_neighbors inTree).2 ⟨inTreeLow, Or.inr linked⟩)
  · intro listed
    obtain ⟨v, present, rfl⟩ := List.mem_map.1 listed
    obtain ⟨inTreeOther, up | down⟩ := (mem_neighbors inTree).1 present
    · exact Or.inl (List.mem_map.2 ⟨(u, v), mem_uplinks.2 ⟨inTree, inTreeOther, up⟩, rfl⟩)
    · exact Or.inr (List.mem_map.2 ⟨(v, u), mem_uplinks.2 ⟨inTreeOther, inTree, down⟩, rfl⟩)

/-! ## 2. The topology -/

/-- Every node has a place. -/
theorem exists_place (made : Topology.ofBlueprint (build arity).blueprint = .ok t) {id : ℕ}
    (inRange : id < t.size) : ∃ u : Place, u.InTree arity (arity / 2) ∧ u.node (arity / 2) = id := by
  have shared := rolesShareNodes_build arity
  rw [(realizes_build made).size] at inRange
  cases shared.mem_switches_or_mem_servers inRange with
  | inl inSwitches =>
    rw [switches_build] at inSwitches
    obtain ⟨u, present, same⟩ := List.mem_map.1 inSwitches
    exact ⟨u, (mem_switchPlaces.1 present).1, same⟩
  | inr inServers =>
    rw [servers_build] at inServers
    obtain ⟨u, present, same⟩ := List.mem_map.1 inServers
    exact ⟨u, (mem_hostPlaces.1 present).1, same⟩

/-- The tree and the topology have the sizes, places, neighbors and roles of a fat tree. -/
structure Wired (tree : FatTree) (t : Topology) : Prop where
  cores : tree.coreSwitches.length = tree.half ^ 2
  aggs : tree.aggSwitches.length = tree.arity * tree.half
  edges : tree.edgeSwitches.length = tree.arity * tree.half
  hosts : tree.hosts.length = tree.arity * tree.half ^ 2
  links : t.edgeCount = 3 * tree.arity * tree.half ^ 2
  found : ∀ place : Place, place.InTree tree.arity tree.half →
    ∃ node < t.size, tree.find? place = some node
  placed : ∀ node < t.size, ∃! place : Place,
    place.InTree tree.arity tree.half ∧ tree.find? place = some node
  neighbors : ∀ place : Place, place.InTree tree.arity tree.half →
    ∀ node, tree.find? place = some node →
      (t.neighbors node).toList.map some = (place.neighbors tree.arity tree.half).map tree.find?
  degree : ∀ node, t.isSwitch node = true → (t.neighbors node).size = tree.arity
  endpoints : t.endpoints.Holds tree.hosts

theorem length_neighbors (even : isArity arity = true) (switch : u.tier ≠ 0) :
    (u.neighbors arity (arity / 2)).length = arity := by
  have twice : arity / 2 + arity / 2 = arity := by
    rw [← Nat.two_mul, ← eq_two_mul_half even]
  cases u with
  | host pod rack i => exact absurd rfl switch
  | edge pod rack => simpa [Place.neighbors] using twice
  | agg pod group => simpa [Place.neighbors] using twice
  | core group i => simp [Place.neighbors]

/-- Flows start and end at the hosts, of which there are some. -/
theorem holds_endpoints (even : isArity arity = true)
    (made : Topology.ofBlueprint (build arity).blueprint = .ok t) :
    t.endpoints.Holds (build arity).hosts := by
  have realizes := realizes_build made
  have servers : t.servers.Holds (build arity).hosts := by
    intro node
    rw [Topology.servers, NodeSet.mem_below, realizes.isServer]
    refine and_iff_right_of_imp fun inServers => realizes.size ▸ ?_
    exact ((rolesShareNodes_build arity).listed _ (by simp)).1 node inServers
  have positive : 0 < arity / 2 := Nat.div_pos (isArity_iff.1 even).1 Nat.two_pos
  have inTree : (Place.host 0 0 0).InTree arity (arity / 2) :=
    ⟨positive.trans_le (Nat.div_le_self arity 2), positive, positive⟩
  have someServer : t.hasNoServers = false := by
    have listed := (servers _).2 ((node_mem_servers_iff inTree).2 rfl)
    exact List.isEmpty_eq_false_iff.2 (List.ne_nil_of_mem listed)
  rw [Topology.endpoints, someServer]
  exact servers

/-- A fat tree of even arity whose nodes can be counted is built and accepted. Its layers have
the sizes they should have, the lookups give each node at one place, and each place has its
neighbors in order. All switches have as many neighbors as the tree has pods, and flows start and
end at the hosts. -/
theorem exists_wired (even : isArity arity = true)
    (countable : (build arity).blueprint.nodeCount < Word.wordBound) :
    ofArity? arity = some (build arity) ∧
      ∃ t, Topology.ofBlueprint (build arity).blueprint = .ok t ∧ (build arity).Wired t := by
  obtain ⟨t, made, realizes⟩ := Topology.exists_realizes (valid_build arity)
  refine ⟨ofArity?_eq_build even countable, t, made, ?_, ?_, ?_, ?_, ?_, ?_, ?_, ?_, ?_,
    holds_endpoints even made⟩
  · show ((pairs _ _).map _).length = (arity / 2) ^ 2
    rw [List.length_map, length_pairs, sq]
  · show ((pairs _ _).map _).length = arity * (arity / 2)
    rw [List.length_map, length_pairs]
  · show ((pairs _ _).map _).length = arity * (arity / 2)
    rw [List.length_map, length_pairs]
  · show (build arity).blueprint.servers.length = arity * (arity / 2) ^ 2
    rw [servers_build, List.length_map, hostPlaces, List.length_map, length_triples]
    ring
  · show t.edgeCount = 3 * arity * (arity / 2) ^ 2
    rw [realizes.edgeCount_eq (valid_build arity), (valid_build arity).counted, edges_build,
      List.length_map, uplinks]
    simp only [List.length_append, List.length_map, length_triples]
    ring
  · intro place inTree
    refine ⟨place.node (arity / 2), ?_, find?_build inTree⟩
    rw [size_build made]
    exact node_lt inTree
  · intro node inRange
    obtain ⟨place, inTree, rfl⟩ := exists_place made inRange
    refine ⟨place, ⟨inTree, find?_build inTree⟩, ?_⟩
    rintro other ⟨(inTreeOther : other.InTree arity (arity / 2)), found⟩
    rw [find?_build inTreeOther, Option.some.injEq] at found
    exact (node_inj inTreeOther inTree).1 found
  · intro place (inTree : place.InTree arity (arity / 2)) node found
    rw [find?_build inTree, Option.some.injEq] at found
    rw [← found, toList_neighbors made inTree, List.map_map]
    exact List.map_congr_left fun v listed =>
      (find?_build ((mem_neighbors inTree).1 listed).1).symm
  · intro node isSwitch
    rw [realizes.isSwitch, switches_build] at isSwitch
    obtain ⟨place, listed, rfl⟩ := List.mem_map.1 isSwitch
    obtain ⟨inTree, switch⟩ := mem_switchPlaces.1 listed
    rw [NodeSet.size, toList_neighbors made inTree, List.length_map]
    exact length_neighbors even switch

/-- With four pods there are 48 links, and core switch 2 is linked to the second aggregation
switch of each pod. -/
theorem four_pods_wired : isArity 4 = true ∧ (build 4).blueprint.nodeCount < Word.wordBound ∧
    ∃ t, Topology.ofBlueprint (build 4).blueprint = .ok t ∧ t.edgeCount = 48 ∧
      (t.neighbors 2).toList = [7, 15, 23, 31] := by
  have even : isArity 4 = true := by decide
  have countable : (build 4).blueprint.nodeCount < Word.wordBound := by decide
  obtain ⟨-, t, made, wired⟩ := exists_wired even countable
  have listed := wired.neighbors (.core 1 0) (by decide) 2 (by decide)
  refine ⟨even, countable, t, made, wired.links, List.map_injective_iff.2 (Option.some_injective _) ?_⟩
  exact listed.trans (by decide)

end Multipath.FatTree
