import Mathlib.Tactic.Ring
import Multipath.Proofs.FatTree.Places
import Multipath.Proofs.Topology.Accepted

/-!
# The wiring of a fat tree

Links lead upward, from a host to its edge switch, from there to every aggregation switch of the
pod, and from these to the core switches of their group. `Uplink` says which places are linked.

Results:
1. `mem_uplinks`, `nodup_uplinks`: the links that are built are those, each of them once.
2. `nodeCount?_eq_some_iff`, `ofArity?_eq_build`: the tree has as many nodes as were counted before.
3. `valid_build`: its blueprint is that of a topology.
-/

namespace Multipath.FatTree

open Place

/-! ## 1. Layers and links, place by place -/

variable {pods half : ℕ} {u v : Place}

/-- Two indices of a layer with one for a link or a host there. -/
def triples (pods half : ℕ) : List ((ℕ × ℕ) × ℕ) := pairs pods half ×ˢ List.range half

theorem mem_triples {i j l : ℕ} :
    ((i, j), l) ∈ triples pods half ↔ i < pods ∧ j < half ∧ l < half := by
  rw [triples, List.mem_product, mem_pairs, List.mem_range, and_assoc]

theorem nodup_triples (pods half : ℕ) : (triples pods half).Nodup :=
  List.Nodup.product (nodup_pairs pods half) List.nodup_range

theorem length_triples (pods half : ℕ) : (triples pods half).length = pods * half * half := by
  rw [triples, List.length_product, length_pairs, List.length_range]

theorem flatMap_pairs {α : Type} (item : ℕ → ℕ → ℕ → α) :
    ((pairs pods half).flatMap fun (i, j) => (List.range half).map (item i j)) =
      (triples pods half).map fun ((i, j), l) => item i j l := by
  show _ = ((pairs pods half).flatMap fun pair => (List.range half).map (Prod.mk pair)).map _
  rw [List.map_flatMap]
  simp only [List.map_map]
  rfl

def corePlaces (half : ℕ) : List Place := (pairs half half).map fun (group, i) => .core group i

def edgePlaces (pods half : ℕ) : List Place := (pairs pods half).map fun (pod, i) => .edge pod i

def switchPlaces (pods half : ℕ) : List Place :=
  corePlaces half ++ (pairs pods half).map (fun (pod, i) => .agg pod i) ++ edgePlaces pods half

def hostPlaces (pods half : ℕ) : List Place :=
  (triples pods half).map fun ((pod, rack), i) => .host pod rack i

/-- A host has a link to its edge switch, an edge switch to every aggregation switch of its pod,
and an aggregation switch to every core switch of its group. -/
inductive Uplink : Place → Place → Prop
  | host (pod rack index : ℕ) : Uplink (.host pod rack index) (.edge pod rack)
  | edge (pod rack index : ℕ) : Uplink (.edge pod rack) (.agg pod index)
  | agg (pod group index : ℕ) : Uplink (.agg pod group) (.core group index)

/-- The links in the order in which they are built, each from its lower end. -/
def uplinks (pods half : ℕ) : List (Place × Place) :=
  (triples pods half).map (fun ((pod, rack), i) => (.host pod rack i, .edge pod rack)) ++
    (triples pods half).map (fun ((pod, rack), i) => (.edge pod rack, .agg pod i)) ++
    (triples pods half).map fun ((pod, group), i) => (.agg pod group, .core group i)

/-- Layers from the hosts up. -/
def Place.tier : Place → ℕ
  | .host .. => 0
  | .edge .. => 1
  | .agg .. => 2
  | .core .. => 3

theorem Uplink.tier_eq (linked : Uplink u v) : v.tier = u.tier + 1 := by
  cases linked <;> rfl

theorem mem_corePlaces : u ∈ corePlaces half ↔ u.InTree pods half ∧ u.tier = 3 := by
  cases u <;> simp [corePlaces, mem_pairs, InTree, tier]

theorem mem_edgePlaces : u ∈ edgePlaces pods half ↔ u.InTree pods half ∧ u.tier = 1 := by
  cases u <;> simp [edgePlaces, mem_pairs, InTree, tier]

theorem mem_switchPlaces : u ∈ switchPlaces pods half ↔ u.InTree pods half ∧ u.tier ≠ 0 := by
  cases u <;> simp [switchPlaces, corePlaces, edgePlaces, mem_pairs, InTree, tier]

theorem mem_hostPlaces : u ∈ hostPlaces pods half ↔ u.InTree pods half ∧ u.tier = 0 := by
  cases u <;> simp [hostPlaces, mem_triples, InTree, tier]

theorem mem_uplinks :
    (u, v) ∈ uplinks pods half ↔ u.InTree pods half ∧ v.InTree pods half ∧ Uplink u v := by
  unfold uplinks
  simp only [List.mem_append, List.mem_map, Prod.exists, Prod.mk.injEq, mem_triples]
  constructor
  · rintro ((⟨pod, rack, i, ⟨inPods, inLayer, small⟩, rfl, rfl⟩ |
      ⟨pod, rack, i, ⟨inPods, inLayer, small⟩, rfl, rfl⟩) |
      ⟨pod, group, i, ⟨inPods, inLayer, small⟩, rfl, rfl⟩)
    · exact ⟨⟨inPods, inLayer, small⟩, ⟨inPods, inLayer⟩, .host pod rack i⟩
    · exact ⟨⟨inPods, inLayer⟩, ⟨inPods, small⟩, .edge pod rack i⟩
    · exact ⟨⟨inPods, inLayer⟩, ⟨inLayer, small⟩, .agg pod group i⟩
  · rintro ⟨inTree, inTreeOther, linked⟩
    cases linked with
    | host pod rack i => exact Or.inl (Or.inl ⟨pod, rack, i, inTree, rfl, rfl⟩)
    | edge pod rack i =>
      exact Or.inl (Or.inr ⟨pod, rack, i, ⟨inTree.1, inTree.2, inTreeOther.2⟩, rfl, rfl⟩)
    | agg pod group i =>
      exact Or.inr ⟨pod, group, i, ⟨inTree.1, inTree.2, inTreeOther.2⟩, rfl, rfl⟩

/-- Two lists have nothing in common when their items come from different constructors. -/
theorem disjoint_map {α β γ : Type} {items : List α} {others : List β} {make : α → γ}
    {makeOther : β → γ} (apart : ∀ item other, make item ≠ makeOther other) :
    (items.map make).Disjoint (others.map makeOther) := by
  intro made listed listedOther
  obtain ⟨item, -, rfl⟩ := List.mem_map.1 listed
  obtain ⟨other, -, same⟩ := List.mem_map.1 listedOther
  exact apart item other same.symm

theorem nodup_switchPlaces (pods half : ℕ) : (switchPlaces pods half).Nodup := by
  have cores : (corePlaces half).Nodup :=
    (nodup_pairs half half).map (by rintro ⟨_, _⟩ ⟨_, _⟩ ⟨⟩; rfl)
  have aggs := (nodup_pairs pods half).map (f := fun (pod, i) => Place.agg pod i)
    (by rintro ⟨_, _⟩ ⟨_, _⟩ ⟨⟩; rfl)
  have edges : (edgePlaces pods half).Nodup :=
    (nodup_pairs pods half).map (by rintro ⟨_, _⟩ ⟨_, _⟩ ⟨⟩; rfl)
  refine (cores.append aggs (disjoint_map nofun)).append edges ?_
  exact List.disjoint_append_left.2 ⟨disjoint_map nofun, disjoint_map nofun⟩

theorem nodup_hostPlaces (pods half : ℕ) : (hostPlaces pods half).Nodup :=
  (nodup_triples pods half).map (by rintro ⟨⟨_, _⟩, _⟩ ⟨⟨_, _⟩, _⟩ ⟨⟩; rfl)

theorem nodup_uplinks (pods half : ℕ) : (uplinks pods half).Nodup := by
  refine List.Nodup.append (List.Nodup.append ?_ ?_ (disjoint_map nofun)) ?_
    (List.disjoint_append_left.2 ⟨disjoint_map nofun, disjoint_map nofun⟩) <;>
  exact (nodup_triples pods half).map (by rintro ⟨⟨_, _⟩, _⟩ ⟨⟨_, _⟩, _⟩ ⟨⟩; rfl)

/-! ## 2. Nodes -/

variable {arity : ℕ}

theorem node_lt (inTree : u.InTree pods half) : u.node half < half * half + pods * podSize half := by
  have inPod : ∀ pod < pods, ∀ offset < podSize half,
      podStart half pod + offset < half * half + pods * podSize half := fun pod inPods offset small =>
    Nat.add_assoc _ _ _ ▸ Nat.add_lt_add_left (Rows.cell_lt inPods small) _
  cases u with
  | core group i =>
    obtain ⟨inGroups, inGroup⟩ := inTree
    exact Nat.lt_add_right _ (Rows.cell_lt inGroups inGroup)
  | edge pod i =>
    obtain ⟨inPods, inLayer⟩ := inTree
    exact inPod pod inPods i (by unfold podSize; omega)
  | agg pod i =>
    obtain ⟨inPods, inLayer⟩ := inTree
    rw [Place.node, aggId, Nat.add_assoc]
    exact inPod pod inPods _ (by unfold podSize; omega)
  | host pod rack i =>
    obtain ⟨inPods, inLayer, atRack⟩ := inTree
    rw [Place.node, hostId, Nat.add_assoc, Nat.add_assoc]
    exact inPod pod inPods _ (Nat.add_lt_add_left (Rows.cell_lt inLayer atRack) _)

theorem coreSwitches_build :
    (build arity).coreSwitches = (corePlaces (arity / 2)).map (node (arity / 2)) := by
  unfold corePlaces
  rw [List.map_map]
  rfl

theorem switches_build :
    (build arity).blueprint.switches = (switchPlaces arity (arity / 2)).map (node (arity / 2)) := by
  unfold switchPlaces corePlaces edgePlaces
  simp only [List.map_append, List.map_map]
  rfl

theorem tors_build :
    (build arity).blueprint.tors = (edgePlaces arity (arity / 2)).map (node (arity / 2)) := by
  unfold edgePlaces
  rw [List.map_map]
  rfl

theorem servers_build :
    (build arity).blueprint.servers = (hostPlaces arity (arity / 2)).map (node (arity / 2)) := by
  unfold hostPlaces
  rw [List.map_map]
  exact flatMap_pairs _

/-- The ids at both ends of a link. -/
def ends (half : ℕ) (link : Place × Place) : ℕ × ℕ := (link.1.node half, link.2.node half)

theorem edges_build :
    (build arity).blueprint.edges = (uplinks arity (arity / 2)).map (ends (arity / 2)) := by
  unfold uplinks
  simp only [List.map_append, List.map_map]
  show hostLinks _ _ ++ podLinks _ _ ++ coreLinks _ _ = _
  congr 1
  · congr 1
    · exact flatMap_pairs fun pod rack i => ends _ (.host pod rack i, .edge pod rack)
    · exact flatMap_pairs fun pod rack i => ends _ (.edge pod rack, .agg pod i)
  · exact flatMap_pairs fun pod group i => ends _ (.agg pod group, .core group i)

theorem length_switchPlaces (pods half : ℕ) :
    (switchPlaces pods half).length = half * half + pods * half + pods * half := by
  simp [switchPlaces, corePlaces, edgePlaces, length_pairs, Nat.add_assoc]

theorem nodeCount_build : (build arity).blueprint.nodeCount =
    arity / 2 * (arity / 2) + arity * podSize (arity / 2) := by
  show (build arity).blueprint.switches.length + (build arity).blueprint.servers.length = _
  rw [switches_build, servers_build, List.length_map, List.length_map, length_switchPlaces,
    hostPlaces, List.length_map, length_triples, podSize]
  ring

theorem nodeCount_build_eq_sum : (build arity).blueprint.nodeCount = arity / 2 * (arity / 2) +
    arity * (arity / 2) * 2 + arity * (arity / 2) * (arity / 2) := by
  rw [nodeCount_build, podSize]
  ring

/-- Counting in words finds no overflow on the way if the count itself is a word. -/
theorem nodeCount?_eq_some (countable : (build arity).blueprint.nodeCount < Word.wordBound) :
    nodeCount? arity = some (build arity).blueprint.nodeCount := by
  rw [nodeCount_build_eq_sum] at countable ⊢
  have cores : Word.mul? (arity / 2) (arity / 2) = some _ := if_pos (by omega)
  have layer : Word.mul? arity (arity / 2) = some _ := if_pos (by omega)
  have hosts : Word.mul? (arity * (arity / 2)) (arity / 2) = some _ := if_pos (by omega)
  have layers : Word.mul? (arity * (arity / 2)) 2 = some _ := if_pos (by omega)
  have switches : Word.add? (arity / 2 * (arity / 2)) (arity * (arity / 2) * 2) = some _ :=
    if_pos (by omega)
  unfold nodeCount?
  simp only [Option.bind_eq_bind, cores, layer, hosts, layers, switches, Option.bind_some]
  exact if_pos countable

theorem nodeCount?_eq_some_iff {count : ℕ} : nodeCount? arity = some count ↔
    count < Word.wordBound ∧ count = (build arity).blueprint.nodeCount := by
  constructor
  · intro counted
    unfold nodeCount? at counted
    simp only [Option.bind_eq_bind, Option.bind_eq_some_iff, Word.add?, Word.mul?,
      Word.fit?_eq_some_iff] at counted
    obtain ⟨_, ⟨-, rfl⟩, _, ⟨-, rfl⟩, _, ⟨-, rfl⟩, _, ⟨-, rfl⟩, _, ⟨-, rfl⟩, fits, total⟩ := counted
    exact ⟨total ▸ fits, total.trans nodeCount_build_eq_sum.symm⟩
  · rintro ⟨countable, rfl⟩
    exact nodeCount?_eq_some countable

theorem nodeCount?_eq_none_iff :
    nodeCount? arity = none ↔ Word.wordBound ≤ (build arity).blueprint.nodeCount := by
  rw [Option.eq_none_iff_forall_ne_some]
  constructor
  · intro uncounted
    by_contra countable
    exact uncounted _ (nodeCount?_eq_some (Nat.not_le.1 countable))
  · intro many count counted
    obtain ⟨countable, rfl⟩ := nodeCount?_eq_some_iff.1 counted
    exact Nat.not_le.2 countable many

theorem isArity_iff : isArity arity = true ↔ 2 ≤ arity ∧ arity % 2 = 0 := by
  rw [isArity, Bool.and_eq_true, decide_eq_true_eq, beq_iff_eq]

theorem eq_two_mul_half (even : isArity arity = true) : arity = 2 * (arity / 2) := by
  have noRest := (isArity_iff.1 even).2
  omega

theorem ofArity?_eq_build (even : isArity arity = true)
    (countable : (build arity).blueprint.nodeCount < Word.wordBound) :
    ofArity? arity = some (build arity) :=
  if_pos ⟨even, by rw [nodeCount?_eq_some countable]; rfl⟩

/-! ## 3. The blueprint -/

/-- Lists of places become lists of nodes, none of them twice. -/
theorem listed_nodes {places : List Place} (distinct : places.Nodup)
    (inTree : ∀ place ∈ places, place.InTree arity (arity / 2)) :
    (∀ id ∈ places.map (node (arity / 2)), id < (build arity).blueprint.nodeCount) ∧
      (places.map (node (arity / 2))).Nodup := by
  constructor
  · intro id listed
    obtain ⟨place, present, rfl⟩ := List.mem_map.1 listed
    rw [nodeCount_build]
    exact node_lt (inTree place present)
  · exact distinct.map_on fun u inPlaces v inPlacesOther same =>
      (node_inj (inTree u inPlaces) (inTree v inPlacesOther)).1 same

/-- An id is listed when its place is. -/
theorem node_mem_map_iff {places : List Place}
    (inTree : ∀ place ∈ places, place.InTree pods half) (placed : u.InTree pods half) :
    u.node half ∈ places.map (node half) ↔ u ∈ places := by
  constructor
  · intro listed
    obtain ⟨place, present, same⟩ := List.mem_map.1 listed
    rwa [← (node_inj (inTree place present) placed).1 same]
  · exact List.mem_map_of_mem

theorem node_mem_coreSwitches_iff (inTree : u.InTree arity (arity / 2)) :
    u.node (arity / 2) ∈ (build arity).coreSwitches ↔ u.tier = 3 := by
  have inTrees : ∀ place ∈ corePlaces (arity / 2), place.InTree arity (arity / 2) :=
    fun _ listed => (mem_corePlaces.1 listed).1
  rw [coreSwitches_build, node_mem_map_iff inTrees inTree, mem_corePlaces, and_iff_right inTree]

theorem node_mem_switches_iff (inTree : u.InTree arity (arity / 2)) :
    u.node (arity / 2) ∈ (build arity).blueprint.switches ↔ u.tier ≠ 0 := by
  rw [switches_build, node_mem_map_iff (fun _ listed => (mem_switchPlaces.1 listed).1) inTree,
    mem_switchPlaces, and_iff_right inTree]

theorem node_mem_tors_iff (inTree : u.InTree arity (arity / 2)) :
    u.node (arity / 2) ∈ (build arity).blueprint.tors ↔ u.tier = 1 := by
  rw [tors_build, node_mem_map_iff (fun _ listed => (mem_edgePlaces.1 listed).1) inTree,
    mem_edgePlaces, and_iff_right inTree]

theorem node_mem_servers_iff (inTree : u.InTree arity (arity / 2)) :
    u.node (arity / 2) ∈ (build arity).blueprint.servers ↔ u.tier = 0 := by
  rw [servers_build, node_mem_map_iff (fun _ listed => (mem_hostPlaces.1 listed).1) inTree,
    mem_hostPlaces, and_iff_right inTree]

theorem rolesShareNodes_build (arity : ℕ) : (build arity).blueprint.RolesShareNodes where
  listed := by
    simp only [List.forall_mem_cons, List.not_mem_nil, false_implies, implies_true, and_true]
    rw [switches_build, tors_build, servers_build]
    have edges : (edgePlaces arity (arity / 2)).Nodup :=
      (List.nodup_append.1 (nodup_switchPlaces arity (arity / 2))).2.1
    exact ⟨listed_nodes (nodup_switchPlaces _ _) fun _ listed => (mem_switchPlaces.1 listed).1,
      listed_nodes edges fun _ listed => (mem_edgePlaces.1 listed).1,
      listed_nodes (nodup_hostPlaces _ _) fun _ listed => (mem_hostPlaces.1 listed).1⟩
  disjoint node inServers inSwitches := by
    rw [servers_build] at inServers
    obtain ⟨place, present, rfl⟩ := List.mem_map.1 inServers
    obtain ⟨inTree, host⟩ := mem_hostPlaces.1 present
    exact (node_mem_switches_iff inTree).1 inSwitches host
  tors node inTors := List.mem_append_right _ inTors
  complete := rfl

/-- A link is between different nodes, and no other link joins the same two. -/
theorem drawable_build (arity : ℕ) :
    Graph.Drawable (build arity).blueprint.nodeCount (build arity).blueprint.edges := by
  rw [edges_build, nodeCount_build]
  refine ⟨?_, ?_, ?_⟩
  · intro edge listed same
    obtain ⟨⟨u, v⟩, present, rfl⟩ := List.mem_map.1 listed
    obtain ⟨inTree, inTreeOther, linked⟩ := mem_uplinks.1 present
    have tiers := linked.tier_eq
    rw [(node_inj inTree inTreeOther).1 same] at tiers
    omega
  · intro edge listed
    obtain ⟨⟨u, v⟩, present, rfl⟩ := List.mem_map.1 listed
    obtain ⟨inTree, inTreeOther, -⟩ := mem_uplinks.1 present
    exact ⟨node_lt inTree, node_lt inTreeOther⟩
  · refine List.pairwise_map.2 ((nodup_uplinks arity (arity / 2)).imp_of_mem ?_)
    rintro ⟨u, v⟩ ⟨u', v'⟩ present presentOther apart
    obtain ⟨inTree, inTreeUp, linked⟩ := mem_uplinks.1 present
    obtain ⟨inTree', inTreeUp', linked'⟩ := mem_uplinks.1 presentOther
    constructor <;> intro same <;> obtain ⟨low, high⟩ := Prod.mk.inj same
    · exact apart (by rw [(node_inj inTree' inTree).1 low, (node_inj inTreeUp' inTreeUp).1 high])
    · -- the other way round, both links would lead upward between the same two tiers
      have tiers := linked.tier_eq
      have tiers' := linked'.tier_eq
      rw [(node_inj inTree' inTreeUp).1 low, (node_inj inTreeUp' inTree).1 high] at tiers'
      omega

theorem valid_build (arity : ℕ) : (build arity).blueprint.Valid := by
  refine ⟨rolesShareNodes_build arity, drawable_build arity, rfl, ?_⟩
  rw [edges_build]
  intro edge listed
  obtain ⟨⟨u, v⟩, present, rfl⟩ := List.mem_map.1 listed
  obtain ⟨inTree, inTreeUp, linked⟩ := mem_uplinks.1 present
  have tiers := linked.tier_eq
  simp only [ends, node_mem_servers_iff inTree, node_mem_servers_iff inTreeUp, node_mem_tors_iff inTree,
    node_mem_tors_iff inTreeUp]
  exact ⟨fun host => by omega, fun host => by omega⟩

end Multipath.FatTree
