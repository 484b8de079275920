import Multipath.Proofs.FatTree.NextHops
import Multipath.Proofs.Route.Paths

/-!
# Routes between the hosts of a fat tree

Whatever next hops are taken, a packet goes up as far as it must and then down to its host
(`LeadsTo`). How long that is, and whether a core switch is on the way, is read off the place where
it starts.

Results:
1. `LeadsTo.length_eq`, `LeadsTo.core_iff`, `LeadsTo.eq_or_eq`: the length of a route, its core
   switches and its hosts.
2. `exists_leadsTo`: following the table of next hops is such a route.
3. `exists_hostRoutes`: the next hops toward every host, and the paths between hosts.
-/

namespace Multipath.FatTree

open Place

variable {arity pods half pod rack index : ℕ} {u v : Place} {places : List Place}

/-! ## 1. Routes place by place -/

/-- The places on a way to a host, each of them toward the host from the one before. -/
inductive LeadsTo (half pod rack index : ℕ) : Place → List Place → Prop
  | arrived : LeadsTo half pod rack index (.host pod rack index) [.host pod rack index]
  | hop {u v : Place} {places : List Place} (toward : v ∈ u.towardHost half pod rack index)
      (further : LeadsTo half pod rack index v places) :
      LeadsTo half pod rack index u (u :: places)

/-- What one hop of a route can be. -/
inductive Hop (pod rack index : ℕ) : Place → Place → Prop
  | down (group i : ℕ) : Hop pod rack index (.core group i) (.agg pod group)
  | toRack (group : ℕ) : Hop pod rack index (.agg pod group) (.edge pod rack)
  | toHost : Hop pod rack index (.edge pod rack) (.host pod rack index)
  | up {p : ℕ} (group i : ℕ) (otherPod : p ≠ pod) : Hop pod rack index (.agg p group) (.core group i)
  | across (p e i : ℕ) : Hop pod rack index (.edge p e) (.agg p i)
  | leave (p e i : ℕ) : Hop pod rack index (.host p e i) (.edge p e)

theorem hop_of_mem_towardHost (toward : v ∈ u.towardHost half pod rack index) :
    Hop pod rack index u v := by
  cases u with
  | core group i =>
    obtain rfl := List.mem_singleton.1 toward
    exact .down group i
  | agg p group =>
    rw [towardHost] at toward
    split at toward
    · next samePod =>
      obtain rfl := List.mem_singleton.1 toward
      exact samePod ▸ .toRack group
    · next otherPod =>
      obtain ⟨i, -, rfl⟩ := List.mem_map.1 toward
      exact .up group i otherPod
  | edge p e =>
    rw [towardHost] at toward
    split at toward
    · next sameRack =>
      obtain ⟨rfl, rfl⟩ := sameRack
      obtain rfl := List.mem_singleton.1 toward
      exact .toHost
    · obtain ⟨i, -, rfl⟩ := List.mem_map.1 toward
      exact .across p e i
  | host p e i =>
    rw [towardHost] at toward
    split at toward
    · cases toward
    · obtain rfl := List.mem_singleton.1 toward
      exact .leave p e i

/-- The pod of a place; a core switch belongs to all of them. -/
def Place.pod? : Place → Option ℕ
  | .core _ _ => none
  | .edge pod _ => some pod
  | .agg pod _ => some pod
  | .host pod _ _ => some pod

/-- The pod is left only for a core switch, and a core switch only for the pod of the host. -/
theorem Hop.pod?_ne_iff (hop : Hop pod rack index u v) :
    u.pod? ≠ some pod ↔ u.tier = 3 ∨ v.pod? ≠ some pod := by
  cases hop <;> simp_all [pod?, tier]

theorem Hop.eq_host (hop : Hop pod rack index u v) (host : v.tier = 0) :
    v = .host pod rack index := by
  cases hop with
  | toHost => rfl
  | down | toRack | up | across | leave => cases host

theorem LeadsTo.length_eq (leads : LeadsTo half pod rack index u places)
    (inTreeHost : (Place.host pod rack index).InTree pods half) (inTree : u.InTree pods half) :
    places.length = u.hopsTo pod rack index + 1 := by
  induction leads with
  | arrived => rw [hopsTo_host, List.length_singleton]
  | hop toward further ih =>
    obtain ⟨inTreeNext, -, closer⟩ := (mem_towardHost inTree inTreeHost).1 toward
    rw [List.length_cons, ih inTreeNext, closer]

theorem LeadsTo.core_iff (leads : LeadsTo half pod rack index u places) :
    (∃ v ∈ places, v.tier = 3) ↔ u.pod? ≠ some pod := by
  induction leads with
  | arrived => simp [pod?, tier]
  | hop toward further ih =>
    rw [(hop_of_mem_towardHost toward).pod?_ne_iff, ← ih, List.exists_mem_cons_iff]

/-- Only the ends of a route may be hosts. -/
theorem LeadsTo.eq_or_eq (leads : LeadsTo half pod rack index u places) :
    ∀ w ∈ places, w.tier = 0 → w = u ∨ w = .host pod rack index := by
  induction leads with
  | arrived =>
    intro w visited host
    exact Or.inl (List.mem_singleton.1 visited)
  | hop toward further ih =>
    intro w visited host
    cases List.mem_cons.1 visited with
    | inl first => exact Or.inl first
    | inr later =>
      cases ih w later host with
      | inl next =>
        subst next
        exact Or.inr ((hop_of_mem_towardHost toward).eq_host host)
      | inr last => exact Or.inr last

/-! ## 2. Routes node by node -/

/-- A walk along the table that ends at the host leads to it. -/
theorem exists_leadsTo {t : Topology} {config : Config} {table : NextHops}
    (made : Topology.ofBlueprint (build arity).blueprint = .ok t) (fit : t.graph.PathsFit)
    (built : NextHops.ofGraph t.graph config = .ok table)
    (inTreeHost : (Place.host pod rack index).InTree arity (arity / 2)) {path : List ℕ} :
    ∀ {u : Place}, u.InTree arity (arity / 2) → path.head? = some (u.node (arity / 2)) →
      path.getLast? = some ((Place.host pod rack index).node (arity / 2)) →
      path.IsChain (fun node next =>
        next ∈ table.get node ((Place.host pod rack index).node (arity / 2))) →
      ∃ places, LeadsTo (arity / 2) pod rack index u places ∧
        (∀ v ∈ places, v.InTree arity (arity / 2)) ∧ places.map (node (arity / 2)) = path := by
  -- only the first node has to be known as a place: the table gives the place of the next one
  induction path with
  | nil => exact fun _ starts => nomatch starts
  | cons first rest ih =>
    intro u inTree starts ends chain
    obtain rfl : first = u.node (arity / 2) := Option.some.inj starts
    cases rest with
    | nil =>
      obtain rfl := (node_inj inTree inTreeHost).1 (Option.some.inj ends)
      exact ⟨[.host pod rack index], .arrived, List.forall_mem_singleton.2 inTree, rfl⟩
    | cons next rest =>
      rw [List.isChain_cons_cons, get_node made fit built inTree inTreeHost] at chain
      obtain ⟨listed, chain⟩ := chain
      obtain ⟨v, toward, rfl⟩ := List.mem_map.1 listed
      obtain ⟨places, leads, inTrees, same⟩ :=
        ih ((mem_towardHost inTree inTreeHost).1 toward).1 rfl (by simpa using ends) chain
      exact ⟨u :: places, .hop toward leads, List.forall_mem_cons.2 ⟨inTree, inTrees⟩,
        by rw [List.map_cons, same]⟩

/-! ## 3. Hosts -/

/-- The way of a packet from a host in rack `e` of pod `p` to one in rack `rack` of pod `pod`. -/
structure HostPath (tree : FatTree) (p e pod rack source host : ℕ) (path : List ℕ) : Prop where
  length : path.length = if p = pod then if e = rack then 3 else 5 else 7
  core : (∃ node ∈ path, node ∈ tree.coreSwitches) ↔ p ≠ pod
  hosts : ∀ node ∈ path, node ∈ tree.hosts → node = source ∨ node = host

theorem hostPath_of_leadsTo {p e i : ℕ}
    (leads : LeadsTo (arity / 2) pod rack index (.host p e i) places)
    (inTrees : ∀ v ∈ places, v.InTree arity (arity / 2))
    (inTree : (Place.host p e i).InTree arity (arity / 2))
    (inTreeHost : (Place.host pod rack index).InTree arity (arity / 2))
    (apart : Place.host p e i ≠ .host pod rack index) :
    (build arity).HostPath p e pod rack ((Place.host p e i).node (arity / 2))
      ((Place.host pod rack index).node (arity / 2)) (places.map (node (arity / 2))) where
  length := by
    rw [List.length_map, leads.length_eq inTreeHost inTree, hopsTo]
    split_ifs with samePod sameRack sameHost
    · exact absurd (by rw [samePod, sameRack, sameHost]) apart
    · rfl
    · rfl
    · rfl
  core := by
    have cores : (∃ v ∈ places, v.tier = 3) ↔ p ≠ pod := leads.core_iff.trans (by simp [pod?])
    rw [← cores]
    constructor
    · rintro ⟨node, visited, isCore⟩
      obtain ⟨v, inPlaces, rfl⟩ := List.mem_map.1 visited
      exact ⟨v, inPlaces, (node_mem_coreSwitches_iff (inTrees v inPlaces)).1 isCore⟩
    · rintro ⟨v, inPlaces, isCore⟩
      exact ⟨_, List.mem_map_of_mem inPlaces,
        (node_mem_coreSwitches_iff (inTrees v inPlaces)).2 isCore⟩
  hosts := by
    intro node visited isHost
    obtain ⟨v, inPlaces, rfl⟩ := List.mem_map.1 visited
    cases leads.eq_or_eq v inPlaces ((node_mem_servers_iff (inTrees v inPlaces)).1 isHost) with
    | inl first => exact Or.inl (congrArg _ first)
    | inr last => exact Or.inr (congrArg _ last)

/-- In a fat tree that is routed, with a matrix of distances that can be addressed, the next hops
toward a host lead up until its pod and rack are reached, by all the ways there are, and then down.
The path of a flow between two hosts has 3, 5 or 7 nodes, depending on what they share, with a core
switch among them only between pods and no other host. -/
theorem exists_hostRoutes {config : Config} (even : isArity arity = true)
    (addressable : (build arity).blueprint.nodeCount * (build arity).blueprint.nodeCount <
      Word.wordBound)
    (allowed : (build arity).blueprint.nodeCount ≤ config.maxNodes) :
    ∃ t table, ofArity? arity = some (build arity) ∧
      Topology.ofBlueprint (build arity).blueprint = .ok t ∧
      NextHops.ofGraph t.graph config = .ok table ∧
      ((build arity).blueprint.edgeCount ≤ 16121856 → ∃ r, Router.ofTopology t config = .ok r) ∧
      ∀ pod rack index host, (Place.host pod rack index).InTree arity (arity / 2) →
        (build arity).host? pod rack index = some host →
        (∀ place : Place, place.InTree arity (arity / 2) →
          ∀ node, (build arity).find? place = some node →
            (table.get node host).map some =
              (place.towardHost (arity / 2) pod rack index).map (build arity).find?) ∧
        ∀ r, Router.ofTopology t config = .ok r → ∀ p e i source,
          (Place.host p e i).InTree arity (arity / 2) → (build arity).host? p e i = some source →
          source ≠ host → ∀ flow, ∃ path, r.path? source host flow = .ok (some path) ∧
            (build arity).HostPath p e pod rack source host path := by
  obtain ⟨t, made, realizes⟩ := Topology.exists_realizes (valid_build arity)
  rw [← realizes.size] at addressable allowed
  have fit := pathsFit_build made even addressable
  obtain ⟨d, computed, -⟩ := Distances.ofGraph_eq_ok fit allowed
  have built := NextHops.ofGraph_eq_ok_iff.2 ⟨d, computed, rfl⟩
  have countable : (build arity).blueprint.nodeCount < Word.wordBound := by
    rw [← realizes.size]
    exact (Nat.le_mul_self t.size).trans_lt addressable
  refine ⟨t, _, ofArity?_eq_build even countable, made, built, fun few => ?_, ?_⟩
  · rw [← realizes.edgeCount_eq (valid_build arity)] at few
    exact Router.exists_ofTopology few allowed
  intro pod rack index host inTreeHost atHost
  obtain rfl := Option.some.inj ((find?_build inTreeHost).symm.trans atHost)
  refine ⟨fun place inTree node found => ?_, fun r madeRouter p e i source inTree atSource apart => ?_⟩
  · obtain rfl := Option.some.inj ((find?_build inTree).symm.trans found)
    rw [get_node made fit built inTree inTreeHost, List.map_map]
    exact List.map_congr_left fun v toward =>
      (find?_build ((mem_towardHost inTree inTreeHost).1 toward).1).symm
  · intro flow
    obtain rfl := Option.some.inj ((find?_build inTree).symm.trans atSource)
    obtain ⟨connected, -⟩ := dist_node made inTreeHost inTree
    obtain ⟨w, shortest, walked⟩ :=
      Router.path?_eq_support madeRouter (node_lt_size made inTree) connected flow
    obtain ⟨places, leads, inTrees, same⟩ := exists_leadsTo made fit built inTreeHost inTree
      (by rw [List.head?_eq_some_head w.support_ne_nil, w.head_support])
      (by rw [List.getLast?_eq_some_getLast w.support_ne_nil, w.getLast_support])
      (NextHops.isChain_of_shortest fit built w shortest)
    refine ⟨w.support, walked, same ▸ hostPath_of_leadsTo leads inTrees inTree inTreeHost ?_⟩
    exact fun sameHost => apart (congrArg _ sameHost)

/-- With four pods, host 8 reaches host 9 through their rack and host 35 through the core, by
either aggregation switch of its pod. -/
theorem four_pods_hostRoutes : isArity 4 = true ∧
    (build 4).blueprint.nodeCount * (build 4).blueprint.nodeCount < Word.wordBound ∧
    (build 4).blueprint.nodeCount ≤ ({} : Config).maxNodes ∧
    ∃ t table r, Topology.ofBlueprint (build 4).blueprint = .ok t ∧
      NextHops.ofGraph t.graph {} = .ok table ∧ Router.ofTopology t {} = .ok r ∧
      table.get 4 35 = [6, 7] ∧ ∀ flow,
        (∃ path, r.path? 8 9 flow = .ok (some path) ∧ path.length = 3) ∧
        ∃ path, r.path? 8 35 flow = .ok (some path) ∧ path.length = 7 := by
  have even : isArity 4 = true := by decide
  have addressable : (build 4).blueprint.nodeCount * (build 4).blueprint.nodeCount <
      Word.wordBound := by decide
  have allowed : (build 4).blueprint.nodeCount ≤ ({} : Config).maxNodes := by decide
  obtain ⟨t, table, -, made, built, routable, routes⟩ := exists_hostRoutes even addressable allowed
  obtain ⟨r, madeRouter⟩ := routable (by decide)
  have toFar := routes 3 1 1 35 (by decide) (by decide)
  have toNear := routes 0 0 1 9 (by decide) (by decide)
  have choice : (table.get 4 35).map some = [6, 7].map some :=
    (toFar.1 (.edge 0 0) (by decide) 4 (by decide)).trans (by decide)
  refine ⟨even, addressable, allowed, t, table, r, made, built, madeRouter,
    List.map_injective_iff.2 (Option.some_injective _) choice, fun flow => ⟨?_, ?_⟩⟩
  · obtain ⟨path, found, hostPath⟩ :=
      toNear.2 r madeRouter 0 0 0 8 (by decide) (by decide) (by decide) flow
    exact ⟨path, found, hostPath.length⟩
  · obtain ⟨path, found, hostPath⟩ :=
      toFar.2 r madeRouter 0 0 0 8 (by decide) (by decide) (by decide) flow
    exact ⟨path, found, hostPath.length⟩

end Multipath.FatTree
