import Multipath.Link.Addresses
import Multipath.Link.Interfaces
import Multipath.Proofs.Link.Entries
import Multipath.Proofs.Link.Installed

/-!
# Looking up interfaces and gateways

Interfaces are stored by position: pair `i` belongs to edge `i` of a graph. Gateways are stored
by the nodes of the link itself. Both maps get one entry for each direction, and none of them
is overwritten.

Results:
1. `get?_eq_some_iff`: the interface of a node toward another one is its component of the pair
   at the position of their edge.
2. `gateway?_eq_some_iff`: the gateway toward a node is its address on the link that joins them.
-/

namespace Multipath

/-! ## 1. Interfaces -/

namespace Interfaces

/-- What an edge and its pair of interfaces enter, one entry for each direction. -/
def entries (paired : (ℕ × ℕ) × (ℕ × ℕ)) : List ((ℕ × ℕ) × ℕ) :=
  [(paired.1, paired.2.1), (paired.1.swap, paired.2.2)]

/-- Without a loopback among the interfaces all entries are made, in order. -/
theorem addFrom_eq_ok_iff {known result : PairMap ℕ} {link : ℕ}
    {paired : List ((ℕ × ℕ) × (ℕ × ℕ))} :
    addFrom known link paired = .ok result ↔
      (∀ pair ∈ paired.map Prod.snd, pair.1 ≠ loopback ∧ pair.2 ≠ loopback) ∧
        known.insertMany (paired.flatMap entries) = result := by
  induction paired generalizing known link with
  | nil => simp [addFrom]
  | cons first rest ih =>
    obtain ⟨⟨a, b⟩, ⟨ifA, ifB⟩⟩ := first
    rw [addFrom]
    split
    · next refused =>
      simp only [reduceCtorEq, List.map_cons, List.forall_mem_cons, false_iff, not_and]
      rintro ⟨⟨keptA, keptB⟩, -⟩
      exact absurd refused (by simp [keptA, keptB])
    · next kept =>
      rw [not_or] at kept
      rw [ih, List.map_cons, List.forall_mem_cons, List.flatMap_cons, entries, List.cons_append,
        List.cons_append, List.nil_append, Std.ExtTreeMap.insertMany_cons,
        Std.ExtTreeMap.insertMany_cons]
      simp only [kept, not_false_eq_true, ne_eq, and_self, true_and, Prod.swap_prod_mk]

variable {g : Graph} {pairs : List (ℕ × ℕ)} {interfaces : Interfaces}

theorem ofPairs_eq_ok_iff :
    ofPairs g pairs = .ok interfaces ↔ g.edges.length = pairs.length ∧
      (∀ pair ∈ pairs, pair.1 ≠ loopback ∧ pair.2 ≠ loopback) ∧
      interfaces.toward = (∅ : PairMap ℕ).insertMany ((g.edges.zip pairs).flatMap entries) := by
  unfold ofPairs
  dsimp only
  split
  · next sameLength =>
    have seconds : (g.edges.zip pairs).map Prod.snd = pairs :=
      List.map_snd_zip (Nat.le_of_eq sameLength.symm)
    have added := @addFrom_eq_ok_iff ∅ interfaces.toward 0 (g.edges.zip pairs)
    rw [seconds] at added
    rw [eq_comm (a := interfaces.toward), ← added]
    simp only [sameLength, true_and]
    cases addFrom ∅ 0 (g.edges.zip pairs) with
    | error fault => simp [Except.map]
    | ok result =>
      simp only [Except.map, Except.ok.injEq]
      constructor
      · rintro rfl
        rfl
      · rintro rfl
        rfl
  · next different => simp [different]

/-- The links of any graph are taken, as long as there are as many of them as edges. -/
theorem exists_ofPairs {g' : Graph} {table : LinkTable}
    (installed : LinkTable.install g' = .ok table) (sameCount : g.edges.length = g'.edges.length) :
    ∃ interfaces, ofPairs g table.interfacePairs = .ok interfaces := by
  refine ⟨⟨_⟩, ofPairs_eq_ok_iff.2
    ⟨sameCount.trans (LinkTable.length_interfacePairs installed).symm, fun pair inPairs => ?_, rfl⟩⟩
  obtain ⟨link, listed, rfl⟩ := List.mem_map.1 inPairs
  exact LinkTable.interface_ne_zero_of_install installed link listed

theorem map_fst_flatMap_entries (paired : List ((ℕ × ℕ) × (ℕ × ℕ))) :
    (paired.flatMap entries).map Prod.fst =
      (paired.map Prod.fst).flatMap fun edge => [edge, edge.swap] := by
  rw [List.map_flatMap, List.flatMap_map]
  rfl

/-- The directions of edges are distinct keys. -/
theorem nodup_fst_flatMap_entries (sameLength : g.edges.length = pairs.length) :
    (((g.edges.zip pairs).flatMap entries).map Prod.fst).Nodup := by
  rw [map_fst_flatMap_entries, List.map_fst_zip (Nat.le_of_eq sameLength)]
  exact Graph.nodup_flatMap_directions g.nodup_edges (fun _ => Graph.lt_of_mem_edges)
    fun edge => List.Perm.refl _

/-- Every edge enters both of its directions. -/
theorem size_of_ofPairs (built : ofPairs g pairs = .ok interfaces) :
    interfaces.size = 2 * g.edges.length := by
  obtain ⟨sameLength, -, stored⟩ := ofPairs_eq_ok_iff.1 built
  have two : (fun paired => (entries paired).length) = fun _ => 2 := rfl
  rw [size, stored, size_insertMany (nodup_fst_flatMap_entries sameLength), List.length_flatMap,
    two, List.map_const', List.sum_replicate, List.length_zip, ← sameLength, Nat.min_self,
    smul_eq_mul, Nat.mul_comm]

/-- The interface toward a node is the component of the pair at their edge that belongs to the
side it is asked for. -/
theorem get?_eq_some_iff (built : ofPairs g pairs = .ok interfaces) {node neighbor interface : ℕ} :
    interfaces.get? node neighbor = some interface ↔
      ∃ edge pair, (edge, pair) ∈ g.edges.zip pairs ∧
        (edge = (node, neighbor) ∧ pair.1 = interface ∨
          edge = (neighbor, node) ∧ pair.2 = interface) := by
  obtain ⟨sameLength, -, stored⟩ := ofPairs_eq_ok_iff.1 built
  have distinct := nodup_fst_flatMap_entries sameLength
  rw [get?, stored, getElem?_insertMany_eq_some_iff distinct, List.mem_flatMap]
  simp only [entries, List.mem_cons, List.not_mem_nil, or_false, Prod.mk.injEq]
  constructor
  · rintro ⟨⟨edge, pair⟩, paired, ⟨rfl, rfl⟩ | ⟨swapped, rfl⟩⟩
    · exact ⟨_, pair, paired, Or.inl ⟨rfl, rfl⟩⟩
    · exact ⟨edge, pair, paired, Or.inr ⟨Prod.swap_eq_iff_eq_swap.1 swapped.symm, rfl⟩⟩
  · rintro ⟨edge, pair, paired, ⟨rfl, rfl⟩ | ⟨rfl, rfl⟩⟩
    · exact ⟨_, paired, Or.inl ⟨rfl, rfl⟩⟩
    · exact ⟨_, paired, Or.inr ⟨rfl, rfl⟩⟩

end Interfaces

/-! ## 2. Gateways -/

namespace Addresses

/-- The gateways that a link enters, one for each direction. -/
def gateways (link : Link) : List ((ℕ × ℕ) × Address) :=
  [(link.ends.swap, link.lower.address), (link.ends, link.upper.address)]

theorem gateway_foldl_addLink (links : List Link) (plan : Addresses) :
    (links.foldl addLink plan).gateway = plan.gateway.insertMany (links.flatMap gateways) := by
  induction links generalizing plan with
  | nil => simp
  | cons link rest ih =>
    rw [List.foldl_cons, ih, List.flatMap_cons, gateways, List.cons_append, List.cons_append,
      List.nil_append, Std.ExtTreeMap.insertMany_cons, Std.ExtTreeMap.insertMany_cons]
    rfl

theorem map_fst_flatMap_gateways (links : List Link) :
    (links.flatMap gateways).map Prod.fst =
      (links.map Link.ends).flatMap fun edge => [edge.swap, edge] := by
  rw [List.map_flatMap, List.flatMap_map]
  rfl

/-- The gateway toward a neighbor is the neighbor's address on the link between the two. -/
theorem gateway?_eq_some_iff {table : LinkTable} (simple : table.Simple) {node neighbor : ℕ}
    {address : Address} :
    (ofLinks table).gateway? node neighbor = some address ↔
      ∃ link ∈ table.links, ∃ near far, link.Between near far ∧ near.node = node ∧
        far.node = neighbor ∧ far.address = address := by
  have distinct : ((table.links.flatMap gateways).map Prod.fst).Nodup := by
    rw [map_fst_flatMap_gateways]
    exact Graph.nodup_flatMap_directions simple.nodup simple.ascending
      fun edge => List.Perm.swap _ _ _
  have stored : (ofLinks table).gateway =
      (∅ : PairMap Address).insertMany (table.links.flatMap gateways) :=
    gateway_foldl_addLink table.links empty
  rw [gateway?, stored, getElem?_insertMany_eq_some_iff distinct, List.mem_flatMap]
  simp only [gateways, Link.ends, Prod.swap_prod_mk, List.mem_cons, List.not_mem_nil, or_false,
    Prod.mk.injEq, Link.Between]
  constructor
  · rintro ⟨link, listed, ⟨⟨rfl, rfl⟩, rfl⟩ | ⟨⟨rfl, rfl⟩, rfl⟩⟩
    · exact ⟨link, listed, _, _, Or.inr ⟨rfl, rfl⟩, rfl, rfl, rfl⟩
    · exact ⟨link, listed, _, _, Or.inl ⟨rfl, rfl⟩, rfl, rfl, rfl⟩
  · rintro ⟨link, listed, near, far, ⟨rfl, rfl⟩ | ⟨rfl, rfl⟩, rfl, rfl, rfl⟩
    · exact ⟨link, listed, Or.inr ⟨⟨rfl, rfl⟩, rfl⟩⟩
    · exact ⟨link, listed, Or.inl ⟨⟨rfl, rfl⟩, rfl⟩⟩

end Addresses

end Multipath
