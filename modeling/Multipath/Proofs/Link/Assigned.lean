import Multipath.Proofs.Link.Lookup

/-!
# Addresses of interfaces

An installed link has two ends, each with a node, an interface of it and an address. Addresses
ascend from link to link, and the interfaces of a node are counted up, so neither an address nor an
interface is given twice. The address plan then says for both which end they belong to.

Results:
1. `nodup_address_of_install`, `nodup_interface_of_install`: no end shares its address or its
   interface with another.
2. `resolve?_eq_some_iff`, `size_ofLinks`, `address?_eq_some_iff`: the plan knows every end, and
   nothing else.
3. `resolve?_eq_some_iff_address?`: an address resolves to the node that has it at an interface.
4. `resolve?_unknownSource`: the placeholder for an unknown source is no node's address.
-/

namespace Multipath

/-! ## 1. Ends of links -/

namespace LinkTable

/-- The ends of all links, in the order in which they get their addresses. -/
def linkEnds (table : LinkTable) : List LinkEnd := table.links.flatMap Link.linkEnds

theorem mem_linkEnds_iff {table : LinkTable} {side : LinkEnd} :
    side ∈ table.linkEnds ↔ ∃ link ∈ table.links, ∃ far, link.Between side far := by
  rw [linkEnds, List.mem_flatMap]
  refine exists_congr fun link => and_congr_right fun _ => ?_
  rw [Link.linkEnds, List.mem_pair]
  constructor
  · rintro (lower | upper)
    · exact ⟨link.upper, Or.inl ⟨lower, rfl⟩⟩
    · exact ⟨link.lower, Or.inr ⟨upper, rfl⟩⟩
  · rintro ⟨far, ⟨lower, -⟩ | ⟨upper, -⟩⟩
    · exact Or.inl lower
    · exact Or.inr upper

theorem length_linkEnds (table : LinkTable) : table.linkEnds.length = 2 * table.links.length := by
  have two : (fun link => (Link.linkEnds link).length) = fun _ => 2 := rfl
  rw [linkEnds, List.length_flatMap, two, List.map_const', List.sum_replicate, smul_eq_mul,
    Nat.mul_comm]

theorem bits_of_hosts? {id : ℕ} {hosts : Address × Address} (found : hosts? id = some hosts) :
    hosts.1.bits.toNat = baseNetwork + 256 * id + 1 ∧
      hosts.2.bits.toNat = baseNetwork + 256 * id + 2 := by
  unfold hosts? at found
  dsimp only at found
  split at found
  · next fits =>
    cases found
    exact ⟨UInt32.toNat_ofNat_of_lt' (Nat.lt_of_succ_lt fits), UInt32.toNat_ofNat_of_lt' fits⟩
  · cases found

/-- The first host of a network has 1 as its last octet, the second one 2. -/
def IsHost (address : Address) : Prop :=
  address.bits.toNat % 256 = 1 ∨ address.bits.toNat % 256 = 2

instance (address : Address) : Decidable (IsHost address) :=
  inferInstanceAs (Decidable (address.bits.toNat % 256 = 1 ∨ address.bits.toNat % 256 = 2))

/-- Every link has higher addresses than the links before. -/
theorem pairwise_address_of_installFrom {edges : List (ℕ × ℕ)} {used : Array ℕ} {id : ℕ}
    {links : List Link} (installed : installFrom used id edges = .ok links) :
    (links.flatMap Link.linkEnds).Pairwise (·.address.bits.toNat < ·.address.bits.toNat) ∧
      ∀ side ∈ links.flatMap Link.linkEnds,
        baseNetwork + 256 * id < side.address.bits.toNat ∧ IsHost side.address := by
  induction edges generalizing used id links with
  | nil =>
    cases installed
    simp
  | cons edge rest ih =>
    obtain ⟨hosts, others, found, further, rfl⟩ := installFrom_cons installed
    obtain ⟨first, second⟩ := bits_of_hosts? found
    obtain ⟨ascending, later⟩ := ih further
    -- networks are 256 addresses apart, so the next one starts behind both hosts of this one
    have behind : ∀ side ∈ others.flatMap Link.linkEnds,
        hosts.2.bits.toNat < side.address.bits.toNat := by
      intro side listed
      have above := (later side listed).1
      omega
    simp only [Link.flatMap_linkEnds_cons, List.pairwise_cons, List.forall_mem_cons]
    refine ⟨⟨⟨by omega, fun side listed => ?_⟩, behind, ascending⟩, ⟨by omega, Or.inl ?_⟩,
      ⟨by omega, Or.inr ?_⟩, fun side listed => ?_⟩
    · have above := behind side listed
      omega
    · rw [first, baseNetwork]
      omega
    · rw [second, baseNetwork]
      omega
    · obtain ⟨above, host⟩ := later side listed
      exact ⟨by omega, host⟩

/-- The next interface of a node is behind the ones it has, and all others come later. -/
theorem nodup_interface_of_installFrom {edges : List (ℕ × ℕ)} {used : Array ℕ} {id : ℕ}
    {links : List Link} (inRange : ∀ edge ∈ edges, edge.1 < edge.2 ∧ edge.2 < used.size)
    (installed : installFrom used id edges = .ok links) :
    ((links.flatMap Link.linkEnds).map fun side => (side.node, side.interface)).Nodup := by
  induction edges generalizing used id links with
  | nil =>
    cases installed
    exact List.nodup_nil
  | cons edge rest ih =>
    obtain ⟨hosts, others, -, further, rfl⟩ := installFrom_cons installed
    obtain ⟨⟨ascending, -⟩, restInRange⟩ := List.forall_mem_cons.1 inRange
    rw [← size_counted used edge] at restInRange
    have later := lt_interface_of_installFrom restInRange further
    have fresh : ∀ node, (node, (counted used edge)[node]?.getD 0) ∉
        (others.flatMap Link.linkEnds).map fun side => (side.node, side.interface) := by
      intro node listed
      obtain ⟨side, inOthers, same⟩ := List.mem_map.1 listed
      obtain ⟨rfl, count⟩ := Prod.mk.inj same
      exact (later side inOthers).ne count.symm
    rw [Link.flatMap_linkEnds_cons, List.map_cons, List.map_cons, List.nodup_cons,
      List.nodup_cons, List.mem_cons, not_or]
    exact ⟨⟨fun same => ascending.ne (Prod.mk.inj same).1, fresh edge.1⟩, fresh edge.2,
      ih restInRange further⟩

variable {g : Graph} {table : LinkTable}

theorem pairwise_address_of_install (installed : install g = .ok table) :
    table.linkEnds.Pairwise (·.address.bits.toNat < ·.address.bits.toNat) :=
  (pairwise_address_of_installFrom (installFrom_of_install installed)).1

theorem nodup_address_of_install (installed : install g = .ok table) :
    (table.linkEnds.map (·.address)).Nodup := by
  refine List.pairwise_map.2 ((pairwise_address_of_install installed).imp fun less same => ?_)
  exact less.ne (congrArg (·.bits.toNat) same)

theorem isHost_of_install (installed : install g = .ok table) :
    ∀ side ∈ table.linkEnds, IsHost side.address := fun side listed =>
  ((pairwise_address_of_installFrom (installFrom_of_install installed)).2 side listed).2

theorem nodup_interface_of_install (installed : install g = .ok table) :
    (table.linkEnds.map fun side => (side.node, side.interface)).Nodup :=
  nodup_interface_of_installFrom (edges_inRange g) (installFrom_of_install installed)

theorem lt_size_of_mem_linkEnds (installed : install g = .ok table) :
    ∀ side ∈ table.linkEnds, side.node < g.size := by
  intro side listed
  obtain ⟨link, inTable, far, between⟩ := mem_linkEnds_iff.1 listed
  have edge : link.ends ∈ g.edges :=
    map_ends_of_install installed ▸ List.mem_map_of_mem inTable
  obtain ⟨lower, upper⟩ := Graph.lt_size_of_mem_edges edge
  rcases between with ⟨rfl, -⟩ | ⟨rfl, -⟩
  · exact lower
  · exact upper

end LinkTable

/-! ## 2. The address plan -/

namespace Addresses

/-- A map of the plan that gets an entry from each end of a link has the entries of all ends. -/
theorem map_foldl_addLink {α β : Type} {cmp : α → α → Ordering} [Std.TransCmp cmp]
    (map : Addresses → Std.ExtTreeMap α β cmp) {entry : LinkEnd → α × β}
    (added : ∀ plan near far, map (addEnd plan near far) =
      (map plan).insert (entry near).1 (entry near).2) (links : List Link) (plan : Addresses) :
    map (links.foldl addLink plan) =
      (map plan).insertMany ((links.flatMap Link.linkEnds).map entry) := by
  induction links generalizing plan with
  | nil => simp
  | cons link rest ih =>
    rw [List.foldl_cons, ih, Link.flatMap_linkEnds_cons, List.map_cons, List.map_cons,
      Std.ExtTreeMap.insertMany_cons, Std.ExtTreeMap.insertMany_cons, addLink, added, added]

/-- What an end enters as its owner. -/
def ownerEntry (side : LinkEnd) : Address × ℕ := (side.address, side.node)

theorem owner_ofLinks (table : LinkTable) :
    (ofLinks table).owner =
      (∅ : Std.ExtTreeMap Address ℕ).insertMany (table.linkEnds.map ownerEntry) :=
  map_foldl_addLink Addresses.owner (fun _ _ _ => rfl) table.links empty

variable {g : Graph} {table : LinkTable} (installed : LinkTable.install g = .ok table)
include installed

theorem nodup_fst_map_ownerEntry : ((table.linkEnds.map ownerEntry).map Prod.fst).Nodup := by
  rw [List.map_map]
  exact LinkTable.nodup_address_of_install installed

theorem resolve?_eq_some_iff {address : Address} {node : ℕ} :
    (ofLinks table).resolve? address = some node ↔
      ∃ side ∈ table.linkEnds, side.address = address ∧ side.node = node := by
  have distinct := nodup_fst_map_ownerEntry installed
  rw [resolve?, owner_ofLinks, getElem?_insertMany_eq_some_iff distinct, List.mem_map]
  simp only [ownerEntry, Prod.mk.injEq]

theorem size_ofLinks : (ofLinks table).size = table.linkEnds.length := by
  rw [size, owner_ofLinks, size_insertMany (nodup_fst_map_ownerEntry installed), List.length_map]

theorem address?_eq_some_iff {node interface : ℕ} {address : Address} :
    (ofLinks table).address? node interface = some address ↔
      ∃ side ∈ table.linkEnds, side.node = node ∧ side.interface = interface ∧
        side.address = address := by
  have distinct : ((table.linkEnds.map fun side =>
      ((side.node, side.interface), side.address)).map Prod.fst).Nodup := by
    rw [List.map_map]
    exact LinkTable.nodup_interface_of_install installed
  have stored : (ofLinks table).interface = (∅ : PairMap Address).insertMany
      (table.linkEnds.map fun side => ((side.node, side.interface), side.address)) :=
    map_foldl_addLink Addresses.interface (fun _ _ _ => rfl) table.links empty
  rw [address?, stored, getElem?_insertMany_eq_some_iff distinct, List.mem_map]
  simp only [Prod.mk.injEq, and_assoc]

theorem resolve?_eq_some_iff_address? {address : Address} {node : ℕ} :
    (ofLinks table).resolve? address = some node ↔
      ∃ interface, (ofLinks table).address? node interface = some address := by
  rw [resolve?_eq_some_iff installed]
  simp only [address?_eq_some_iff installed]
  constructor
  · rintro ⟨side, listed, rfl, rfl⟩
    exact ⟨side.interface, side, listed, rfl, rfl, rfl⟩
  · rintro ⟨interface, side, listed, rfl, -, rfl⟩
    exact ⟨side, listed, rfl, rfl⟩

theorem lt_size_of_resolve? {address : Address} {node : ℕ}
    (resolved : (ofLinks table).resolve? address = some node) : node < g.size := by
  obtain ⟨side, listed, -, rfl⟩ := (resolve?_eq_some_iff installed).1 resolved
  exact LinkTable.lt_size_of_mem_linkEnds installed side listed

theorem resolve?_unknownSource : (ofLinks table).resolve? unknownSource = none := by
  rw [Option.eq_none_iff_forall_ne_some]
  intro node resolved
  obtain ⟨side, listed, same, -⟩ := (resolve?_eq_some_iff installed).1 resolved
  have host := LinkTable.isHost_of_install installed side listed
  rw [same] at host
  exact absurd host (by decide)

end Addresses

end Multipath
