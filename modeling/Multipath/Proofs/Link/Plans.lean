import Multipath.Proofs.Link.Ports

/-!
# Address plans

The plan of a graph's own links is filled by inserting, link after link. No end shares its address
with another one, so every interface keeps its address and every address its owner. The three maps
then agree with each other and with the interfaces by neighbor.

Results:
1. `gateway?_eq_bind`: a gateway is the address of the neighbor's interface that leads back.
2. `primary?_of_least`: the first address of a node is on the link to its least neighbor.
3. `ofLinks_installed`: all that the plan answers, for all nodes and addresses.
-/

namespace Multipath

/-- Members ascend, so the least one comes first. -/
theorem NodeSet.getElem?_zero_of_least {nodes : NodeSet} {least : ℕ} (listed : least ∈ nodes)
    (below : ∀ node ∈ nodes, least ≤ node) : nodes.toList[0]? = some least := by
  obtain ⟨members, ascending⟩ := nodes
  cases members with
  | nil => cases listed
  | cons first rest =>
    cases List.mem_cons.1 listed with
    | inl isFirst => rw [isFirst, List.getElem?_cons_zero]
    | inr inRest =>
      have less : first < least := List.rel_of_pairwise_cons ascending inRest
      exact absurd (below first List.mem_cons_self) (Nat.not_le_of_lt less)

namespace Addresses

variable {g : Graph} {table : LinkTable}

section

variable (installed : LinkTable.install g = .ok table)
include installed

/-! ## 1. Addresses and interfaces -/

theorem address?_of_between {link : Link} {near far : LinkEnd} (listed : link ∈ table.links)
    (between : link.Between near far) :
    (ofLinks table).address? near.node near.interface = some near.address :=
  (address?_eq_some_iff installed).2
    ⟨near, LinkTable.mem_linkEnds_iff.2 ⟨link, listed, far, between⟩, rfl, rfl, rfl⟩

theorem address?_injective {node interface other interfaceOther : ℕ} {address : Address}
    (known : (ofLinks table).address? node interface = some address)
    (knownOther : (ofLinks table).address? other interfaceOther = some address) :
    node = other ∧ interface = interfaceOther := by
  obtain ⟨side, listed, rfl, rfl, rfl⟩ := (address?_eq_some_iff installed).1 known
  obtain ⟨sideOther, listedOther, rfl, rfl, same⟩ := (address?_eq_some_iff installed).1 knownOther
  have nodup := LinkTable.nodup_address_of_install installed
  cases List.inj_on_of_nodup_map nodup listedOther listed same
  exact ⟨rfl, rfl⟩

/-! ## 2. Gateways and first addresses -/

variable {interfaces : Interfaces}
  (paired : Interfaces.ofPairs g table.interfacePairs = .ok interfaces)
include paired

theorem gateway?_eq_bind (node neighbor : ℕ) :
    (ofLinks table).gateway? node neighbor =
      (interfaces.get? neighbor node).bind ((ofLinks table).address? neighbor) := by
  ext address
  rw [gateway?_eq_some_iff (LinkTable.simple_of_install installed), Option.bind_eq_some_iff]
  simp only [Interfaces.get?_eq_some_iff_link installed paired]
  constructor
  · rintro ⟨link, listed, near, far, between, rfl, rfl, rfl⟩
    exact ⟨far.interface, ⟨link, listed, far, near, between.symm, rfl, rfl, rfl⟩,
      address?_of_between installed listed between.symm⟩
  · rintro ⟨interface, ⟨link, listed, near, far, between, rfl, rfl, rfl⟩, known⟩
    rw [address?_of_between installed listed between] at known
    exact ⟨link, listed, far, near, between.symm, rfl, rfl, Option.some.inj known⟩

theorem gateway?_of_hasEdge {node neighbor : ℕ} (adjacent : g.hasEdge node neighbor = true) :
    ∃ interface address, interfaces.get? neighbor node = some interface ∧
      (ofLinks table).address? neighbor interface = some address ∧
      (ofLinks table).gateway? node neighbor = some address := by
  rw [Graph.hasEdge_comm] at adjacent
  have leads : interfaces.get? neighbor node ≠ none := fun unknown =>
    Bool.false_ne_true
      (((Interfaces.get?_eq_none_iff installed paired).1 unknown).symm.trans adjacent)
  obtain ⟨interface, known⟩ := Option.ne_none_iff_exists'.1 leads
  obtain ⟨link, listed, near, far, between, rfl, rfl, rfl⟩ :=
    (Interfaces.get?_eq_some_iff_link installed paired).1 known
  have ownAddress := address?_of_between installed listed between
  refine ⟨near.interface, near.address, known, ownAddress, ?_⟩
  rw [gateway?_eq_bind installed paired, known, Option.bind_some, ownAddress]

theorem gateway?_eq_none_of_not_hasEdge {node other : ℕ} (apart : g.hasEdge node other = false) :
    (ofLinks table).gateway? node other = none := by
  rw [Graph.hasEdge_comm] at apart
  rw [gateway?_eq_bind installed paired,
    (Interfaces.get?_eq_none_iff installed paired).2 apart, Option.bind_none]

theorem primary?_of_least {node neighbor : ℕ} (adjacent : g.hasEdge node neighbor = true)
    (least : ∀ other, g.hasEdge node other = true → neighbor ≤ other) :
    ∃ link ∈ table.links, ∃ near far, link.Between near far ∧ near.node = node ∧
      far.node = neighbor ∧ (ofLinks table).primary? node = some near.address := by
  have first := NodeSet.getElem?_zero_of_least (Graph.hasEdge_iff.1 adjacent)
    fun other listed => least other (Graph.hasEdge_iff.2 listed)
  have known : interfaces.get? node neighbor = some 1 :=
    (Interfaces.get?_eq_some_iff_position installed paired).2 ⟨0, rfl, first⟩
  obtain ⟨link, listed, near, far, between, rfl, one, rfl⟩ :=
    (Interfaces.get?_eq_some_iff_link installed paired).1 known
  refine ⟨link, listed, near, far, between, rfl, rfl, ?_⟩
  rw [primary?, ← one, address?_of_between installed listed between]

end

/-! ## 3. The whole plan -/

/-- The plan has an address for each end of the links, and what it answers about addresses,
neighbors and nodes goes back to these. -/
structure Complete (g : Graph) (table : LinkTable) (interfaces : Interfaces)
    (plan : Addresses) : Prop where
  length_linkEnds : table.linkEnds.length = 2 * g.edges.length
  nodup_address : (table.linkEnds.map (·.address)).Nodup
  size : plan.size = 2 * g.edges.length
  isInterface : ∀ {node interface : ℕ},
    (∃ address, plan.address? node interface = some address) ↔
      1 ≤ interface ∧ interface ≤ (g.neighbors node).size
  injective : ∀ {node interface other interfaceOther : ℕ} {address : Address},
    plan.address? node interface = some address →
      plan.address? other interfaceOther = some address →
        node = other ∧ interface = interfaceOther
  resolve?_iff : ∀ {address : Address} {node : ℕ},
    plan.resolve? address = some node ↔ ∃ interface, plan.address? node interface = some address
  gateway?_of_hasEdge : ∀ {node neighbor : ℕ}, g.hasEdge node neighbor = true →
    ∃ interface address, interfaces.get? neighbor node = some interface ∧
      plan.address? neighbor interface = some address ∧
      plan.gateway? node neighbor = some address
  gateway?_eq_none : ∀ {node other : ℕ}, g.hasEdge node other = false →
    plan.gateway? node other = none
  primary?_of_least : ∀ {node neighbor : ℕ}, g.hasEdge node neighbor = true →
    (∀ other, g.hasEdge node other = true → neighbor ≤ other) →
      ∃ link ∈ table.links, ∃ near far, link.Between near far ∧ near.node = node ∧
        far.node = neighbor ∧ plan.primary? node = some near.address
  primary?_eq_none_iff : ∀ {node : ℕ},
    plan.primary? node = none ↔ ∀ other, g.hasEdge node other = false
  resolve?_unknownSource : plan.resolve? unknownSource = none

/-- The links of a graph give their ends distinct addresses, and the plan of these links is
complete, together with the interfaces that the same links have. -/
theorem ofLinks_installed (installed : LinkTable.install g = .ok table) :
    ∃ interfaces, Interfaces.ofPairs g table.interfacePairs = .ok interfaces ∧
      (ofLinks table).Complete g table interfaces := by
  obtain ⟨interfaces, paired⟩ := @Interfaces.exists_ofPairs g g table installed rfl
  have ends : table.linkEnds.length = 2 * g.edges.length := by
    rw [LinkTable.length_linkEnds, ← LinkTable.size, LinkTable.size_of_install installed]
  refine ⟨interfaces, paired, ?_⟩
  constructor
  case length_linkEnds => exact ends
  case nodup_address => exact LinkTable.nodup_address_of_install installed
  case size => exact (size_ofLinks installed).trans ends
  case isInterface => exact exists_address?_iff installed
  case injective => exact address?_injective installed
  case resolve?_iff => exact resolve?_eq_some_iff_address? installed
  case gateway?_of_hasEdge => exact gateway?_of_hasEdge installed paired
  case gateway?_eq_none => exact gateway?_eq_none_of_not_hasEdge installed paired
  case primary?_of_least => exact primary?_of_least installed paired
  case primary?_eq_none_iff =>
    intro node
    rw [← Option.not_isSome_iff_eq_none, Option.isSome_iff_exists, exists_primary?_iff installed,
      not_exists]
    simp only [Bool.not_eq_true]
  case resolve?_unknownSource => exact resolve?_unknownSource installed

/-- The inner node of the chain has its first address on the link to node 0. -/
theorem chain_addresses : LinkTable.install .chain = .ok .ofChain ∧
    (ofLinks .ofChain).size = 4 ∧
    (∃ address, (ofLinks .ofChain).gateway? 0 1 = some address ∧
      (ofLinks .ofChain).resolve? address = some 1) ∧
    (ofLinks .ofChain).gateway? 0 2 = none ∧
    (ofLinks .ofChain).primary? 1 = some (.ofOctets 10 0 0 2) ∧
    (ofLinks .ofChain).resolve? unknownSource = none := by
  have installed : LinkTable.install .chain = .ok .ofChain := by decide
  obtain ⟨interfaces, paired, complete⟩ := ofLinks_installed installed
  obtain ⟨interface, address, -, known, gateway⟩ :=
    complete.gateway?_of_hasEdge (show Graph.chain.hasEdge 0 1 = true by decide)
  obtain ⟨link, listed, near, far, between, atInner, atFirst, primary⟩ :=
    complete.primary?_of_least (show Graph.chain.hasEdge 1 0 = true by decide)
      fun _ _ => Nat.zero_le _
  have isFirst : near.address = .ofOctets 10 0 0 2 := by
    rcases List.mem_pair.1 listed with rfl | rfl <;> rcases between with ⟨rfl, rfl⟩ | ⟨rfl, rfl⟩
    · exact absurd atInner (by decide)
    · rfl
    · exact absurd atFirst (by decide)
    · exact absurd atInner (by decide)
  exact ⟨installed, complete.size, ⟨address, gateway, complete.resolve?_iff.2 ⟨interface, known⟩⟩,
    complete.gateway?_eq_none (by decide), isFirst ▸ primary, complete.resolve?_unknownSource⟩

end Addresses

end Multipath
