import Multipath.Proofs.Link.Assigned

/-!
# Interfaces by number

Going through all links meets those of a node in the order of its neighbors, and each of them
takes the next number. So the interfaces of a node are numbered from one to its degree, and the
first one exists as soon as the node has a link.

Results:
1. `ports_of_install`: the neighbors of a node in ascending order, numbered from one, are its
   far nodes with the interfaces toward them.
2. `interface_mem_iff`: which numbers are interfaces of a node.
3. `exists_primary?_iff`: which nodes have a first address.
-/

namespace Multipath

/-! ## 1. Ports -/

namespace Link

/-- The far node and the own interface of a link at `node`. -/
def port? (node : ℕ) (link : Link) : Option (ℕ × ℕ) :=
  if link.lower.node = node then some (link.upper.node, link.lower.interface)
  else if link.upper.node = node then some (link.lower.node, link.upper.interface)
  else none

theorem port?_eq_some_iff {node far interface : ℕ} {link : Link}
    (apart : link.lower.node ≠ link.upper.node) :
    link.port? node = some (far, interface) ↔ ∃ near other, link.Between near other ∧
      near.node = node ∧ near.interface = interface ∧ other.node = far := by
  unfold port? Between
  constructor
  · intro found
    split at found
    · next atLower =>
      cases found
      exact ⟨link.lower, link.upper, Or.inl ⟨rfl, rfl⟩, atLower, rfl, rfl⟩
    · split at found
      · next atUpper =>
        cases found
        exact ⟨link.upper, link.lower, Or.inr ⟨rfl, rfl⟩, atUpper, rfl, rfl⟩
      · cases found
  · rintro ⟨near, other, sides, rfl, rfl, rfl⟩
    cases sides with
    | inl forth =>
      obtain ⟨rfl, rfl⟩ := forth
      exact if_pos rfl
    | inr back =>
      obtain ⟨rfl, rfl⟩ := back
      rw [if_neg apart, if_pos rfl]

end Link

namespace LinkTable

/-- A link is met at the same nodes as its edge, with the interface that was counted last. -/
theorem port?_installed {edge : ℕ × ℕ} {id : ℕ} {hosts : Address × Address} {count : ℕ → ℕ}
    (node : ℕ) :
    Link.port? node ⟨id, ⟨edge.1, count edge.1, hosts.1⟩, ⟨edge.2, count edge.2, hosts.2⟩⟩ =
      (Graph.farEnd? node edge).map fun far => (far, count node) := by
  unfold Link.port? Graph.farEnd?
  dsimp only
  split
  · next atLower => rw [atLower, Option.map_some]
  · split
    · next atUpper => rw [atUpper, Option.map_some]
    · rfl

/-- The links at a node continue its count, one number for each far end. -/
theorem ports_of_installFrom {edges : List (ℕ × ℕ)} {used : Array ℕ} {id : ℕ}
    {links : List Link} (inRange : ∀ edge ∈ edges, edge.1 < edge.2 ∧ edge.2 < used.size)
    (installed : installFrom used id edges = .ok links) (node : ℕ) :
    links.filterMap (Link.port? node) =
      (Graph.farEnds node edges).zipIdx (used[node]?.getD 0 + 1) := by
  induction edges generalizing used id links with
  | nil =>
    cases installed
    rfl
  | cons edge rest ih =>
    obtain ⟨hosts, others, -, further, rfl⟩ := installFrom_cons installed
    rw [List.forall_mem_cons] at inRange
    have counts : (counted used edge)[node]?.getD 0 =
        used[node]?.getD 0 + if (Graph.farEnd? node edge).isSome then 1 else 0 := by
      rw [getD_counted inRange.1.1 inRange.1.2 node]
      simp only [Graph.isSome_farEnd?_iff]
    have later := ih (by rw [size_counted]; exact inRange.2) further
    have first := @port?_installed edge id hosts (fun node => (counted used edge)[node]?.getD 0) node
    cases met : Graph.farEnd? node edge with
    | none =>
      rw [met] at first counts
      have same : (counted used edge)[node]?.getD 0 = used[node]?.getD 0 := counts
      rw [List.filterMap_cons_none first, Graph.farEnds, List.filterMap_cons_none met,
        ← Graph.farEnds, later, same]
    | some far =>
      rw [met] at first counts
      have grown : (counted used edge)[node]?.getD 0 = used[node]?.getD 0 + 1 := counts
      rw [grown] at first
      rw [List.filterMap_cons_some first, Graph.farEnds, List.filterMap_cons_some met,
        ← Graph.farEnds, later, grown, List.zipIdx_cons]

variable {g : Graph} {table : LinkTable} (installed : install g = .ok table)
include installed

theorem ports_of_install (node : ℕ) :
    table.links.filterMap (Link.port? node) = (g.neighbors node).toList.zipIdx 1 := by
  have none : (Array.replicate g.size 0)[node]?.getD 0 = 0 := by
    rw [Array.getElem?_replicate]
    split <;> rfl
  rw [ports_of_installFrom (edges_inRange g) (installFrom_of_install installed) node,
    Graph.farEnds_edges, none]

/-! ## 2. Numbers -/

theorem mem_linkEnds_iff_port? {node interface : ℕ} :
    (∃ side ∈ table.linkEnds, side.node = node ∧ side.interface = interface) ↔
      ∃ far, (far, interface) ∈ table.links.filterMap (Link.port? node) := by
  have simple := simple_of_install installed
  have apart : ∀ link ∈ table.links, link.lower.node ≠ link.upper.node := fun link listed =>
    (simple.ascending _ (List.mem_map_of_mem listed)).ne
  constructor
  · rintro ⟨side, listed, atNode, numbered⟩
    obtain ⟨link, inTable, far, between⟩ := mem_linkEnds_iff.1 listed
    exact ⟨far.node, List.mem_filterMap.2 ⟨link, inTable, (Link.port?_eq_some_iff
      (apart link inTable)).2 ⟨side, far, between, atNode, numbered, rfl⟩⟩⟩
  · rintro ⟨far, listed⟩
    obtain ⟨link, inTable, found⟩ := List.mem_filterMap.1 listed
    obtain ⟨near, other, between, atNode, numbered, -⟩ :=
      (Link.port?_eq_some_iff (apart link inTable)).1 found
    exact ⟨near, mem_linkEnds_iff.2 ⟨link, inTable, other, between⟩, atNode, numbered⟩

theorem interface_mem_iff {node interface : ℕ} :
    (∃ side ∈ table.linkEnds, side.node = node ∧ side.interface = interface) ↔
      0 < interface ∧ interface ≤ (g.neighbors node).size := by
  rw [mem_linkEnds_iff_port? installed, ports_of_install installed, NodeSet.size]
  constructor
  · rintro ⟨far, listed⟩
    obtain ⟨above, below, -⟩ := List.mem_zipIdx listed
    exact ⟨above, Nat.lt_one_add_iff.1 below⟩
  · rintro ⟨above, below⟩
    refine ⟨_, List.mk_mem_zipIdx_iff_le_and_getElem?_sub.2 ⟨above, List.getElem?_eq_getElem ?_⟩⟩
    exact (Nat.sub_lt above Nat.one_pos).trans_le below

end LinkTable

/-! ## 3. First addresses -/

namespace Addresses

variable {g : Graph} {table : LinkTable}

theorem exists_address?_iff (installed : LinkTable.install g = .ok table) {node interface : ℕ} :
    (∃ address, (ofLinks table).address? node interface = some address) ↔
      0 < interface ∧ interface ≤ (g.neighbors node).size := by
  rw [← LinkTable.interface_mem_iff installed]
  simp only [address?_eq_some_iff installed]
  constructor
  · rintro ⟨address, side, listed, atNode, numbered, -⟩
    exact ⟨side, listed, atNode, numbered⟩
  · rintro ⟨side, listed, atNode, numbered⟩
    exact ⟨side.address, side, listed, atNode, numbered, rfl⟩

/-- A node has a first address exactly when it has a link. -/
theorem exists_primary?_iff (installed : LinkTable.install g = .ok table) {node : ℕ} :
    (∃ address, (ofLinks table).primary? node = some address) ↔
      ∃ neighbor, g.hasEdge node neighbor = true := by
  unfold primary?
  rw [exists_address?_iff installed, and_iff_right Nat.one_pos, NodeSet.size, Nat.succ_le_iff,
    List.length_pos_iff_exists_mem]
  simp only [Graph.hasEdge_iff, NodeSet.mem_toList]

end Addresses

end Multipath
