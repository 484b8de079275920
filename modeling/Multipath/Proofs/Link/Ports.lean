import Multipath.Proofs.Link.Numbered

/-!
# Interfaces in the order of neighbors

A node has one interface for each neighbor, and installing the links in the order of the edges
numbers them in the order of the neighbors. The table of interfaces by neighbor, which is filled
from the installed links, therefore has a closed form: the neighbor at position `i` is reached over
interface `i + 1`.

Results:
1. `numbered_of_install`: link `i` has the number `i` and joins the nodes of edge `i`.
2. `get?_eq_some_iff_link`, `get?_eq_some_iff_position`: interfaces by neighbor, as ends of links
   and in closed form.
3. `ofPairs_installed`: what the table of a graph's own links answers, for all nodes.
-/

namespace Multipath

/-- Three nodes in a row. The inner one is the upper end of one edge and the lower end of the
other. -/
def Graph.chain : Graph := (ofEdges 3 [(1, 2), (0, 1)]).toOption.get (by decide)

def LinkTable.ofChain : LinkTable where
  links := [
    ⟨0, ⟨0, 1, .ofOctets 10 0 0 1⟩, ⟨1, 1, .ofOctets 10 0 0 2⟩⟩,
    ⟨1, ⟨1, 2, .ofOctets 10 0 1 1⟩, ⟨2, 1, .ofOctets 10 0 1 2⟩⟩]

/-! ## 1. Numbers of links -/

namespace LinkTable

theorem id_of_installFrom {edges : List (ℕ × ℕ)} {used : Array ℕ} {id : ℕ} {links : List Link}
    (installed : installFrom used id edges = .ok links) {i : ℕ} {link : Link}
    (found : links[i]? = some link) : link.id = id + i := by
  induction edges generalizing used id links i with
  | nil =>
    cases installed
    cases found
  | cons edge rest ih =>
    obtain ⟨hosts, others, -, further, rfl⟩ := installFrom_cons installed
    cases i with
    | zero =>
      cases found
      rfl
    | succ i =>
      rw [ih further found]
      omega

variable {g : Graph} {table : LinkTable} (installed : install g = .ok table)
include installed

theorem size_of_install : table.size = g.edges.length := by
  rw [size, ← map_ends_of_install installed, List.length_map]

theorem numbered_of_install {i : ℕ} {link : Link} (found : table.get? i = some link) :
    link.id = i ∧ g.edges[i]? = some link.ends := by
  constructor
  · rw [id_of_installFrom (installFrom_of_install installed) found, Nat.zero_add]
  · rw [← map_ends_of_install installed, List.getElem?_map]
    exact congrArg (Option.map Link.ends) found

/-- A pair of interfaces stands at the edge of the link that has them. -/
theorem mem_zip_interfacePairs_iff {edge pair : ℕ × ℕ} :
    (edge, pair) ∈ g.edges.zip table.interfacePairs ↔
      ∃ link ∈ table.links, link.ends = edge ∧
        (link.lower.interface, link.upper.interface) = pair := by
  rw [interfacePairs, List.zip_map_right, List.mem_map]
  constructor
  · rintro ⟨⟨own, link⟩, inZip, same⟩
    obtain ⟨listed, ends⟩ := (mem_zip_edges_iff installed).1 inZip
    cases same
    exact ⟨link, listed, ends, rfl⟩
  · rintro ⟨link, listed, ends, rfl⟩
    exact ⟨(edge, link), (mem_zip_edges_iff installed).2 ⟨listed, ends⟩, rfl⟩

end LinkTable

/-! ## 2. Interfaces toward neighbors -/

namespace Interfaces

variable {g : Graph} {table : LinkTable} {interfaces : Interfaces}

section

variable (installed : LinkTable.install g = .ok table)
  (paired : ofPairs g table.interfacePairs = .ok interfaces)
include installed paired

/-- The interfaces of a graph's own links are looked up as what they are at their links. -/
theorem get?_eq_some_iff_link {node neighbor interface : ℕ} :
    interfaces.get? node neighbor = some interface ↔
      ∃ link ∈ table.links, ∃ near far, link.Between near far ∧ near.node = node ∧
        near.interface = interface ∧ far.node = neighbor := by
  rw [get?_eq_some_iff paired]
  simp only [LinkTable.mem_zip_interfacePairs_iff installed]
  constructor
  · rintro ⟨edge, pair, ⟨link, listed, rfl, rfl⟩, ⟨ends, rfl⟩ | ⟨ends, rfl⟩⟩
    · cases ends
      exact ⟨link, listed, link.lower, link.upper, Or.inl ⟨rfl, rfl⟩, rfl, rfl, rfl⟩
    · cases ends
      exact ⟨link, listed, link.upper, link.lower, Or.inr ⟨rfl, rfl⟩, rfl, rfl, rfl⟩
  · rintro ⟨link, listed, near, far, ⟨rfl, rfl⟩ | ⟨rfl, rfl⟩, rfl, rfl, rfl⟩
    · exact ⟨_, _, ⟨link, listed, rfl, rfl⟩, Or.inl ⟨rfl, rfl⟩⟩
    · exact ⟨_, _, ⟨link, listed, rfl, rfl⟩, Or.inr ⟨rfl, rfl⟩⟩

/-- The interface toward a neighbor is its position among the neighbors, counted from one. -/
theorem get?_eq_some_iff_position {node neighbor interface : ℕ} :
    interfaces.get? node neighbor = some interface ↔
      ∃ position, interface = position + 1 ∧
        (g.neighbors node).toList[position]? = some neighbor := by
  have ports := LinkTable.ports_of_install installed node
  have simple := LinkTable.simple_of_install installed
  have atLink : interfaces.get? node neighbor = some interface ↔
      (neighbor, interface) ∈ table.links.filterMap (Link.port? node) := by
    rw [get?_eq_some_iff_link installed paired, List.mem_filterMap]
    refine exists_congr fun link => and_congr_right fun listed => ?_
    exact (Link.port?_eq_some_iff (simple.ascending _ (List.mem_map_of_mem listed)).ne).symm
  rw [atLink, ports, List.mk_mem_zipIdx_iff_le_and_getElem?_sub]
  constructor
  · rintro ⟨above, found⟩
    exact ⟨interface - 1, (Nat.sub_add_cancel above).symm, found⟩
  · rintro ⟨position, rfl, found⟩
    exact ⟨Nat.le_add_left 1 position, found⟩

theorem get?_eq_none_iff {node other : ℕ} :
    interfaces.get? node other = none ↔ g.hasEdge node other = false := by
  rw [← Bool.not_eq_true, Graph.hasEdge_iff, ← NodeSet.mem_toList, List.mem_iff_getElem?,
    Option.eq_none_iff_forall_ne_some]
  constructor
  · rintro unknown ⟨position, found⟩
    exact unknown _ ((get?_eq_some_iff_position installed paired).2 ⟨position, rfl, found⟩)
  · intro missing interface known
    obtain ⟨position, -, found⟩ := (get?_eq_some_iff_position installed paired).1 known
    exact missing ⟨position, found⟩

/-- Interfaces ascend with the neighbors that they lead to. -/
theorem get?_lt_iff {node neighbor other interface interfaceOther : ℕ}
    (known : interfaces.get? node neighbor = some interface)
    (knownOther : interfaces.get? node other = some interfaceOther) :
    interface < interfaceOther ↔ neighbor < other := by
  obtain ⟨i, rfl, found⟩ := (get?_eq_some_iff_position installed paired).1 known
  obtain ⟨j, rfl, foundOther⟩ := (get?_eq_some_iff_position installed paired).1 knownOther
  obtain ⟨inRange, rfl⟩ := List.getElem?_eq_some_iff.1 found
  obtain ⟨inRangeOther, rfl⟩ := List.getElem?_eq_some_iff.1 foundOther
  rw [Nat.add_lt_add_iff_right]
  exact (g.neighbors node).ascending.sortedLT.getElem_lt_getElem_iff.symm

end

/-! ## 3. The whole table -/

/-- The interfaces of every node are numbered from one in the order of its neighbors. -/
structure InOrder (g : Graph) (interfaces : Interfaces) : Prop where
  get?_neighbor : ∀ {node position neighbor : ℕ},
    (g.neighbors node).toList[position]? = some neighbor →
      interfaces.get? node neighbor = some (position + 1)
  isInterface : ∀ {node interface : ℕ},
    (∃ neighbor, interfaces.get? node neighbor = some interface) ↔
      1 ≤ interface ∧ interface ≤ (g.neighbors node).size
  injective : ∀ {node neighbor other interface : ℕ},
    interfaces.get? node neighbor = some interface →
      interfaces.get? node other = some interface → neighbor = other
  ascending : ∀ {node neighbor other interface interfaceOther : ℕ},
    interfaces.get? node neighbor = some interface →
      interfaces.get? node other = some interfaceOther →
        (interface < interfaceOther ↔ neighbor < other)
  get?_eq_none : ∀ {node other : ℕ},
    interfaces.get? node other = none ↔ g.hasEdge node other = false
  size : interfaces.size = 2 * g.edges.length

/-- The links of a graph are numbered like its edges and join their nodes. The interfaces by
neighbor are built from them, and they are numbered from one in the order of the neighbors. -/
theorem ofPairs_installed (installed : LinkTable.install g = .ok table) :
    table.size = g.edges.length ∧
    (∀ i link, table.get? i = some link → link.id = i ∧ g.edges[i]? = some link.ends) ∧
    ∃ interfaces, ofPairs g table.interfacePairs = .ok interfaces ∧ interfaces.InOrder g := by
  obtain ⟨interfaces, paired⟩ := @exists_ofPairs g g table installed rfl
  have position := @get?_eq_some_iff_position g table interfaces installed paired
  refine ⟨LinkTable.size_of_install installed,
    fun i link found => LinkTable.numbered_of_install installed found, interfaces, paired, ?_⟩
  constructor
  case get?_neighbor =>
    intro node place neighbor found
    exact position.2 ⟨place, rfl, found⟩
  case isInterface =>
    intro node interface
    rw [NodeSet.size]
    constructor
    · rintro ⟨neighbor, known⟩
      obtain ⟨place, rfl, found⟩ := position.1 known
      exact ⟨Nat.le_add_left 1 place, (List.getElem?_eq_some_iff.1 found).1⟩
    · rintro ⟨above, below⟩
      have inRange : interface - 1 < (g.neighbors node).toList.length := by omega
      exact ⟨_, position.2 ⟨interface - 1, by omega, List.getElem?_eq_getElem inRange⟩⟩
  case injective =>
    intro node neighbor other interface known knownOther
    obtain ⟨place, rfl, found⟩ := position.1 known
    obtain ⟨placeOther, same, foundOther⟩ := position.1 knownOther
    cases Nat.succ.inj same
    exact Option.some.inj (found.symm.trans foundOther)
  case ascending => exact get?_lt_iff installed paired
  case get?_eq_none => exact get?_eq_none_iff installed paired
  case size => exact size_of_ofPairs paired

theorem chain_interfaces : LinkTable.install .chain = .ok .ofChain ∧
    ∃ interfaces, ofPairs .chain LinkTable.ofChain.interfacePairs = .ok interfaces ∧
      interfaces.get? 1 0 = some 1 ∧ interfaces.get? 1 2 = some 2 ∧
      interfaces.get? 0 2 = none ∧ interfaces.size = 4 := by
  have installed : LinkTable.install .chain = .ok .ofChain := by decide
  obtain ⟨-, -, interfaces, paired, inOrder⟩ := ofPairs_installed installed
  have toFirst : (Graph.chain.neighbors 1).toList[0]? = some 0 := by decide
  have toLast : (Graph.chain.neighbors 1).toList[1]? = some 2 := by decide
  exact ⟨installed, interfaces, paired, inOrder.get?_neighbor toFirst,
    inOrder.get?_neighbor toLast, inOrder.get?_eq_none.2 (by decide), inOrder.size⟩

end Interfaces

end Multipath
