import Multipath.Proofs.Route.Decisions

/-!
# The two halves of an egress

A router reads the interface of an egress by the position of an edge, and the gateway by the two
nodes of a link. The links may have been installed for another topology, so the two halves may
come from different links. They belong together when the table `Fits` the graph.

Results:
1. `fits_of_install`: a table fits the graph it was installed for.
2. `exists_withLinks`: a router takes the links of any topology with as many edges.
3. `egress?_eq_some_iff_paired`, `exists_egress?_iff`: the halves of an egress, each with the link
   it comes from, and between which nodes there is one.
4. `forwardsOnOneLink_of_fits`: with links that fit, an egress is one of a single link.
-/

namespace Multipath

/-! ## 1. Tables that fit -/

namespace LinkTable

/-- The link at the position of an edge has the interfaces of the link between the nodes of that
edge, if the table has such a link. -/
def Fits (table : LinkTable) (g : Graph) : Prop :=
  ∀ paired ∈ g.edges.zip table.links, ∀ link ∈ table.links, link.ends = paired.1 →
    paired.2.lower.interface = link.lower.interface ∧
      paired.2.upper.interface = link.upper.interface

instance (table : LinkTable) (g : Graph) : Decidable (table.Fits g) :=
  inferInstanceAs (Decidable (∀ paired ∈ g.edges.zip table.links, ∀ link ∈ table.links,
    link.ends = paired.1 → paired.2.lower.interface = link.lower.interface ∧
      paired.2.upper.interface = link.upper.interface))

variable {g : Graph} {table : LinkTable}

theorem fits_of_install (installed : install g = .ok table) : table.Fits g := by
  rintro ⟨edge, placed⟩ paired link listed ends
  obtain ⟨placedListed, rfl⟩ := (mem_zip_edges_iff installed).1 paired
  rw [(simple_of_install installed).eq_of_ends listed placedListed ends]
  exact ⟨rfl, rfl⟩

/-- A table joins the nodes that are adjacent in its graph. -/
theorem exists_joins_iff_adj (installed : install g = .ok table) {u v : ℕ} :
    (∃ link ∈ table.links, link.Joins u v) ↔ g.simple.Adj u v := by
  show _ ↔ (u, v) ∈ g.edges ∨ (v, u) ∈ g.edges
  rw [← map_ends_of_install installed, List.mem_map, List.mem_map, ← exists_or]
  exact exists_congr fun link => and_or_left

end LinkTable

/-! ## 2. Egresses and their links -/

/-- The egress leaves `current` on this link, and its gateway is the other end's address there. -/
def Egress.Uses (egress : Egress) (current : ℕ) (link : Link) : Prop :=
  ∃ near far, link.Between near far ∧ near.node = current ∧ near.interface = egress.interface ∧
    far.node = egress.neighbor ∧ far.address = egress.gateway

theorem Egress.Uses.joins {egress : Egress} {current : ℕ} {link : Link}
    (uses : egress.Uses current link) : link.Joins current egress.neighbor := by
  obtain ⟨near, far, between, atNear, -, atFar, -⟩ := uses
  exact Link.joins_iff.2 ⟨near, far, between, atNear, atFar⟩

theorem Egress.Uses.interface_ne_zero {egress : Egress} {current : ℕ} {link : Link}
    (uses : egress.Uses current link)
    (numbered : link.lower.interface ≠ 0 ∧ link.upper.interface ≠ 0) : egress.interface ≠ 0 := by
  obtain ⟨near, far, between, -, same, -, -⟩ := uses
  rw [← same]
  cases between with
  | inl sides => exact sides.1 ▸ numbered.1
  | inr sides => exact sides.1 ▸ numbered.2

namespace Router

/-- Whatever is forwarded leaves over an interface of a link and is sent to the other end of
that same link. -/
def ForwardsOnOneLink (r : Router) (table : LinkTable) : Prop :=
  ∀ current source destination flow egress,
    r.decide current source destination flow = .ok (.forward egress) →
      ∃ link ∈ table.links, egress.Uses current link

variable {t t' : Topology} {config : Config} {r : Router} {table : LinkTable}

/-- The links of any topology are taken, as long as there are as many of them as edges. -/
theorem exists_withLinks (installed : LinkTable.install t'.graph = .ok table)
    (sameCount : t.edgeCount = t'.edgeCount) (allowed : t.size ≤ config.maxNodes) :
    ∃ r, withLinks t table config = .ok r := by
  have few : t.edgeCount ≤ 16121856 := sameCount ▸ LinkTable.install_eq_ok_iff.1 ⟨table, installed⟩
  have fit : t.graph.PathsFit := Graph.pathsFit_of_edges_le (few.trans_lt (by decide))
  obtain ⟨d, computed, -⟩ := Distances.ofGraph_eq_ok fit allowed
  have listed : NextHops.ofGraph t.graph config = .ok (NextHops.fill t.graph d) := by
    rw [NextHops.ofGraph, computed]
    rfl
  obtain ⟨interfaces, paired⟩ := Interfaces.exists_ofPairs installed sameCount
  exact ⟨_, withLinks_eq_ok_iff.2 ⟨_, interfaces, listed, paired, rfl⟩⟩

section

variable (installed : LinkTable.install t'.graph = .ok table)
  (built : withLinks t table config = .ok r)
include installed built

theorem edgeCount_eq_of_withLinks : t.edgeCount = t'.edgeCount := by
  obtain ⟨-, interfaces, -, paired, -⟩ := withLinks_eq_ok_iff.1 built
  exact (Interfaces.ofPairs_eq_ok_iff.1 paired).1.trans (LinkTable.length_interfacePairs installed)

/-- The address space of the links bounds the edges of the topology as well. -/
theorem edgeCount_le_of_withLinks : t.edgeCount ≤ 16121856 := by
  rw [edgeCount_eq_of_withLinks installed built]
  exact LinkTable.install_eq_ok_iff.1 ⟨table, installed⟩

/-- So few edges bound the lengths of all paths. -/
theorem routes_of_installed : Routes t.graph r :=
  routes_of_withLinks (Graph.pathsFit_of_edges_le
    ((edgeCount_le_of_withLinks installed built).trans_lt (by decide))) built

/-- The interface comes from the link at the position of the edge, whatever that link joins. The
gateway comes from the link that joins the two nodes. -/
theorem egress?_eq_some_iff_paired {node neighbor : ℕ} {egress : Egress} :
    r.egress? node neighbor = some egress ↔ egress.neighbor = neighbor ∧
      (∃ edge placed, (edge, placed) ∈ t.graph.edges.zip table.links ∧
        (edge = (node, neighbor) ∧ placed.lower.interface = egress.interface ∨
          edge = (neighbor, node) ∧ placed.upper.interface = egress.interface)) ∧
      ∃ link ∈ table.links, ∃ near far, link.Between near far ∧ near.node = node ∧
        far.node = neighbor ∧ far.address = egress.gateway := by
  obtain ⟨nextHops, interfaces, -, paired, rfl⟩ := withLinks_eq_ok_iff.1 built
  rw [egress?_eq_some_iff, Interfaces.get?_eq_some_iff paired, LinkTable.interfacePairs,
    List.zip_map_right, Addresses.gateway?_eq_some_iff (LinkTable.simple_of_install installed)]
  refine and_congr_right fun _ => and_congr_left fun _ => ?_
  constructor
  · rintro ⟨edge, pair, inZip, sides⟩
    obtain ⟨⟨first, placed⟩, placedInZip, same⟩ := List.mem_map.1 inZip
    cases same
    exact ⟨first, placed, placedInZip, sides⟩
  · rintro ⟨edge, placed, inZip, sides⟩
    exact ⟨edge, _, List.mem_map_of_mem inZip, sides⟩

/-- An edge of the topology, in either direction, with the interface stored for it. -/
theorem exists_stored_of_adj {u v : ℕ} (adjacent : t.graph.simple.Adj u v) :
    ∃ interface edge placed, (edge, placed) ∈ t.graph.edges.zip table.links ∧
      (edge = (u, v) ∧ placed.lower.interface = interface ∨
        edge = (v, u) ∧ placed.upper.interface = interface) := by
  have enough : t.graph.edges.length ≤ table.links.length := by
    have sameLength := congrArg List.length (LinkTable.map_ends_of_install installed)
    rw [List.length_map] at sameLength
    exact sameLength ▸ (edgeCount_eq_of_withLinks installed built).le
  have placed : ∀ edge ∈ t.graph.edges, ∃ link, (edge, link) ∈ t.graph.edges.zip table.links := by
    intro edge listed
    rw [← List.map_fst_zip enough, List.mem_map] at listed
    obtain ⟨⟨_, link⟩, inZip, rfl⟩ := listed
    exact ⟨link, inZip⟩
  cases adjacent with
  | inl forth =>
    obtain ⟨link, inZip⟩ := placed _ forth
    exact ⟨_, _, link, inZip, Or.inl ⟨rfl, rfl⟩⟩
  | inr back =>
    obtain ⟨link, inZip⟩ := placed _ back
    exact ⟨_, _, link, inZip, Or.inr ⟨rfl, rfl⟩⟩

/-- There is an egress between nodes that both topologies link. The interface takes the edge of
the one and the gateway that of the other. -/
theorem exists_egress?_iff {u v : ℕ} : (∃ egress, r.egress? u v = some egress) ↔
    t.graph.simple.Adj u v ∧ t'.graph.simple.Adj u v := by
  rw [← LinkTable.exists_joins_iff_adj installed]
  constructor
  · rintro ⟨egress, found⟩
    obtain ⟨-, ⟨edge, placed, inZip, sides⟩, link, listed, near, far, between, atNear, atFar, -⟩ :=
      (egress?_eq_some_iff_paired installed built).1 found
    refine ⟨?_, link, listed, Link.joins_iff.2 ⟨near, far, between, atNear, atFar⟩⟩
    rcases sides with ⟨rfl, -⟩ | ⟨rfl, -⟩
    · exact Or.inl (List.of_mem_zip inZip).1
    · exact Or.inr (List.of_mem_zip inZip).1
  · rintro ⟨adjacent, link, listed, joined⟩
    obtain ⟨interface, stored⟩ := exists_stored_of_adj installed built adjacent
    obtain ⟨near, far, between, atNear, atFar⟩ := Link.joins_iff.1 joined
    exact ⟨⟨v, interface, far.address⟩, (egress?_eq_some_iff_paired installed built).2
      ⟨rfl, stored, link, listed, near, far, between, atNear, atFar, rfl⟩⟩

/-- Fitting is enough, because the two links that an egress comes from then have the same
interfaces. -/
theorem forwardsOnOneLink_of_fits (fits : table.Fits t.graph) : r.ForwardsOnOneLink table := by
  intro current source destination flow egress forwarded
  obtain ⟨-, ⟨edge, placed, inZip, sides⟩, link, listed, near, far, between, rfl, atFar, gateway⟩ :=
    (egress?_eq_some_iff_paired installed built).1 (egress?_of_decide forwarded)
  have ascendingEdge := Graph.lt_of_mem_edges (List.of_mem_zip inZip).1
  have ascending := (LinkTable.simple_of_install installed).ascending _ (List.mem_map_of_mem listed)
  have same := fits _ inZip link listed
  refine ⟨link, listed, near, far, between, rfl, ?_, atFar, gateway⟩
  rw [← atFar] at sides
  -- both edges ascend, so the near ends are on the same side of both
  rcases between with ⟨rfl, rfl⟩ | ⟨rfl, rfl⟩ <;>
    rcases sides with ⟨rfl, interface⟩ | ⟨rfl, interface⟩
  · rw [← interface, (same rfl).1]
  · exact absurd ascendingEdge ascending.asymm
  · exact absurd ascendingEdge ascending.asymm
  · rw [← interface, (same rfl).2]

end

end Router

end Multipath
