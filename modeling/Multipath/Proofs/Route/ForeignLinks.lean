import Multipath.Proofs.Route.Egresses

/-!
# Links of another topology

A router can be given links that were installed for another topology. Their number is checked
and nothing else. For each edge that happens to have a link in the table some packet is sent
over it, so a table that does not fit shows in an egress whose halves belong to two links.

Results:
1. `fits_of_forwardsOnOneLink`: no table that does not fit goes unnoticed by all packets.
2. `forwardsOnOneLink_iff_fits`: the gateway always belongs to a link to the neighbor; the
   interface does for all decisions exactly when the table fits the graph.
3. `crossed_hubs`: two topologies of equal size where it does not.
-/

namespace Multipath

/-- Three switches, two of them linked to switch 0. -/
def Topology.hubAtZero : Topology :=
  (ofSwitches 3 [(0, 1), (0, 2)]).toOption.get (by decide)

/-- Three switches, two of them linked to switch 2. -/
def Topology.hubAtTwo : Topology :=
  (ofSwitches 3 [(0, 2), (1, 2)]).toOption.get (by decide)

namespace Router

variable {t t' : Topology} {config : Config} {r : Router} {table : LinkTable}

section

variable (installed : LinkTable.install t'.graph = .ok table)
  (built : withLinks t table config = .ok r)
include installed built

/-- Some packet is sent over each edge that has a link, and it shows the interface stored for
that edge. -/
theorem ForwardsOnOneLink.interface_eq (consistent : r.ForwardsOnOneLink table) {link : Link}
    (listed : link ∈ table.links) {near far : LinkEnd} (between : link.Between near far)
    (adjacent : t.graph.simple.Adj near.node far.node) {interface : ℕ}
    (stored : ∃ edge placed, (edge, placed) ∈ t.graph.edges.zip table.links ∧
      (edge = (near.node, far.node) ∧ placed.lower.interface = interface ∨
        edge = (far.node, near.node) ∧ placed.upper.interface = interface)) :
    interface = near.interface := by
  have found : r.egress? near.node far.node = some ⟨far.node, interface, far.address⟩ :=
    (egress?_eq_some_iff_paired installed built).2
      ⟨rfl, stored, link, listed, near, far, between, rfl, rfl, rfl⟩
  have decided := decide_of_adj (routes_of_installed installed built) adjacent found default
  obtain ⟨other, listedOther, nearOther, farOther, betweenOther, atNear, used, atFar, -⟩ :=
    consistent _ _ _ _ _ decided
  obtain rfl : other = link := (LinkTable.simple_of_install installed).eq_of_joins listedOther
    listed (Link.joins_iff.2 ⟨nearOther, farOther, betweenOther, atNear, atFar⟩)
    (Link.joins_iff.2 ⟨near, far, between, rfl, rfl⟩)
  obtain rfl : nearOther = near := Link.eq_of_between betweenOther between atNear adjacent.ne
  exact used.symm

theorem fits_of_forwardsOnOneLink (consistent : r.ForwardsOnOneLink table) :
    table.Fits t.graph := by
  rintro ⟨edge, placed⟩ inZip link listed rfl
  have adjacent : t.graph.simple.Adj link.lower.node link.upper.node :=
    Or.inl (List.of_mem_zip inZip).1
  constructor
  · exact consistent.interface_eq installed built listed (Or.inl ⟨rfl, rfl⟩) adjacent
      ⟨_, placed, inZip, Or.inl ⟨rfl, rfl⟩⟩
  · exact consistent.interface_eq installed built listed (Or.inr ⟨rfl, rfl⟩) adjacent.symm
      ⟨_, placed, inZip, Or.inr ⟨rfl, rfl⟩⟩

end

/-- A router over the links of any topology sends each packet to the address that the neighbor
has on the link to it. The interface belongs to that link too, for all packets, exactly when
the table fits the graph: nothing else refuses a table of the right length. -/
theorem forwardsOnOneLink_iff_fits (installed : LinkTable.install t'.graph = .ok table)
    (built : withLinks t table config = .ok r) :
    (∀ current source destination flow egress,
      r.decide current source destination flow = .ok (.forward egress) →
        ∃ link ∈ table.links, ∃ near far, link.Between near far ∧ near.node = current ∧
          far.node = egress.neighbor ∧ far.address = egress.gateway) ∧
    (r.ForwardsOnOneLink table ↔ table.Fits t.graph) := by
  constructor
  · intro current source destination flow egress forwarded
    exact ((egress?_eq_some_iff_paired installed built).1 (egress?_of_decide forwarded)).2.2
  · exact ⟨fits_of_forwardsOnOneLink installed built, forwardsOnOneLink_of_fits installed built⟩

/-- The links of `Topology.hubAtTwo`: node 2 has its first interface on the link to node 0. -/
def hubAtTwoLinks : LinkTable where
  links := [
    ⟨0, ⟨0, 1, .ofOctets 10 0 0 1⟩, ⟨2, 1, .ofOctets 10 0 0 2⟩⟩,
    ⟨1, ⟨1, 1, .ofOctets 10 0 1 1⟩, ⟨2, 2, .ofOctets 10 0 1 2⟩⟩]

/-- With one hub's links at the other hub, node 2 sends what is for node 0 to an address on the
link to node 0, but out of its interface to node 1. -/
theorem crossed_hubs :
    LinkTable.install Topology.hubAtTwo.graph = .ok hubAtTwoLinks ∧
    ∃ r, withLinks Topology.hubAtZero hubAtTwoLinks {} = .ok r ∧
      ¬ r.ForwardsOnOneLink hubAtTwoLinks ∧
      ∀ flow, r.decide 2 2 0 flow = .ok (.forward ⟨0, 2, .ofOctets 10 0 0 1⟩) := by
  have installed : LinkTable.install Topology.hubAtTwo.graph = .ok hubAtTwoLinks := by decide
  obtain ⟨r, built⟩ :=
    @exists_withLinks Topology.hubAtZero _ {} hubAtTwoLinks installed (by decide) (by decide)
  have unfit : ¬ hubAtTwoLinks.Fits Topology.hubAtZero.graph := by decide
  have adjacent : Topology.hubAtZero.graph.simple.Adj 2 0 := Or.inr (by decide)
  have found : r.egress? 2 0 = some ⟨0, 2, .ofOctets 10 0 0 1⟩ := by
    refine (egress?_eq_some_iff_paired installed built).2
      ⟨rfl, ⟨(0, 2), hubAtTwoLinks.links[1], by decide, Or.inr ⟨rfl, rfl⟩⟩, ?_⟩
    exact ⟨hubAtTwoLinks.links[0], by decide, _, _, Or.inr ⟨rfl, rfl⟩, rfl, rfl, rfl⟩
  exact ⟨installed, r, built, mt (forwardsOnOneLink_iff_fits installed built).2.1 unfit,
    decide_of_adj (routes_of_installed installed built) adjacent found⟩

end Router

end Multipath
