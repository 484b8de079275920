import Multipath.Proofs.Link.Numbered
import Multipath.Proofs.Route.Headers
import Multipath.Trace.Setup

/-!
# Flows of a setup

A flow runs between the first addresses of two nodes. Once both are there, nothing can go wrong on
its way any more: it takes a shortest path, or there is no route for any flow. A node without a link
has no address, and the first of the two ends that has none is named.

Results:
1. `ofOptions_eq_ok_iff`: a setup is made when all of its parts are.
2. `exists_primaryAddress_iff`: the nodes with a first address are those with a link.
3. `path?_of_reachable`, `path?_of_not_reachable`, `path?_of_isolated_source`,
   `path?_of_isolated_destination`: what becomes of a flow.
4. `path?_congr_port`: without a protocol that has ports they make no difference.
-/

namespace Multipath

/-- The node has a link. -/
def Topology.Linked (t : Topology) (node : ℕ) : Prop := ∃ neighbor, t.hasEdge node neighbor = true

namespace Setup

/-! ## 1. Setups -/

theorem ofOptions_eq_ok_iff {files : Files} {o : Options} {s : Setup} :
    ofOptions files o = .ok s ↔ ∃ config, readConfig files o.config = .ok config ∧
      readProtocol o.protocol = .ok s.protocol ∧ readTopology files o config = .ok s.topology ∧
      Router.ofTopology s.topology config = .ok s.router := by
  unfold ofOptions
  simp only [bind_eq_ok_iff, mapError_eq_ok_iff]
  constructor
  · rintro ⟨config, configured, protocol, named, topology, read, router, made, ⟨⟩⟩
    exact ⟨config, configured, named, read, made⟩
  · rintro ⟨config, configured, named, read, made⟩
    exact ⟨config, configured, s.protocol, named, s.topology, read, s.router, made, rfl⟩

/-- A file with the ring of switches. -/
def ringText : String :=
  "num_nodes=4\nnum_undirected_edges=4\nswitches=set(0,1,2,3)\nswitches_which_are_tors=set()\n" ++
    "servers=set()\nundirected_edges=set(0-1,1-3,0-2,2-3)\n"

def ringFiles : Files := fun _ => .ok ringText

theorem ofText_ringText : Topology.ofText ringText = .ok Topology.ring := by
  have read : Blueprint.ofText ringText = .ok
      ⟨4, 4, List.range 4, [], [], [(0, 1), (1, 3), (0, 2), (2, 3)]⟩ := by decide +kernel
  rw [Topology.ofText, read]
  exact eq_ok_get _

theorem exists_ring_setup {o : Options} {protocol : UInt8} (fromFile : o.topology = some "ring")
    (unconfigured : o.config = none) (named : readProtocol o.protocol = .ok protocol) :
    ∃ s, ofOptions ringFiles o = .ok s ∧ s.topology = Topology.ring ∧ s.protocol = protocol ∧
      Router.ofTopology s.topology {} = .ok s.router := by
  obtain ⟨router, routed⟩ := @Router.exists_ofTopology Topology.ring {} (by decide) (by decide)
  have read : readTopology ringFiles o {} = .ok Topology.ring := by
    rw [readTopology, fromFile]
    exact bind_eq_ok_iff.2 ⟨ringText, rfl, mapError_eq_ok_iff.2 ofText_ringText⟩
  refine ⟨⟨Topology.ring, router, protocol⟩, ofOptions_eq_ok_iff.2 ⟨{}, ?_, named, read, routed⟩,
    rfl, rfl, routed⟩
  rw [unconfigured]
  rfl

section

variable {s : Setup} {config : Config} (routed : Router.ofTopology s.topology config = .ok s.router)

/-! ## 2. First addresses -/

include routed in
theorem exists_primary?_iff {node : ℕ} :
    (∃ address, s.router.addresses.primary? node = some address) ↔ s.topology.Linked node := by
  obtain ⟨table, installed, built⟩ := Router.ofTopology_eq_ok_iff.1 routed
  rw [Router.addresses_of_withLinks built]
  exact Addresses.exists_primary?_iff installed

include routed in
theorem exists_primaryAddress_iff {node : ℕ} :
    (∃ address, s.primaryAddress node = .ok address) ↔ s.topology.Linked node := by
  rw [← exists_primary?_iff routed, primaryAddress]
  cases s.router.addresses.primary? node with
  | none => exact iff_of_false nofun nofun
  | some address => exact iff_of_true ⟨address, rfl⟩ ⟨address, rfl⟩

include routed in
theorem primaryAddress_eq_error {node : ℕ} (isolated : ¬ s.topology.Linked node) :
    s.primaryAddress node = .error (.noAddress node) := by
  rw [← exists_primary?_iff routed, not_exists] at isolated
  rw [primaryAddress, Option.eq_none_iff_forall_ne_some.2 isolated]

theorem lt_size_of_linked {node : ℕ} (linked : s.topology.Linked node) :
    node < s.topology.size := by
  obtain ⟨neighbor, adjacent⟩ := linked
  exact Graph.lt_size_of_adjacent (Graph.hasEdge_iff.1 adjacent)

theorem checkNode_of_lt {node : ℕ} (inRange : node < s.topology.size) :
    s.checkNode node = .ok () := if_pos (decide_eq_true inRange)

theorem checkNode_of_le {node : ℕ} (outside : s.topology.size ≤ node) :
    s.checkNode node = .error (.outOfRange node s.topology.size) :=
  if_neg (by simpa [Topology.contains] using outside)

/-! ## 3. Paths -/

/-- The flow of the setup's protocol between two addresses. -/
def flow (s : Setup) (source destination : Address) (sourcePort destinationPort : UInt16) : Flow :=
  if s.protocol = Flow.tcpProtocol then .tcp source destination sourcePort destinationPort
  else if s.protocol = Flow.udpProtocol then .udp source destination sourcePort destinationPort
  else .other source destination s.protocol

theorem flowBetween_eq_ok {source destination : ℕ} {sourceAddress destinationAddress : Address}
    (fromSource : s.primaryAddress source = .ok sourceAddress)
    (toDestination : s.primaryAddress destination = .ok destinationAddress)
    (sourcePort destinationPort : UInt16) :
    s.flowBetween source destination sourcePort destinationPort =
      .ok (s.flow sourceAddress destinationAddress sourcePort destinationPort) := by
  rw [flowBetween, fromSource, toDestination, ok_bind, ok_bind, flow]
  split
  · rfl
  · split <;> rfl

variable {source destination : ℕ}

include routed in
/-- Between linked nodes a flow is sent for any ports, and the router is asked for its path. -/
theorem exists_flow_of_linked (linkedSource : s.topology.Linked source)
    (linkedDestination : s.topology.Linked destination) :
    ∃ sourceAddress destinationAddress, ∀ sourcePort destinationPort,
      s.path? source destination sourcePort destinationPort =
        (s.router.path? source destination
          (s.flow sourceAddress destinationAddress sourcePort destinationPort)).mapError
            .badRoute := by
  obtain ⟨sourceAddress, fromSource⟩ := (exists_primaryAddress_iff routed).2 linkedSource
  obtain ⟨destinationAddress, toDestination⟩ :=
    (exists_primaryAddress_iff routed).2 linkedDestination
  refine ⟨sourceAddress, destinationAddress, fun sourcePort destinationPort => ?_⟩
  rw [path?, flowBetween_eq_ok fromSource toDestination, ok_bind]

section

variable (linkedSource : s.topology.Linked source)
  (linkedDestination : s.topology.Linked destination)
include routed linkedSource linkedDestination

theorem path?_of_reachable (connected : s.topology.graph.simple.Reachable source destination)
    (sourcePort destinationPort : UInt16) :
    ∃ w : s.topology.graph.simple.Walk source destination,
      w.length = s.topology.graph.simple.dist source destination ∧
      s.path? source destination sourcePort destinationPort = .ok (some w.support) := by
  obtain ⟨sourceAddress, destinationAddress, sent⟩ :=
    exists_flow_of_linked routed linkedSource linkedDestination
  obtain ⟨w, shortest, walked⟩ := Router.path?_eq_support routed (lt_size_of_linked linkedSource)
    connected (s.flow sourceAddress destinationAddress sourcePort destinationPort)
  refine ⟨w, shortest, ?_⟩
  rw [sent, walked]
  rfl

theorem path?_of_not_reachable
    (unconnected : ¬ s.topology.graph.simple.Reachable source destination)
    (sourcePort destinationPort : UInt16) :
    s.path? source destination sourcePort destinationPort = .ok none := by
  obtain ⟨sourceAddress, destinationAddress, sent⟩ :=
    exists_flow_of_linked routed linkedSource linkedDestination
  rw [sent, Router.path?_eq_none routed (lt_size_of_linked linkedSource)
    (lt_size_of_linked linkedDestination) unconnected]
  rfl

theorem exists_path?_eq_ok (sourcePort destinationPort : UInt16) :
    ∃ path, s.path? source destination sourcePort destinationPort = .ok path := by
  by_cases connected : s.topology.graph.simple.Reachable source destination
  · obtain ⟨w, -, found⟩ := path?_of_reachable routed linkedSource linkedDestination connected
      sourcePort destinationPort
    exact ⟨_, found⟩
  · exact ⟨none, path?_of_not_reachable routed linkedSource linkedDestination connected
      sourcePort destinationPort⟩

end

include routed in
theorem path?_of_isolated_source (isolated : ¬ s.topology.Linked source)
    (sourcePort destinationPort : UInt16) :
    s.path? source destination sourcePort destinationPort = .error (.noAddress source) := by
  rw [path?, flowBetween, primaryAddress_eq_error routed isolated]
  rfl

include routed in
theorem path?_of_isolated_destination (linked : s.topology.Linked source)
    (isolated : ¬ s.topology.Linked destination) (sourcePort destinationPort : UInt16) :
    s.path? source destination sourcePort destinationPort = .error (.noAddress destination) := by
  obtain ⟨sourceAddress, fromSource⟩ := (exists_primaryAddress_iff routed).2 linked
  rw [path?, flowBetween, fromSource, primaryAddress_eq_error routed isolated]
  rfl

/-! ## 4. Ports -/

/-- Only the two protocols with ports put them into a flow. -/
theorem path?_congr_port (noTcp : s.protocol ≠ Flow.tcpProtocol)
    (noUdp : s.protocol ≠ Flow.udpProtocol) (source destination : ℕ)
    (sourcePort otherPort destinationPort : UInt16) :
    s.path? source destination sourcePort destinationPort =
      s.path? source destination otherPort destinationPort := by
  unfold path? flowBetween
  simp only [if_neg noTcp, if_neg noUdp]

end

end Setup

end Multipath
