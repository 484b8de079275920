import Mathlib.Data.Finset.Card
import Mathlib.Data.List.Duplicate
import Multipath.Proofs.Graph.Refused
import Multipath.Proofs.Topology.Roles

/-!
# Faults of blueprints

A blueprint may have many faults, and one of them comes first. Lists are read from the front, so
there the first bad entry or edge counts. Roles and links of servers are looked at node by node, so
there the least node counts. Each stage relies on the stages before it, and `FirstFault` says of
each fault which others are excluded by then. How the faults are found does not enter into it.

Results:
1. `Blueprint.card_covered`: how many nodes have a role.
2. `Blueprint.FirstFault.violates`: whatever comes first is wrong with the blueprint, order or not.
-/

namespace Multipath

/-! ## 1. Stages -/

/-- The ids are nodes, and none of them is listed twice. -/
def NodeList (size : ℕ) (ids : List ℕ) : Prop := (∀ id ∈ ids, id < size) ∧ ids.Nodup

/-- What is wrong with an entry of a role list that comes after `earlier` ones. -/
inductive BadEntry (role : Role) (size : ℕ) (earlier : List ℕ) : ℕ → TopologyError → Prop
  | outOfRange {node : ℕ} :
      size ≤ node → BadEntry role size earlier node (.outOfRange role node size)
  | repeated {node : ℕ} : node ∈ earlier → BadEntry role size earlier node (.repeated role node)

namespace Blueprint

/-- The fault of the first list that has one. Switches are read before ToRs, and ToRs before
servers. -/
inductive ListFault (b : Blueprint) : TopologyError → Prop
  | switches {fault : TopologyError}
      (first : FirstBad (NodeList b.nodeCount) (BadEntry .switch b.nodeCount) b.switches fault) :
      ListFault b fault
  | tors {fault : TopologyError} (switches : NodeList b.nodeCount b.switches)
      (first : FirstBad (NodeList b.nodeCount) (BadEntry .tor b.nodeCount) b.tors fault) :
      ListFault b fault
  | servers {fault : TopologyError} (switches : NodeList b.nodeCount b.switches)
      (tors : NodeList b.nodeCount b.tors)
      (first : FirstBad (NodeList b.nodeCount) (BadEntry .server b.nodeCount) b.servers fault) :
      ListFault b fault

/-- The nodes that have a role. -/
def covered (b : Blueprint) : Finset ℕ := b.switches.toFinset ∪ b.servers.toFinset

theorem mem_covered_iff {b : Blueprint} {node : ℕ} :
    node ∈ b.covered ↔ node ∈ b.switches ∨ node ∈ b.servers := by
  rw [covered, Finset.mem_union, List.mem_toFinset, List.mem_toFinset]

theorem card_covered {b : Blueprint} (switches : b.switches.Nodup) (servers : b.servers.Nodup)
    (disjoint : ∀ id ∈ b.servers, id ∉ b.switches) :
    b.covered.card = b.switches.length + b.servers.length := by
  have apart : Disjoint b.switches.toFinset b.servers.toFinset := by
    rw [Finset.disjoint_right]
    intro id isServer isSwitch
    exact disjoint id (List.mem_toFinset.1 isServer) (List.mem_toFinset.1 isSwitch)
  rw [covered, Finset.card_union_of_disjoint apart, List.toFinset_card_of_nodup switches,
    List.toFinset_card_of_nodup servers]

/-- The first clash between roles, by the least node that has it. -/
inductive RoleClash (b : Blueprint) : TopologyError → Prop
  | overlap {node : ℕ} (least : IsLeast {id | id ∈ b.servers ∧ id ∈ b.switches} node) :
      RoleClash b (.rolesOverlap node)
  | torNotSwitch {node : ℕ} (disjoint : ∀ id ∈ b.servers, id ∉ b.switches)
      (least : IsLeast {id | id ∈ b.tors ∧ id ∉ b.switches} node) :
      RoleClash b (.torNotSwitch node)
  | incomplete (disjoint : ∀ id ∈ b.servers, id ∉ b.switches)
      (tors : ∀ id ∈ b.tors, id ∈ b.switches) (missing : b.covered.card ≠ b.nodeCount) :
      RoleClash b (.rolesIncomplete b.covered.card b.nodeCount)

/-- The two nodes are the ends of an edge, in either order. -/
def Links (b : Blueprint) (node other : ℕ) : Prop :=
  (node, other) ∈ b.edges ∨ (other, node) ∈ b.edges

/-- The fault that comes first in the order of the checks. -/
inductive FirstFault (b : Blueprint) : TopologyError → Prop
  | list {fault : TopologyError} (found : b.ListFault fault) : FirstFault b fault
  | clash {fault : TopologyError}
      (listed : ∀ ids ∈ [b.switches, b.tors, b.servers], NodeList b.nodeCount ids)
      (found : b.RoleClash fault) : FirstFault b fault
  | badEdge {cause : EdgeError} (shared : b.RolesShareNodes)
      (first : FirstBad (Graph.Drawable b.nodeCount) (Graph.BadEdge b.nodeCount) b.edges cause) :
      FirstFault b (.badEdge cause)
  | edgeCount (shared : b.RolesShareNodes) (drawable : Graph.Drawable b.nodeCount b.edges)
      (miscounted : b.edgeCount ≠ b.edges.length) :
      FirstFault b (.edgeCountMismatch b.edgeCount b.edges.length)
  | strayLink {server neighbor : ℕ} (shared : b.RolesShareNodes)
      (drawable : Graph.Drawable b.nodeCount b.edges) (counted : b.edgeCount = b.edges.length)
      (leastServer : IsLeast
        {node | node ∈ b.servers ∧ ∃ other, b.Links node other ∧ other ∉ b.tors} server)
      (leastNeighbor : IsLeast {other | b.Links server other ∧ other ∉ b.tors} neighbor) :
      FirstFault b (.serverToNonTor server neighbor)

/-! ## 2. Faults in any order -/

/-- The list of the nodes with a role. -/
def listOf (b : Blueprint) : Role → List ℕ
  | .switch => b.switches
  | .tor => b.tors
  | .server => b.servers

/-- The blueprint has this fault, among others or alone. -/
inductive Violates (b : Blueprint) : TopologyError → Prop
  | outOfRange {role : Role} {node : ℕ} (listed : node ∈ b.listOf role)
      (outside : b.nodeCount ≤ node) : Violates b (.outOfRange role node b.nodeCount)
  | repeated {role : Role} {node : ℕ} (twice : List.Duplicate node (b.listOf role)) :
      Violates b (.repeated role node)
  | rolesOverlap {node : ℕ} (isServer : node ∈ b.servers) (isSwitch : node ∈ b.switches) :
      Violates b (.rolesOverlap node)
  | torNotSwitch {node : ℕ} (isTor : node ∈ b.tors) (noSwitch : node ∉ b.switches) :
      Violates b (.torNotSwitch node)
  | rolesIncomplete {node : ℕ} (inRange : node < b.nodeCount) (noSwitch : node ∉ b.switches)
      (noServer : node ∉ b.servers) : Violates b (.rolesIncomplete b.covered.card b.nodeCount)
  | loop {node : ℕ} (listed : (node, node) ∈ b.edges) : Violates b (.badEdge (.loop node))
  | strangeEnd {edge : ℕ × ℕ} {node : ℕ} (listed : edge ∈ b.edges)
      (isEnd : node = edge.1 ∨ node = edge.2) (outside : b.nodeCount ≤ node) :
      Violates b (.badEdge (.outOfRange node b.nodeCount))
  | duplicateEdge {low high : ℕ} (ordered : low < high)
      (twice : 2 ≤ b.edges.countP fun edge => edge = (low, high) ∨ edge = (high, low)) :
      Violates b (.badEdge (.duplicate low high))
  | edgeCountMismatch (miscounted : b.edgeCount ≠ b.edges.length) :
      Violates b (.edgeCountMismatch b.edgeCount b.edges.length)
  | serverToNonTor {server neighbor : ℕ} (isServer : server ∈ b.servers)
      (linked : b.Links server neighbor) (noTor : neighbor ∉ b.tors) :
      Violates b (.serverToNonTor server neighbor)

variable {b : Blueprint} {fault : TopologyError}

theorem violates_of_firstBad (role : Role)
    (first : FirstBad (NodeList b.nodeCount) (BadEntry role b.nodeCount) (b.listOf role) fault) :
    b.Violates fault := by
  obtain ⟨earlier, node, later, split, -, bad⟩ := first
  cases bad with
  | outOfRange outside =>
    exact .outOfRange (split ▸ List.mem_append_right _ List.mem_cons_self) outside
  | repeated again =>
    refine .repeated (List.duplicate_iff_two_le_count.2 ?_)
    rw [split, List.count_append, List.count_cons_self]
    have := List.count_pos_iff.2 again
    omega

theorem ListFault.violates (found : b.ListFault fault) : b.Violates fault := by
  cases found with
  | switches first => exact violates_of_firstBad .switch first
  | tors _ first => exact violates_of_firstBad .tor first
  | servers _ _ first => exact violates_of_firstBad .server first

theorem RoleClash.violates (listed : ∀ ids ∈ [b.switches, b.tors, b.servers],
    NodeList b.nodeCount ids) (found : b.RoleClash fault) : b.Violates fault := by
  cases found with
  | overlap least => exact .rolesOverlap least.1.1 least.1.2
  | torNotSwitch _ least => exact .torNotSwitch least.1.1 least.1.2
  | incomplete _ _ missing =>
    have within : b.covered ⊆ Finset.range b.nodeCount := by
      intro node hasRole
      rw [Finset.mem_range]
      cases mem_covered_iff.1 hasRole with
      | inl isSwitch => exact (listed b.switches (by simp)).1 node isSwitch
      | inr isServer => exact (listed b.servers (by simp)).1 node isServer
    have fewer : b.covered.card < (Finset.range b.nodeCount).card := by
      refine lt_of_le_of_ne (Finset.card_le_card within) ?_
      rwa [Finset.card_range]
    obtain ⟨node, inRange, uncovered⟩ := Finset.exists_mem_notMem_of_card_lt_card fewer
    rw [mem_covered_iff, not_or] at uncovered
    exact .rolesIncomplete (Finset.mem_range.1 inRange) uncovered.1 uncovered.2

theorem violates_of_firstBad_edge {cause : EdgeError}
    (first : FirstBad (Graph.Drawable b.nodeCount) (Graph.BadEdge b.nodeCount) b.edges cause) :
    b.Violates (.badEdge cause) := by
  obtain ⟨earlier, edge, later, split, -, bad⟩ := first
  have listed : edge ∈ b.edges := split ▸ List.mem_append_right _ List.mem_cons_self
  cases bad with
  | loop node => exact .loop listed
  | firstEnd _ outside => exact .strangeEnd listed (Or.inl rfl) outside
  | secondEnd _ _ outside => exact .strangeEnd listed (Or.inr rfl) outside
  | @duplicate low high _ ordered ends again =>
    refine .duplicateEdge ordered ?_
    have before : 0 < earlier.countP fun edge => edge = (low, high) ∨ edge = (high, low) := by
      rw [List.countP_pos_iff]
      cases again with
      | inl forth => exact ⟨_, forth, by simp⟩
      | inr back => exact ⟨_, back, by simp⟩
    rw [split, List.countP_append, List.countP_cons_of_pos (by simpa using ends)]
    omega

theorem FirstFault.violates (found : b.FirstFault fault) : b.Violates fault := by
  cases found with
  | list found => exact found.violates
  | clash listed found => exact found.violates listed
  | badEdge _ first => exact violates_of_firstBad_edge first
  | edgeCount _ _ miscounted => exact .edgeCountMismatch miscounted
  | strayLink _ _ _ leastServer leastNeighbor =>
    exact .serverToNonTor leastServer.1.1 leastNeighbor.1.1 leastNeighbor.1.2

end Blueprint

end Multipath
