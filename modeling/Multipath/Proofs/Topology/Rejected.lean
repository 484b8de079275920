import Multipath.Proofs.Topology.Accepted
import Multipath.Proofs.Topology.Faults

/-!
# Why a blueprint is rejected

The checks run one after the other and stop at the first that fails. Each of them reports what
`Blueprint.FirstFault` says of its stage.

Results:
1. `RoleSets.collectAll_eq_error_iff`: entries of the role lists.
2. `RoleSets.clash?_eq_some_iff`: roles that do not fit together.
3. `RoleSets.strayLink?_eq_some_iff`: links from servers to nodes that are no ToRs.
4. `rejected_iff_firstFault`: what is reported is the first fault, and it is one.
-/

namespace Multipath

/-! ## 1. Entries of role lists -/

namespace RoleSets

variable {b : Blueprint} {sets : RoleSets} {fault : TopologyError}

section

variable {role : Role} {size node : ℕ} {ids earlier : List ℕ} {nodes : NodeSet}

theorem nodeList_iff_exists_collect :
    NodeList size ids ↔ ∃ nodes, collect role size ids = .ok nodes := by
  constructor
  · intro listed
    exact ⟨_, collect_eq_ok_iff.2 ⟨listed, NodeSet.holds_below listed.1⟩⟩
  · rintro ⟨nodes, collected⟩
    exact (collect_eq_ok_iff.1 collected).1

theorem enlist_eq_error_iff (collected : collect role size earlier = .ok nodes) :
    enlist role size nodes node = .error fault ↔ BadEntry role size earlier node fault := by
  obtain ⟨⟨inRange, -⟩, holds⟩ := collect_eq_ok_iff.1 collected
  unfold enlist
  split
  · next isNode =>
    cases inserted : nodes.insert? node with
    | some grown =>
      have new := (NodeSet.insert?_eq_some_iff.1 inserted).1
      refine iff_of_false nofun fun bad => ?_
      cases bad with
      | outOfRange outside => exact Nat.not_lt.2 outside isNode
      | repeated again => exact new ((holds node).2 again)
    | none =>
      have again := (holds node).1 (NodeSet.insert?_eq_none_iff.1 inserted)
      constructor
      · rintro ⟨⟩
        exact .repeated again
      · intro bad
        cases bad with
        | outOfRange outside => exact absurd isNode (Nat.not_lt.2 outside)
        | repeated _ => rfl
  · next outside =>
    constructor
    · rintro ⟨⟩
      exact .outOfRange (Nat.le_of_not_lt outside)
    · intro bad
      cases bad with
      | outOfRange _ => rfl
      | repeated again => exact absurd (inRange node again) outside

theorem collect_eq_error_iff :
    collect role size ids = .error fault ↔
      FirstBad (NodeList size) (BadEntry role size) ids fault :=
  foldlM_eq_error_iff_firstBad (fun _ => nodeList_iff_exists_collect)
    fun _ _ collected _ _ => enlist_eq_error_iff collected

end

theorem collectAll_eq_error_iff : collectAll b = .error fault ↔ b.ListFault fault := by
  unfold collectAll
  simp only [bind_eq_error_iff, collect_eq_error_iff, collect_eq_ok_iff]
  constructor
  · rintro (first | ⟨_, ⟨switches, -⟩, first | ⟨_, ⟨tors, -⟩, first | ⟨_, -, ⟨⟩⟩⟩⟩)
    · exact .switches first
    · exact .tors switches first
    · exact .servers switches tors first
  · intro found
    cases found with
    | switches first => exact Or.inl first
    | tors switches first =>
      exact Or.inr ⟨_, ⟨switches, NodeSet.holds_below switches.1⟩, Or.inl first⟩
    | servers switches tors first =>
      exact Or.inr ⟨_, ⟨switches, NodeSet.holds_below switches.1⟩,
        Or.inr ⟨_, ⟨tors, NodeSet.holds_below tors.1⟩, Or.inl first⟩⟩

end RoleSets

/-! ## 2. Roles that do not fit together -/

namespace RoleSets

variable {b : Blueprint} {sets : RoleSets} {fault : TopologyError}

/-- Overlaps are looked for before ToRs that are no switches, and those before missing nodes. -/
theorem clash?_eq_some_iff_stages {size : ℕ} :
    sets.clash? size = some fault ↔
      (∃ node, sets.servers.toList.find? (· ∈ sets.switches) = some node ∧
        .rolesOverlap node = fault) ∨
      sets.servers.toList.find? (· ∈ sets.switches) = none ∧
        ((∃ node, sets.tors.toList.find? (· ∉ sets.switches) = some node ∧
          .torNotSwitch node = fault) ∨
        sets.tors.toList.find? (· ∉ sets.switches) = none ∧
          sets.switches.size + sets.servers.size ≠ size ∧
            .rolesIncomplete (sets.switches.size + sets.servers.size) size = fault) := by
  unfold clash?
  cases sets.servers.toList.find? (· ∈ sets.switches) with
  | some node => simp
  | none =>
    cases sets.tors.toList.find? (· ∉ sets.switches) with
    | some node => simp
    | none => simp

theorem clash?_eq_some_iff (listed : ∀ ids ∈ [b.switches, b.tors, b.servers],
    NodeList b.nodeCount ids) (holds : sets.Hold b) :
    sets.clash? b.nodeCount = some fault ↔ b.RoleClash fault := by
  have overlapping (node : ℕ) : sets.servers.toList.find? (· ∈ sets.switches) = some node ↔
      IsLeast {id | id ∈ b.servers ∧ id ∈ b.switches} node := by
    rw [NodeSet.find?_eq_some_iff_isLeast]
    simp only [holds.servers _, holds.switches _]
  have disjoint_iff : sets.servers.toList.find? (· ∈ sets.switches) = none ↔
      ∀ id ∈ b.servers, id ∉ b.switches := by
    simp [NodeSet.mem_toList, holds.servers _, holds.switches _]
  have stray (node : ℕ) : sets.tors.toList.find? (· ∉ sets.switches) = some node ↔
      IsLeast {id | id ∈ b.tors ∧ id ∉ b.switches} node := by
    rw [NodeSet.find?_eq_some_iff_isLeast]
    simp only [holds.tors _, holds.switches _]
  have tors_iff : sets.tors.toList.find? (· ∉ sets.switches) = none ↔
      ∀ id ∈ b.tors, id ∈ b.switches := by
    simp [NodeSet.mem_toList, holds.tors _, holds.switches _]
  have count (disjoint : ∀ id ∈ b.servers, id ∉ b.switches) :
      sets.switches.size + sets.servers.size = b.covered.card := by
    have distinctSwitches := (listed b.switches (by simp)).2
    have distinctServers := (listed b.servers (by simp)).2
    rw [holds.switches.size_eq distinctSwitches, holds.servers.size_eq distinctServers,
      Blueprint.card_covered distinctSwitches distinctServers disjoint]
  rw [clash?_eq_some_iff_stages]
  simp only [overlapping, disjoint_iff, stray, tors_iff]
  constructor
  · rintro (⟨node, least, rfl⟩ | ⟨disjoint, ⟨node, least, rfl⟩ | ⟨tors, missing, rfl⟩⟩)
    · exact .overlap least
    · exact .torNotSwitch disjoint least
    · rw [count disjoint] at missing ⊢
      exact .incomplete disjoint tors missing
  · intro clash
    cases clash with
    | overlap least => exact Or.inl ⟨_, least, rfl⟩
    | torNotSwitch disjoint least => exact Or.inr ⟨disjoint, Or.inl ⟨_, least, rfl⟩⟩
    | incomplete disjoint tors missing =>
      rw [count disjoint]
      exact Or.inr ⟨disjoint, Or.inr ⟨tors, missing, rfl⟩⟩

theorem ofBlueprint_eq_error_iff :
    ofBlueprint b = .error fault ↔ b.ListFault fault ∨
      (∀ ids ∈ [b.switches, b.tors, b.servers], NodeList b.nodeCount ids) ∧ b.RoleClash fault := by
  unfold ofBlueprint
  rw [bind_eq_error_iff, collectAll_eq_error_iff]
  refine or_congr_right ?_
  constructor
  · rintro ⟨sets, collected, failed⟩
    obtain ⟨listed, holds⟩ := collectAll_eq_ok_iff.1 collected
    cases clash : sets.clash? b.nodeCount with
    | none => rw [clash] at failed; cases failed
    | some cause =>
      rw [clash] at failed
      cases failed
      exact ⟨listed, (clash?_eq_some_iff listed holds).1 clash⟩
  · rintro ⟨listed, clash⟩
    have holds (ids : List ℕ) (list : ids ∈ [b.switches, b.tors, b.servers]) :=
      NodeSet.holds_below (listed ids list).1
    have hold : RoleSets.Hold ⟨_, _, _⟩ b :=
      ⟨holds b.switches (by simp), holds b.tors (by simp), holds b.servers (by simp)⟩
    refine ⟨_, collectAll_eq_ok_iff.2 ⟨listed, hold⟩, ?_⟩
    rw [(clash?_eq_some_iff listed hold).2 clash]

end RoleSets

/-! ## 3. Links of servers -/

theorem RoleSets.strayLink?_eq_some_iff {b : Blueprint} {sets : RoleSets} {graph : Graph}
    {server neighbor : ℕ} (holds : sets.Hold b)
    (neighbors : ∀ u v, v ∈ graph.neighbors u ↔ b.Links u v) :
    sets.strayLink? graph = some (server, neighbor) ↔
      IsLeast {node | node ∈ b.servers ∧ ∃ other, b.Links node other ∧ other ∉ b.tors} server ∧
      IsLeast {other | b.Links server other ∧ other ∉ b.tors} neighbor := by
  have strayNeighbor (node other : ℕ) :
      (graph.neighbors node).toList.find? (· ∉ sets.tors) = some other ↔
        IsLeast {other | b.Links node other ∧ other ∉ b.tors} other := by
    rw [NodeSet.find?_eq_some_iff_isLeast]
    simp only [neighbors, holds.tors _]
  have noStray (node : ℕ) : ((graph.neighbors node).toList.find? (· ∉ sets.tors)).map (node, ·) =
      none ↔ ¬ ∃ other, b.Links node other ∧ other ∉ b.tors := by
    simp [NodeSet.mem_toList, neighbors, holds.tors _]
  have leastServer : IsLeast
      {node | node ∈ sets.servers ∧ ∃ other, b.Links node other ∧ other ∉ b.tors} server ↔ _ := NodeSet.isLeast_iff_split
  simp only [holds.servers _] at leastServer
  unfold strayLink?
  rw [leastServer, List.findSome?_eq_some_iff]
  constructor
  · rintro ⟨before, node, after, split, found, others⟩
    obtain ⟨other, least, ⟨⟩⟩ := Option.map_eq_some_iff.1 found
    have leastOther := (strayNeighbor server neighbor).1 least
    exact ⟨⟨before, after, split, ⟨neighbor, leastOther.1⟩,
      fun node isBefore => (noStray node).1 (others node isBefore)⟩, leastOther⟩
  · rintro ⟨⟨before, after, split, -, others⟩, leastOther⟩
    refine ⟨before, server, after, split, ?_, fun node isBefore =>
      (noStray node).2 (others node isBefore)⟩
    rw [(strayNeighbor server neighbor).2 leastOther, Option.map_some]

/-! ## 4. The first fault -/

namespace Topology

variable {b : Blueprint} {fault : TopologyError}

theorem ofBlueprint_eq_error_iff_stages :
    ofBlueprint b = .error fault ↔ RoleSets.ofBlueprint b = .error fault ∨
      ∃ sets, RoleSets.ofBlueprint b = .ok sets ∧
        ((∃ cause, Graph.ofEdges b.nodeCount b.edges = .error cause ∧ .badEdge cause = fault) ∨
        ∃ graph, Graph.ofEdges b.nodeCount b.edges = .ok graph ∧
          ((b.edgeCount ≠ b.edges.length ∧
            .edgeCountMismatch b.edgeCount b.edges.length = fault) ∨
          b.edgeCount = b.edges.length ∧ ∃ server neighbor,
            sets.strayLink? graph = some (server, neighbor) ∧
              .serverToNonTor server neighbor = fault)) := by
  unfold ofBlueprint
  simp only [bind_eq_error_iff, mapError_eq_error_iff, mapError_eq_ok_iff]
  refine or_congr_right (exists_congr fun sets => and_congr_right fun _ => or_congr_right
    (exists_congr fun graph => and_congr_right fun _ => ?_))
  split
  · next counted =>
    rw [← counted]
    cases stray : sets.strayLink? graph with
    | none => simp
    | some link => simp [Prod.ext_iff]
  · next miscounted =>
    simp [Ne.symm miscounted]

theorem ofBlueprint_eq_error_iff : ofBlueprint b = .error fault ↔ b.FirstFault fault := by
  rw [ofBlueprint_eq_error_iff_stages, RoleSets.ofBlueprint_eq_error_iff]
  simp only [RoleSets.ofBlueprint_eq_ok_iff, Graph.ofEdges_eq_error_iff, Graph.ofEdges_eq_ok_iff]
  constructor
  · rintro ((found | ⟨listed, found⟩) | ⟨sets, ⟨shared, holds⟩, ⟨cause, first, rfl⟩ |
      ⟨graph, ⟨drawable, -, neighbors⟩, ⟨miscounted, rfl⟩ |
        ⟨counted, server, neighbor, stray, rfl⟩⟩⟩)
    · exact .list found
    · exact .clash listed found
    · exact .badEdge shared first
    · exact .edgeCount shared drawable miscounted
    · obtain ⟨leastServer, leastNeighbor⟩ :=
        (RoleSets.strayLink?_eq_some_iff holds neighbors).1 stray
      exact .strayLink shared drawable counted leastServer leastNeighbor
  · intro found
    cases found with
    | list found => exact Or.inl (Or.inl found)
    | clash listed found => exact Or.inl (Or.inr ⟨listed, found⟩)
    | badEdge shared first =>
      obtain ⟨sets, made⟩ := RoleSets.exists_ofBlueprint shared
      exact Or.inr ⟨sets, RoleSets.ofBlueprint_eq_ok_iff.1 made, Or.inl ⟨_, first, rfl⟩⟩
    | edgeCount shared drawable miscounted =>
      obtain ⟨sets, made⟩ := RoleSets.exists_ofBlueprint shared
      obtain ⟨graph, drawn⟩ := drawable.exists_ofEdges
      exact Or.inr ⟨sets, RoleSets.ofBlueprint_eq_ok_iff.1 made, Or.inr
        ⟨graph, Graph.ofEdges_eq_ok_iff.1 drawn, Or.inl ⟨miscounted, rfl⟩⟩⟩
    | strayLink shared drawable counted leastServer leastNeighbor =>
      obtain ⟨sets, made⟩ := RoleSets.exists_ofBlueprint shared
      obtain ⟨graph, drawn⟩ := drawable.exists_ofEdges
      have holds := (RoleSets.ofBlueprint_eq_ok_iff.1 made).2
      have neighbors := (Graph.ofEdges_eq_ok_iff.1 drawn).2.2
      exact Or.inr ⟨sets, RoleSets.ofBlueprint_eq_ok_iff.1 made, Or.inr
        ⟨graph, Graph.ofEdges_eq_ok_iff.1 drawn, Or.inr ⟨counted, _, _,
          (RoleSets.strayLink?_eq_some_iff holds neighbors).2 ⟨leastServer, leastNeighbor⟩, rfl⟩⟩⟩

/-- Exactly the blueprints that are not valid are rejected. What is reported is the fault that comes
first in the order of the checks, and every node, edge and count that it names is wrong with the
blueprint. -/
theorem rejected_iff_firstFault (b : Blueprint) :
    ((∃ fault, ofBlueprint b = .error fault) ↔ ¬ b.Valid) ∧
      (∀ fault, ofBlueprint b = .error fault ↔ b.FirstFault fault) ∧
      ∀ fault, ofBlueprint b = .error fault → b.Violates fault := by
  refine ⟨⟨fun ⟨fault, rejected⟩ valid => ?_, fun invalid => ?_⟩,
    fun fault => ofBlueprint_eq_error_iff,
    fun fault rejected => (ofBlueprint_eq_error_iff.1 rejected).violates⟩
  · obtain ⟨t, accepted, -⟩ := exists_realizes valid
    cases accepted.symm.trans rejected
  · cases outcome : ofBlueprint b with
    | ok t => exact absurd (ofBlueprint_eq_ok_iff.1 outcome).1 invalid
    | error fault => exact ⟨fault, rfl⟩

/-- The edge between 0 and 1 is drawn in both directions. Further edges are a loop, lead to no node
or join a server with a plain switch, and they are not as many as declared. -/
def entangled : Blueprint where
  nodeCount := 4
  edgeCount := 9
  switches := [3, 1]
  tors := [1]
  servers := [0, 2]
  edges := [(3, 0), (1, 0), (0, 1), (7, 7), (2, 8)]

theorem entangled_rejected : ofBlueprint entangled = .error (.badEdge (.duplicate 0 1)) ∧
    entangled.FirstFault (.badEdge (.duplicate 0 1)) ∧
    entangled.Violates (.badEdge (.duplicate 0 1)) ∧
    ¬ entangled.FirstFault (.badEdge (.loop 7)) ∧ entangled.Violates (.badEdge (.loop 7)) := by
  have rejected : ofBlueprint entangled = .error (.badEdge (.duplicate 0 1)) := rfl
  obtain ⟨-, first, violated⟩ := rejected_iff_firstFault entangled
  refine ⟨rejected, (first _).1 rejected, violated _ rejected, fun found => ?_, .loop (by decide)⟩
  cases rejected.symm.trans ((first _).2 found)

end Topology

end Multipath
