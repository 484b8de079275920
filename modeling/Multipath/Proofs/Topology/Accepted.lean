import Multipath.Proofs.Topology.Roles

/-!
# Which blueprints are accepted

The checks of a blueprint come in stages, each of which relies on the ones before. Together they
ask for what `Blueprint.Valid` lists, where no stage and no order is left.

Results:
1. `Topology.ofBlueprint_eq_ok_iff_stages`: an accepted blueprint has passed every stage.
2. `Realizes.unique`: at most one topology has what a blueprint says.
3. `ofBlueprint_eq_ok_iff`: a blueprint is accepted when it is valid, and then the topology has
   what it says.
-/

namespace Multipath

namespace Blueprint

/-- The blueprint draws a topology: its roles share out the nodes, its edges make a simple graph,
they are as many as declared, and servers have edges to ToRs only. -/
@[mk_iff]
structure Valid (b : Blueprint) : Prop
    extends RolesShareNodes b, Graph.Drawable b.nodeCount b.edges where
  counted : b.edgeCount = b.edges.length
  racked : ∀ edge ∈ b.edges,
    (edge.1 ∈ b.servers → edge.2 ∈ b.tors) ∧ (edge.2 ∈ b.servers → edge.1 ∈ b.tors)

instance (b : Blueprint) : Decidable b.Valid := decidable_of_iff' _ (valid_iff b)

/-- Two racked servers and a switch behind their ToR. -/
def rack : Blueprint where
  nodeCount := 4
  edgeCount := 3
  switches := [3, 1]
  tors := [1]
  servers := [0, 2]
  edges := [(3, 1), (0, 1), (1, 2)]

end Blueprint

namespace Topology

variable {b : Blueprint} {t : Topology}

/-- The topology has the nodes, edges and roles of the blueprint. -/
structure Realizes (t : Topology) (b : Blueprint) : Prop where
  size : t.size = b.nodeCount
  neighbors : ∀ u v, v ∈ t.neighbors u ↔ (u, v) ∈ b.edges ∨ (v, u) ∈ b.edges
  isSwitch : ∀ node, t.isSwitch node = true ↔ node ∈ b.switches
  isTor : ∀ node, t.isTor node = true ↔ node ∈ b.tors
  isServer : ∀ node, t.isServer node = true ↔ node ∈ b.servers

/-! ## 1. Stages -/

theorem ofBlueprint_eq_ok_iff_stages :
    ofBlueprint b = .ok t ↔ ∃ sets graph, RoleSets.ofBlueprint b = .ok sets ∧
      Graph.ofEdges b.nodeCount b.edges = .ok graph ∧ b.edgeCount = b.edges.length ∧
        sets.strayLink? graph = none ∧ assemble graph sets = t := by
  unfold ofBlueprint
  simp only [bind_eq_ok_iff, mapError_eq_ok_iff]
  constructor
  · rintro ⟨sets, shared, graph, drawn, passed⟩
    split at passed
    · next counted =>
      split at passed
      · cases passed
      · next racked =>
        cases passed
        exact ⟨sets, graph, shared, drawn, counted.symm, racked, rfl⟩
    · cases passed
  · rintro ⟨sets, graph, shared, drawn, counted, racked, rfl⟩
    refine ⟨sets, shared, graph, drawn, ?_⟩
    rw [if_pos counted.symm, racked]

/-! ## 2. What a blueprint says -/

section

variable {graph : Graph} {sets : RoleSets} {node : ℕ} {role : Role}

theorem roles_assemble_eq_some_iff :
    (assemble graph sets).roles[node]? = some role ↔
      node < graph.size ∧ sets.roleOf node = role := by
  unfold assemble
  rw [List.getElem?_toArray, List.getElem?_map]
  by_cases inRange : node < graph.size
  · rw [List.getElem?_range inRange, Option.map_some, Option.some.injEq, and_iff_right inRange]
  · rw [List.getElem?_eq_none (by simpa using inRange)]
    exact iff_of_false nofun fun placed => inRange placed.1

theorem roleOf_eq_server_iff : sets.roleOf node = .server ↔ node ∈ sets.servers := by
  unfold RoleSets.roleOf
  split
  · next inServers => exact iff_of_true rfl inServers
  · next notServer =>
    split <;> exact iff_of_false nofun notServer

theorem roleOf_eq_tor_iff : sets.roleOf node = .tor ↔ ¬ node ∈ sets.servers ∧ node ∈ sets.tors := by
  unfold RoleSets.roleOf
  split
  · next inServers => exact iff_of_false nofun fun asTor => asTor.1 inServers
  · next notServer =>
    split
    · next inTors => exact iff_of_true rfl ⟨notServer, inTors⟩
    · next notTor => exact iff_of_false nofun fun asTor => notTor asTor.2

theorem roleOf_eq_switch_iff :
    sets.roleOf node = .switch ↔ ¬ node ∈ sets.servers ∧ ¬ node ∈ sets.tors := by
  unfold RoleSets.roleOf
  split
  · next inServers => exact iff_of_false nofun fun asSwitch => asSwitch.1 inServers
  · next notServer =>
    split
    · next inTors => exact iff_of_false nofun fun asSwitch => asSwitch.2 inTors
    · next notTor => exact iff_of_true rfl ⟨notServer, notTor⟩

theorem realizes_assemble (shared : b.RolesShareNodes) (holds : sets.Hold b)
    (size : graph.size = b.nodeCount)
    (neighbors : ∀ u v, v ∈ graph.neighbors u ↔ (u, v) ∈ b.edges ∨ (v, u) ∈ b.edges) :
    (assemble graph sets).Realizes b := by
  have inRange : ∀ ids ∈ [b.switches, b.tors, b.servers], ∀ id ∈ ids, id < graph.size :=
    fun ids list => size ▸ (shared.listed ids list).1
  have asServer : ∀ node, (assemble graph sets).isServer node = true ↔ node ∈ b.servers := by
    intro node
    rw [isServer, beq_iff_eq, roles_assemble_eq_some_iff, roleOf_eq_server_iff, holds.servers]
    exact and_iff_right_of_imp (inRange b.servers (by simp) node)
  have asTor : ∀ node, (assemble graph sets).isTor node = true ↔ node ∈ b.tors := by
    intro node
    rw [isTor, beq_iff_eq, roles_assemble_eq_some_iff, roleOf_eq_tor_iff, holds.servers, holds.tors]
    constructor
    · rintro ⟨-, -, inTors⟩
      exact inTors
    · intro inTors
      exact ⟨inRange b.tors (by simp) node inTors,
        fun inServers => shared.disjoint node inServers (shared.tors node inTors), inTors⟩
  refine ⟨size, neighbors, fun node => ?_, asTor, asServer⟩
  rw [isSwitch, Bool.or_eq_true, asTor, beq_iff_eq, roles_assemble_eq_some_iff,
    roleOf_eq_switch_iff, holds.servers, holds.tors]
  constructor
  · rintro (inTors | ⟨below, notServer, -⟩)
    · exact shared.tors node inTors
    · exact (shared.mem_switches_or_mem_servers (size ▸ below)).resolve_right notServer
  · intro inSwitches
    by_cases inTors : node ∈ b.tors
    · exact Or.inl inTors
    · exact Or.inr ⟨inRange b.switches (by simp) node inSwitches,
        fun inServers => shared.disjoint node inServers inSwitches, inTors⟩

end

/-- A node that is no server and no ToR is a plain switch, so two answers give its role. -/
theorem ext_observers {other : Topology} (graph : t.graph = other.graph)
    (servers : ∀ node, t.isServer node = true ↔ other.isServer node = true)
    (tors : ∀ node, t.isTor node = true ↔ other.isTor node = true) : t = other := by
  have size : t.roles.size = other.roles.size := by rw [t.size_roles, other.size_roles, graph]
  have roles : t.roles = other.roles := by
    refine Array.ext size fun node below belowOther => ?_
    have server := servers node
    have tor := tors node
    simp only [isServer, isTor, Array.getElem?_eq_getElem below,
      Array.getElem?_eq_getElem belowOther, beq_iff_eq, Option.some.injEq] at server tor
    -- two different roles differ in one of the two answers
    cases here : t.roles[node] <;> cases there : other.roles[node] <;> simp_all
  obtain ⟨g, r, size_r⟩ := t
  obtain ⟨g', r', size_r'⟩ := other
  subst graph roles
  rfl

theorem Realizes.unique {other : Topology} (realizes : t.Realizes b)
    (realizesOther : other.Realizes b) : t = other := by
  have sameGraph : t.graph = other.graph :=
    Graph.ext_neighbors (realizes.size.trans realizesOther.size.symm) fun u v =>
      (realizes.neighbors u v).trans (realizesOther.neighbors u v).symm
  exact ext_observers sameGraph
    (fun node => (realizes.isServer node).trans (realizesOther.isServer node).symm)
    fun node => (realizes.isTor node).trans (realizesOther.isTor node).symm

/-! ## 3. Acceptance -/

/-- The check goes from each server to its neighbors, so it sees every edge from either end. -/
theorem strayLink?_eq_none_iff_racked {sets : RoleSets} {graph : Graph} (holds : sets.Hold b)
    (neighbors : ∀ u v, v ∈ graph.neighbors u ↔ (u, v) ∈ b.edges ∨ (v, u) ∈ b.edges) :
    sets.strayLink? graph = none ↔ ∀ edge ∈ b.edges,
      (edge.1 ∈ b.servers → edge.2 ∈ b.tors) ∧ (edge.2 ∈ b.servers → edge.1 ∈ b.tors) := by
  rw [RoleSets.strayLink?_eq_none_iff]
  simp only [holds.servers _, holds.tors _, neighbors]
  constructor
  · intro racked edge listed
    exact ⟨fun server => racked edge.1 server edge.2 (Or.inl listed),
      fun server => racked edge.2 server edge.1 (Or.inr listed)⟩
  · rintro racked server isServer neighbor (forth | back)
    · exact (racked _ forth).1 isServer
    · exact (racked _ back).2 isServer

theorem exists_realizes (valid : b.Valid) : ∃ t, ofBlueprint b = .ok t ∧ t.Realizes b := by
  obtain ⟨sets, collected⟩ := RoleSets.exists_ofBlueprint valid.toRolesShareNodes
  obtain ⟨graph, drawn⟩ := valid.toDrawable.exists_ofEdges
  have holds := (RoleSets.ofBlueprint_eq_ok_iff.1 collected).2
  obtain ⟨-, size, neighbors⟩ := Graph.ofEdges_eq_ok_iff.1 drawn
  have racked := (strayLink?_eq_none_iff_racked holds neighbors).2 valid.racked
  exact ⟨_, ofBlueprint_eq_ok_iff_stages.2
    ⟨sets, graph, collected, drawn, valid.counted, racked, rfl⟩,
    realizes_assemble valid.toRolesShareNodes holds size neighbors⟩

theorem ofBlueprint_eq_ok_iff : ofBlueprint b = .ok t ↔ b.Valid ∧ t.Realizes b := by
  constructor
  · intro made
    obtain ⟨sets, graph, collected, drawn, counted, passed, rfl⟩ :=
      ofBlueprint_eq_ok_iff_stages.1 made
    obtain ⟨shared, holds⟩ := RoleSets.ofBlueprint_eq_ok_iff.1 collected
    obtain ⟨drawable, size, neighbors⟩ := Graph.ofEdges_eq_ok_iff.1 drawn
    have racked := (strayLink?_eq_none_iff_racked holds neighbors).1 passed
    exact ⟨⟨shared, drawable, counted, racked⟩, realizes_assemble shared holds size neighbors⟩
  · rintro ⟨valid, realizes⟩
    obtain ⟨made, accepted, realizesMade⟩ := exists_realizes valid
    rw [realizes.unique realizesMade, accepted]

/-- Exactly the valid blueprints make a topology. -/
theorem exists_ofBlueprint_iff_valid (b : Blueprint) : (∃ t, ofBlueprint b = .ok t) ↔ b.Valid := by
  constructor
  · rintro ⟨t, made⟩
    exact (ofBlueprint_eq_ok_iff.1 made).1
  · intro valid
    obtain ⟨t, made, -⟩ := exists_realizes valid
    exact ⟨t, made⟩

example : Blueprint.rack.Valid := by decide

/-- A server next to the switch behind the ToR is refused. -/
example : ¬ { Blueprint.rack with edgeCount := 4, edges := (0, 3) :: Blueprint.rack.edges }.Valid := by
  decide

end Topology

end Multipath
