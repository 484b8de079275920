import Mathlib.Data.List.Forall2
import Mathlib.Data.Sym.Sym2
import Multipath.Proofs.Topology.Consistent
import Multipath.Route.Router

/-!
# The order of a blueprint does not matter

Blueprints list nodes and edges in some order, and each edge from one of its ends. What is wrong
with a blueprint may be found at another entry when it is listed differently, but a topology is
the same however its blueprint is arranged, and with it everything that is built from it.

Results:
1. `unrepeated_iff_nodup`: repetitions are repetitions of unordered pairs.
2. `Rearranged.valid`, `Rearranged.realizes`: validity and what a blueprint says are kept.
3. `Realizes.edgeCount_eq`: no edge is lost or met twice.
4. `ofBlueprint_rearranged`: both are accepted or none, and all tables are equal.
-/

namespace Multipath

/-! ## 1. Edges as unordered pairs -/

namespace Graph

/-- Both edges join the same two nodes. -/
def SameEnds (edge other : ℕ × ℕ) : Prop := other = edge ∨ other = edge.swap

/-- The nodes that an edge joins. -/
def ends (edge : ℕ × ℕ) : Sym2 ℕ := s(edge.1, edge.2)

variable {edges others turned : List (ℕ × ℕ)} {edge other : ℕ × ℕ} {u v : ℕ}

theorem ends_eq_iff : ends other = ends edge ↔ SameEnds edge other := Sym2.mk_eq_mk_iff

theorem SameEnds.symm (same : SameEnds edge other) : SameEnds other edge :=
  ends_eq_iff.1 (ends_eq_iff.2 same).symm

/-- Two nodes are joined when the list has their unordered pair. -/
theorem mem_map_ends_iff : s(u, v) ∈ edges.map ends ↔ (u, v) ∈ edges ∨ (v, u) ∈ edges := by
  rw [List.mem_map]
  constructor
  · rintro ⟨edge, listed, same⟩
    have sameEnds : SameEnds (u, v) edge := ends_eq_iff.1 same
    rcases sameEnds with rfl | rfl
    · exact Or.inl listed
    · exact Or.inr listed
  · rintro (listed | listed)
    · exact ⟨_, listed, rfl⟩
    · exact ⟨_, listed, Sym2.eq_swap⟩

theorem unrepeated_iff_nodup : Unrepeated edges ↔ (edges.map ends).Nodup := by
  unfold Unrepeated List.Nodup
  rw [List.pairwise_map]
  refine List.Pairwise.iff fun edge later => ?_
  rw [← not_or]
  exact not_congr (ends_eq_iff.symm.trans eq_comm)

theorem unrepeated_edges (g : Graph) : Unrepeated g.edges := by
  refine g.pairwise_edges.imp_of_mem ?_
  intro edge later listed listedLater less
  have ascending := lt_of_mem_edges listed
  have ascendingLater := lt_of_mem_edges listedLater
  unfold EdgeLt at less
  constructor
  · rintro rfl
    omega
  · rintro rfl
    exact absurd ascendingLater ascending.asymm

theorem map_ends_of_forall₂ (same : List.Forall₂ SameEnds edges turned) :
    turned.map ends = edges.map ends := by
  induction same with
  | nil => rfl
  | cons first _ ih => rw [List.map_cons, List.map_cons, ih, ends_eq_iff.2 first]

end Graph

namespace Blueprint

/-- The second blueprint is the first one with its lists in another order and some of its edges
turned round. -/
structure Rearranged (b other : Blueprint) : Prop where
  nodeCount : b.nodeCount = other.nodeCount
  edgeCount : b.edgeCount = other.edgeCount
  switches : b.switches.Perm other.switches
  tors : b.tors.Perm other.tors
  servers : b.servers.Perm other.servers
  edges : ∃ turned, List.Forall₂ Graph.SameEnds b.edges turned ∧ turned.Perm other.edges

/-! ## 2. What is kept -/

namespace Rearranged

variable {b other : Blueprint}

theorem symm (rearranged : b.Rearranged other) : other.Rearranged b := by
  obtain ⟨turned, same, moved⟩ := rearranged.edges
  -- the edges are turned back after they were moved, so turning has to pass the permutation
  obtain ⟨back, sameBack, movedBack⟩ :=
    List.perm_comp_forall₂ moved.symm (same.flip.imp fun _ _ ends => Graph.SameEnds.symm ends)
  exact ⟨rearranged.nodeCount.symm, rearranged.edgeCount.symm, rearranged.switches.symm,
    rearranged.tors.symm, rearranged.servers.symm, back, sameBack, movedBack⟩

theorem perm_ends (rearranged : b.Rearranged other) :
    (b.edges.map Graph.ends).Perm (other.edges.map Graph.ends) := by
  obtain ⟨turned, same, moved⟩ := rearranged.edges
  rw [← Graph.map_ends_of_forall₂ same]
  exact moved.map Graph.ends

theorem joined_iff (rearranged : b.Rearranged other) (u v : ℕ) :
    ((u, v) ∈ b.edges ∨ (v, u) ∈ b.edges) ↔ ((u, v) ∈ other.edges ∨ (v, u) ∈ other.edges) := by
  rw [← Graph.mem_map_ends_iff, ← Graph.mem_map_ends_iff, rearranged.perm_ends.mem_iff]

/-- The other blueprint has each edge in one direction or the other. -/
theorem mem_edges_or_swap (rearranged : b.Rearranged other) {edge : ℕ × ℕ}
    (listed : edge ∈ other.edges) : edge ∈ b.edges ∨ edge.swap ∈ b.edges :=
  (rearranged.joined_iff edge.1 edge.2).2 (Or.inl listed)

theorem rolesShareNodes (rearranged : b.Rearranged other) (shared : b.RolesShareNodes) :
    other.RolesShareNodes := by
  have kept : ∀ ids others : List ℕ, ids.Perm others →
      (∀ id ∈ ids, id < b.nodeCount) ∧ ids.Nodup →
        (∀ id ∈ others, id < other.nodeCount) ∧ others.Nodup := by
    intro ids others moved listed
    rw [← rearranged.nodeCount]
    exact ⟨fun id inOthers => listed.1 id (moved.mem_iff.2 inOthers), moved.nodup_iff.1 listed.2⟩
  refine ⟨?_, fun id inServers inSwitches => ?_, fun id inTors => ?_, ?_⟩
  · have listed := shared.listed
    simp only [List.forall_mem_cons, List.not_mem_nil, false_implies, implies_true,
      and_true] at listed ⊢
    exact ⟨kept _ _ rearranged.switches listed.1, kept _ _ rearranged.tors listed.2.1,
      kept _ _ rearranged.servers listed.2.2⟩
  · exact shared.disjoint id (rearranged.servers.mem_iff.2 inServers)
      (rearranged.switches.mem_iff.2 inSwitches)
  · exact rearranged.switches.mem_iff.1 (shared.tors id (rearranged.tors.mem_iff.2 inTors))
  · rw [← rearranged.switches.length_eq, ← rearranged.servers.length_eq, ← rearranged.nodeCount]
    exact shared.complete

theorem drawable (rearranged : b.Rearranged other)
    (drawable : Graph.Drawable b.nodeCount b.edges) :
    Graph.Drawable other.nodeCount other.edges := by
  refine ⟨fun edge listed => ?_, fun edge listed => ?_, ?_⟩
  · cases rearranged.mem_edges_or_swap listed with
    | inl forth => exact drawable.apart edge forth
    | inr back => exact (drawable.apart edge.swap back).symm
  · rw [← rearranged.nodeCount]
    cases rearranged.mem_edges_or_swap listed with
    | inl forth => exact drawable.inRange edge forth
    | inr back => exact (drawable.inRange edge.swap back).symm
  · rw [Graph.unrepeated_iff_nodup, ← rearranged.perm_ends.nodup_iff,
      ← Graph.unrepeated_iff_nodup]
    exact drawable.unrepeated

theorem valid (rearranged : b.Rearranged other) (valid : b.Valid) : other.Valid := by
  refine ⟨rearranged.rolesShareNodes valid.toRolesShareNodes, rearranged.drawable valid.toDrawable,
    ?_, fun edge listed => ?_⟩
  · have sameLength := rearranged.perm_ends.length_eq
    rw [List.length_map, List.length_map] at sameLength
    rw [← rearranged.edgeCount, ← sameLength]
    exact valid.counted
  · simp only [← rearranged.servers.mem_iff, ← rearranged.tors.mem_iff]
    cases rearranged.mem_edges_or_swap listed with
    | inl forth => exact valid.racked edge forth
    | inr back => exact (valid.racked edge.swap back).symm

theorem realizes {t : Topology} (rearranged : b.Rearranged other) (realizes : t.Realizes b) :
    t.Realizes other where
  size := realizes.size.trans rearranged.nodeCount
  neighbors u v := (realizes.neighbors u v).trans (rearranged.joined_iff u v)
  isSwitch node := (realizes.isSwitch node).trans rearranged.switches.mem_iff
  isTor node := (realizes.isTor node).trans rearranged.tors.mem_iff
  isServer node := (realizes.isServer node).trans rearranged.servers.mem_iff

end Rearranged

/-- The blueprint of the rack, listed in another order and seen from other ends. -/
def rackTurned : Blueprint where
  nodeCount := 4
  edgeCount := 3
  switches := [1, 3]
  tors := [1]
  servers := [2, 0]
  edges := [(1, 0), (2, 1), (3, 1)]

theorem rearranged_rack : rack.Rearranged rackTurned where
  nodeCount := rfl
  edgeCount := rfl
  switches := by decide
  tors := by decide
  servers := by decide
  edges := ⟨[(3, 1), (1, 0), (2, 1)], by simp [rack, Graph.SameEnds], by decide⟩

end Blueprint

/-! ## 3. Equal results -/

namespace Topology

variable {b other : Blueprint} {t : Topology}

/-- A topology has the edges of its blueprint, each of them once. -/
theorem Realizes.edgeCount_eq (realizes : t.Realizes b) (valid : b.Valid) :
    t.edgeCount = b.edgeCount := by
  have same : (t.graph.edges.map Graph.ends).Perm (b.edges.map Graph.ends) := by
    rw [List.perm_ext_iff_of_nodup (Graph.unrepeated_iff_nodup.1 t.graph.unrepeated_edges)
      (Graph.unrepeated_iff_nodup.1 valid.unrepeated)]
    intro pair
    induction pair with
    | _ u v =>
      rw [Graph.mem_map_ends_iff, Graph.mem_map_ends_iff, ← realizes.neighbors]
      exact Graph.adj_simple
  have sameLength := same.length_eq
  rw [List.length_map, List.length_map] at sameLength
  exact sameLength.trans valid.counted.symm

theorem ofBlueprint_of_rearranged (rearranged : b.Rearranged other) (made : ofBlueprint b = .ok t) :
    ofBlueprint other = .ok t := by
  obtain ⟨valid, realizes⟩ := ofBlueprint_eq_ok_iff.1 made
  exact ofBlueprint_eq_ok_iff.2 ⟨rearranged.valid valid, rearranged.realizes realizes⟩

/-- However a blueprint is arranged, it is accepted or refused alike. An accepted one makes the
same topology, so that links, distances, next hops and the router with its interfaces, addresses
and decisions are the same under every configuration. -/
theorem ofBlueprint_rearranged (rearranged : b.Rearranged other) :
    ((∃ t, ofBlueprint b = .ok t) ↔ ∃ t, ofBlueprint other = .ok t) ∧
    ∀ t t', ofBlueprint b = .ok t → ofBlueprint other = .ok t' →
      t = t' ∧ LinkTable.install t.graph = LinkTable.install t'.graph ∧
      ∀ config, Distances.ofGraph t.graph config = Distances.ofGraph t'.graph config ∧
        NextHops.ofGraph t.graph config = NextHops.ofGraph t'.graph config ∧
        Router.ofTopology t config = Router.ofTopology t' config := by
  constructor
  · constructor
    · rintro ⟨t, made⟩
      exact ⟨t, ofBlueprint_of_rearranged rearranged made⟩
    · rintro ⟨t, made⟩
      exact ⟨t, ofBlueprint_of_rearranged rearranged.symm made⟩
  · intro t t' made made'
    rw [ofBlueprint_of_rearranged rearranged made] at made'
    cases made'
    exact ⟨rfl, rfl, fun config => ⟨rfl, rfl, rfl⟩⟩

/-- The rack listed otherwise is the same rack. -/
theorem rack_rearranged :
    Blueprint.rack.Rearranged .rackTurned ∧ ofBlueprint .rackTurned = .ok rack := by
  obtain ⟨accepted, same⟩ := ofBlueprint_rearranged Blueprint.rearranged_rack
  obtain ⟨turned, made⟩ := accepted.1 ⟨rack, rfl⟩
  obtain ⟨rfl, -⟩ := same rack turned rfl made
  exact ⟨Blueprint.rearranged_rack, made⟩

end Topology

end Multipath
