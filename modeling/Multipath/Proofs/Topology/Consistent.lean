import Mathlib.Data.List.TFAE
import Multipath.Proofs.Topology.Accepted
import Multipath.Proofs.Topology.EdgeStores

/-!
# Topologies kept in stores

A topology may be kept as three stores of its edges and a set of nodes for each role. Edges are
looked up in one store, listed from another and met at their nodes in the third, and tables over a
topology read different ones. All of them are filled by one loop and none is derived from another,
so that they show one graph is a fact about that loop.

Results:
1. `checkServers_eq`: the servers are checked as the rows of their neighbors say.
2. `ofBlueprint_mirrors`: stores are filled for the blueprints that make a topology, they answer
   for it, and other blueprints are refused for the same fault.
3. `Stored.ofBlueprint_exact`: the stores agree with each other, in the orders that the tables rely
   on, and with the blueprint.
-/

namespace Multipath

namespace Topology

structure Stored extends EdgeStores where
  size : ℕ
  sets : RoleSets

namespace Stored

/-- Looks through the row of a server for a neighbor that is no ToR. -/
def checkServer (stores : EdgeStores) (sets : RoleSets) (server : ℕ) : Except StoreFault Unit :=
  if inRange : server < stores.rows.size then
    match stores.rows[server].toList.find? (· ∉ sets.tors) with
    | some neighbor => .error (.refused (.serverToNonTor server neighbor))
    | none => .ok ()
  else .error (.noRow server)

/-- The checks of `Topology.ofBlueprint` in the same order, with the edges in stores. -/
def ofBlueprint (b : Blueprint) : Except StoreFault Stored := do
  let sets ← (RoleSets.ofBlueprint b).mapError .refused
  let filled ← EdgeStores.recordAll b.nodeCount b.edges
  let stores := filled.sorted
  if stores.list.size ≠ b.edgeCount then
    throw (.refused (.edgeCountMismatch b.edgeCount stores.list.size))
  forM sets.servers.toList (checkServer stores sets)
  return { toEdgeStores := stores, size := b.nodeCount, sets }

def edges (s : Stored) : List (ℕ × ℕ) := s.list.toList

def edgeCount (s : Stored) : ℕ := s.list.size

def hasEdge (s : Stored) (a b : ℕ) : Bool := s.keys.contains (EdgeStores.keyOf a b)

def neighbors (s : Stored) (node : ℕ) : List ℕ := s.row node

def isSwitch (s : Stored) (node : ℕ) : Bool := decide (node ∈ s.sets.switches)

def isTor (s : Stored) (node : ℕ) : Bool := decide (node ∈ s.sets.tors)

def isServer (s : Stored) (node : ℕ) : Bool := decide (node ∈ s.sets.servers)

/-! ## 1. Servers -/

section

variable {size : ℕ} {stores : EdgeStores} {graph : Graph}

theorem checkServer_eq (shows : stores.ShowsSorted size graph) (sets : RoleSets) {server : ℕ}
    (inRange : server < size) :
    checkServer stores sets server =
      match (graph.neighbors server).toList.find? (· ∉ sets.tors) with
      | some neighbor => .error (.refused (.serverToNonTor server neighbor))
      | none => .ok () := by
  have hasRow : server < stores.rows.size := shows.sized.symm ▸ inRange
  have row := shows.row server
  rw [EdgeStores.row, Array.getElem?_eq_getElem hasRow, Option.getD_some] at row
  rw [checkServer, dif_pos hasRow, row]

/-- The first server with a stray link ends the check, and its first such neighbor is named. -/
theorem checkServers_eq (shows : stores.ShowsSorted size graph) (sets : RoleSets)
    (inRange : ∀ server ∈ sets.servers.toList, server < size) :
    forM sets.servers.toList (checkServer stores sets) =
      match sets.strayLink? graph with
      | some (server, neighbor) => .error (.refused (.serverToNonTor server neighbor))
      | none => .ok () := by
  unfold RoleSets.strayLink?
  generalize sets.servers.toList = servers at inRange ⊢
  induction servers with
  | nil => rfl
  | cons server rest ih =>
    rw [List.forall_mem_cons] at inRange
    rw [List.forM_cons, checkServer_eq shows sets inRange.1, List.findSome?_cons]
    cases (graph.neighbors server).toList.find? (· ∉ sets.tors) with
    | none => exact ih inRange.2
    | some neighbor => rfl

end

/-! ## 2. The topology that the stores show -/

/-- Whatever is asked of the stores is answered as by the topology. -/
structure Shows (s : Stored) (t : Topology) : Prop where
  size : s.size = t.size
  edges : s.edges = t.edges
  edgeCount : s.edgeCount = t.edgeCount
  hasEdge : ∀ a b, s.hasEdge a b = t.hasEdge a b
  neighbors : ∀ node, s.neighbors node = (t.neighbors node).toList
  isSwitch : ∀ node, s.isSwitch node = t.isSwitch node
  isTor : ∀ node, s.isTor node = t.isTor node
  isServer : ∀ node, s.isServer node = t.isServer node

variable {b : Blueprint} {s : Stored} {t : Topology}

theorem shows_assemble {stores : EdgeStores} {graph : Graph} {sets : RoleSets}
    (shows : stores.ShowsSorted b.nodeCount graph) (holds : sets.Hold b)
    (realizes : (assemble graph sets).Realizes b) :
    Shows { toEdgeStores := stores, size := b.nodeCount, sets } (assemble graph sets) where
  size := shows.nodes.symm
  edges := shows.list
  edgeCount := Array.length_toList.symm.trans (congrArg List.length shows.list)
  hasEdge u v := by
    rw [Bool.eq_iff_iff, Stored.hasEdge, Std.HashSet.contains_iff_mem, shows.keyOf_mem]
    exact Graph.hasEdge_iff.symm
  neighbors := shows.row
  isSwitch node := by
    rw [Bool.eq_iff_iff, realizes.isSwitch, Stored.isSwitch, decide_eq_true_eq]
    exact holds.switches node
  isTor node := by
    rw [Bool.eq_iff_iff, realizes.isTor, Stored.isTor, decide_eq_true_eq]
    exact holds.tors node
  isServer node := by
    rw [Bool.eq_iff_iff, realizes.isServer, Stored.isServer, decide_eq_true_eq]
    exact holds.servers node

theorem ofBlueprint_mirrors (b : Blueprint) :
    Mirrors .refused (fun t s => Shows s t) (Topology.ofBlueprint b) (ofBlueprint b) := by
  unfold Topology.ofBlueprint ofBlueprint
  cases collected : RoleSets.ofBlueprint b with
  | error fault => exact .error fault
  | ok sets =>
    obtain ⟨shared, holds⟩ := RoleSets.ofBlueprint_eq_ok_iff.1 collected
    refine (EdgeStores.recordAll_mirrors b.nodeCount b.edges).mapError.with_ok.bind ?_
    rintro graph filled ⟨kept, drawn, done⟩
    have shows := kept.showsSorted
    have counted : filled.sorted.list.size = b.edges.length := by
      rw [EdgeStores.size_list_sorted, EdgeStores.length_of_recordAll done]
    obtain ⟨-, size, neighbors⟩ := Graph.ofEdges_eq_ok_iff.1 (mapError_eq_ok_iff.1 drawn)
    have inRange : ∀ server ∈ sets.servers.toList, server < b.nodeCount := fun server listed =>
      (shared.listed b.servers (by simp)).1 server ((holds.servers server).1 listed)
    dsimp only
    rw [counted]
    by_cases declared : b.edges.length = b.edgeCount
    swap
    · rw [if_neg declared, if_pos declared]
      exact .error _
    rw [if_pos declared, if_neg (not_not_intro declared), checkServers_eq shows sets inRange]
    cases sets.strayLink? graph with
    | some stray => exact .error (TopologyError.serverToNonTor stray.1 stray.2)
    | none => exact .ok (shows_assemble shows holds (realizes_assemble shared holds size neighbors))

/-! ## 3. Agreement -/

/-- The answers of the stores fit together, and the nodes have one role each. -/
structure Consistent (s : Stored) : Prop where
  edge : ∀ u v, [s.hasEdge u v = true, s.hasEdge v u = true, v ∈ s.neighbors u,
    u ∈ s.neighbors v, (min u v, max u v) ∈ s.edges].TFAE
  loopless : ∀ node, s.hasEdge node node = false
  edges_ascending : s.edges.Pairwise Graph.EdgeLt
  neighbors_ascending : ∀ node, (s.neighbors node).Pairwise (· < ·)
  ends : ∀ edge ∈ s.edges, edge.1 < edge.2 ∧ edge.2 < s.size
  /-- Going through the edges meets the neighbors of a node in their order. -/
  farEnds : ∀ node, Graph.farEnds node s.edges = s.neighbors node
  degrees : ∑ node ∈ Finset.range s.size, (s.neighbors node).length = 2 * s.edgeCount
  role : ∀ node < s.size, s.isSwitch node = !s.isServer node
  tors : ∀ node, s.isTor node = true → s.isSwitch node = true
  racked : ∀ server, s.isServer server = true →
    ∀ neighbor ∈ s.neighbors server, s.isTor neighbor = true

theorem Shows.edge_tfae (shows : s.Shows t) (u v : ℕ) :
    [s.hasEdge u v = true, s.hasEdge v u = true, v ∈ s.neighbors u, u ∈ s.neighbors v,
      (min u v, max u v) ∈ s.edges].TFAE := by
  rw [shows.hasEdge, shows.hasEdge, shows.neighbors, shows.neighbors, shows.edges]
  tfae_have 1 ↔ 2 := by rw [Topology.hasEdge, Topology.hasEdge, t.graph.hasEdge_comm]
  tfae_have 1 ↔ 3 := Graph.hasEdge_iff
  tfae_have 2 ↔ 4 := Graph.hasEdge_iff
  tfae_have 5 ↔ 3 := Graph.min_max_mem_edges_iff
  tfae_finish

theorem Shows.consistent (shows : s.Shows t) (made : Topology.ofBlueprint b = .ok t) :
    s.Consistent := by
  obtain ⟨valid, realizes⟩ := ofBlueprint_eq_ok_iff.1 made
  refine {
    edge := shows.edge_tfae
    loopless := fun node => (shows.hasEdge node node).trans (t.graph.hasEdge_self node)
    edges_ascending := shows.edges ▸ t.graph.pairwise_edges
    neighbors_ascending := fun node => shows.neighbors node ▸ (t.neighbors node).ascending
    ends := fun edge listed => ?_
    farEnds := fun node => ?_
    degrees := ?_
    role := fun node inRange => ?_
    tors := fun node isTor => ?_
    racked := fun server isServer neighbor adjacent => ?_ }
  · rw [shows.edges] at listed
    rw [shows.size]
    exact ⟨Graph.lt_of_mem_edges listed, (Graph.lt_size_of_mem_edges listed).2⟩
  · rw [shows.edges, shows.neighbors]
    exact Graph.farEnds_edges node
  · rw [shows.size, shows.edgeCount]
    exact (Finset.sum_congr rfl fun node _ => congrArg List.length (shows.neighbors node)).trans
      t.graph.sum_size_neighbors
  · rw [shows.size, realizes.size] at inRange
    rw [shows.isSwitch, shows.isServer, Bool.eq_iff_iff, Bool.not_eq_true', ← Bool.not_eq_true,
      realizes.isSwitch, realizes.isServer]
    constructor
    · exact fun inSwitches inServers => valid.disjoint node inServers inSwitches
    · exact (valid.mem_switches_or_mem_servers inRange).resolve_right
  · rw [shows.isTor, realizes.isTor] at isTor
    rw [shows.isSwitch, realizes.isSwitch]
    exact valid.tors node isTor
  · rw [shows.isServer, realizes.isServer] at isServer
    rw [shows.neighbors, NodeSet.mem_toList, realizes.neighbors] at adjacent
    rw [shows.isTor, realizes.isTor]
    cases adjacent with
    | inl forth => exact (valid.racked _ forth).1 isServer
    | inr back => exact (valid.racked _ back).2 isServer

/-- Stores are filled for the blueprints that make a topology, and then all of them show it. -/
theorem ofBlueprint_exact (b : Blueprint) :
    (∀ fault, ofBlueprint b = .error fault ↔
      ∃ cause, Topology.ofBlueprint b = .error cause ∧ StoreFault.refused cause = fault) ∧
    ∀ s, ofBlueprint b = .ok s →
      s.Consistent ∧ ∃ t, Topology.ofBlueprint b = .ok t ∧ s.Shows t ∧ t.Realizes b := by
  refine ⟨fun fault => (ofBlueprint_mirrors b).eq_error_iff, fun s filled => ?_⟩
  obtain ⟨t, made, shows⟩ := (filled ▸ ofBlueprint_mirrors b).exists_of_ok
  exact ⟨shows.consistent made, t, made, shows, (ofBlueprint_eq_ok_iff.1 made).2⟩

end Stored

def rack : Topology := (ofBlueprint .rack).toOption.get (by decide)

theorem Stored.rack_exact :
    ∃ s, Stored.ofBlueprint .rack = .ok s ∧ s.Consistent ∧
      s.edges = [(0, 1), (1, 2), (1, 3)] ∧ s.neighbors 1 = [0, 2, 3] := by
  have made : Topology.ofBlueprint .rack = .ok rack := rfl
  obtain ⟨s, filled, shows⟩ := (made ▸ Stored.ofBlueprint_mirrors .rack).exists_image
  obtain ⟨consistent, -⟩ := (Stored.ofBlueprint_exact .rack).2 s filled
  exact ⟨s, filled, consistent, shows.edges.trans rfl, (shows.neighbors 1).trans rfl⟩

end Topology

end Multipath
