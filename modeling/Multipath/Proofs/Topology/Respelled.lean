import Multipath.Proofs.Topology.Accepted
import Multipath.Proofs.Topology.Edges

/-!
# Rendering what was read

A file may spell a number in several ways, with a plus sign or leading zeros, and the rendering of
a blueprint has one spelling for each. Ids are compared as numbers when a set of them is read.
Edges are compared by their spelling only, so two spellings of one edge are read as two edges,
and their rendering is refused.

Results:
1. `distinct_of_readIdSet`, `lt_of_readEdges`: single lists.
2. `fitsWords_of_ofText`, `distinct_iff_of_ofText`: what is read has 64 bits, and of the lists the
   edges alone may repeat an item.
3. `ofText_render_of_ofText`: a blueprint that was read is read back from its rendering exactly
   when it has no edge twice, as every blueprint that makes a topology does.
-/

namespace Multipath.Blueprint

/-! ## 1. Lists that are read -/

/-- A set of ids is taken only when its numbers are distinct. -/
theorem distinct_of_readIdSet {set : String} {ids : List ℕ} (read : readIdSet set = .ok ids) :
    ids.Nodup ∧ ∀ id ∈ ids, id < Word.wordBound := by
  unfold readIdSet at read
  obtain ⟨entries, -, further⟩ := bind_eq_ok_iff.1 read
  obtain ⟨numbers, each, checked⟩ := bind_eq_ok_iff.1 further
  split at checked
  · next distinct =>
    cases checked
    exact ⟨distinct, forall_mem_of_mapM_eq_ok (fun _ _ => lt_of_readInteger) each⟩
  · cases checked

theorem lt_of_readEdges {set : String} {edges : List (ℕ × ℕ)} (read : readEdges set = .ok edges) :
    ∀ edge ∈ edges, edge.1 < Word.wordBound ∧ edge.2 < Word.wordBound := by
  obtain ⟨entries, -, each⟩ := bind_eq_ok_iff.1 read
  exact forall_mem_of_mapM_eq_ok (fun _ _ => lt_of_readEdge) each

/-! ## 2. Blueprints that are read -/

variable {text : String} {b : Blueprint}

/-- Every list of a blueprint that is read comes from a set. -/
theorem exists_sets_of_ofText (read : ofText text = .ok b) :
    (∃ set, readEdges set = .ok b.edges) ∧ (∃ numeral, readInteger numeral = .ok b.nodeCount) ∧
      (∃ numeral, readInteger numeral = .ok b.edgeCount) ∧
      ∀ ids ∈ [b.switches, b.tors, b.servers], ∃ set, readIdSet set = .ok ids := by
  unfold ofText ofProperties at read
  simp only [bind_eq_ok_iff] at read
  obtain ⟨known, -, edges, ⟨edgeSet, -, edgesRead⟩, nodeCount, ⟨nodes, -, nodesRead⟩, edgeCount,
    ⟨count, -, countRead⟩, switches, ⟨switchSet, -, switchesRead⟩, tors, ⟨torSet, -, torsRead⟩,
    servers, ⟨serverSet, -, serversRead⟩, made⟩ := read
  cases made
  simp only [List.forall_mem_cons, List.not_mem_nil, false_implies, implies_true, and_true]
  exact ⟨⟨edgeSet, edgesRead⟩, ⟨nodes, nodesRead⟩, ⟨count, countRead⟩, ⟨switchSet, switchesRead⟩,
    ⟨torSet, torsRead⟩, ⟨serverSet, serversRead⟩⟩

theorem fitsWords_of_ofText (read : ofText text = .ok b) : b.FitsWords := by
  obtain ⟨⟨_, edges⟩, ⟨_, nodeCount⟩, ⟨_, edgeCount⟩, sets⟩ := exists_sets_of_ofText read
  have small : ∀ ids ∈ [b.switches, b.tors, b.servers], ∀ id ∈ ids, id < Word.wordBound := by
    intro ids list
    obtain ⟨_, idsRead⟩ := sets ids list
    exact (distinct_of_readIdSet idsRead).2
  exact ⟨lt_of_readInteger nodeCount, lt_of_readInteger edgeCount, small _ (by simp),
    small _ (by simp), small _ (by simp), lt_of_readEdges edges⟩

theorem nodup_of_ofText (read : ofText text = .ok b) :
    ∀ ids ∈ [b.switches, b.tors, b.servers], ids.Nodup := by
  obtain ⟨-, -, -, sets⟩ := exists_sets_of_ofText read
  intro ids list
  obtain ⟨_, idsRead⟩ := sets ids list
  exact (distinct_of_readIdSet idsRead).1

theorem distinct_iff_of_ofText (read : ofText text = .ok b) : b.Distinct ↔ b.edges.Nodup := by
  have distinct := nodup_of_ofText read
  exact ⟨Distinct.edges, fun edges => ⟨distinct _ (by simp), distinct _ (by simp),
    distinct _ (by simp), edges⟩⟩

/-! ## 3. Reading again -/

/-- A blueprint that makes a topology has no edge twice, in the same order of its ends or not. -/
theorem Valid.nodup_edges (valid : b.Valid) : b.edges.Nodup :=
  valid.unrepeated.imp fun apart => Ne.symm apart.1

/-- However a file spells a blueprint, the blueprint is read back from its rendering exactly when
no edge was spelled in two ways. If one was, the rendered edges are refused. Nothing is lost of a
blueprint that makes a topology. -/
theorem ofText_render_of_ofText (read : ofText text = .ok b) :
    (ofText b.render = .ok b ↔ b.edges.Nodup) ∧
      (¬ b.edges.Nodup → ofText b.render =
        .error (.duplicateEntry (String.ofList (renderSet (b.edges.map renderEdge))))) ∧
      ((∃ t, Topology.ofBlueprint b = .ok t) → ofText b.render = .ok b) := by
  have fits := fitsWords_of_ofText read
  have refused : ¬ b.edges.Nodup → ofText b.render =
      .error (.duplicateEntry (String.ofList (renderSet (b.edges.map renderEdge)))) := by
    intro repeats
    rw [ofText_render_eq fits, unlessRepeated, if_neg repeats]
    rfl
  have readBack (distinct : b.edges.Nodup) : ofText b.render = .ok b :=
    ofText_render_of_distinct fits ((distinct_iff_of_ofText read).2 distinct)
  refine ⟨⟨fun accepted => ?_, readBack⟩, refused, fun ⟨t, made⟩ => ?_⟩
  · by_contra repeats
    rw [refused repeats] at accepted
    cases accepted
  · exact readBack (Topology.ofBlueprint_eq_ok_iff.1 made).1.nodup_edges

/-- A file that is read although its two edges are one. -/
def respelledText : String :=
  "# one edge in two spellings\nservers=set()\nswitches=set(0, 01,+2)\nnum_nodes=7\nnum_nodes=003\n" ++
    "switches_which_are_tors=set()\nnum_undirected_edges=2\nundirected_edges=\"set(1-2, 01-2)\"\n"

def respelled : Blueprint where
  nodeCount := 3
  edgeCount := 2
  switches := [0, 1, 2]
  tors := []
  servers := []
  edges := [(1, 2), (1, 2)]

/-- The two spellings pass as two edges, and what is rendered for them is refused. -/
theorem ofText_render_respelled : ofText respelledText = .ok respelled ∧
    ofText respelled.render = .error (.duplicateEntry "set(1-2,1-2)") := by
  have read : ofText respelledText = .ok respelled := by decide +kernel
  have repeats : ¬ respelled.edges.Nodup := by decide
  exact ⟨read, (ofText_render_of_ofText read).2.1 repeats⟩

end Multipath.Blueprint
