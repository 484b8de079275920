import Std.Data.HashSet.Lemmas
import Multipath.Proofs.Graph.FarEnds
import Multipath.Proofs.Graph.Refused
import Multipath.Topology.Basic

/-!
# Edges kept in three stores

The edges of a topology may be kept three times over: in a list, in a hash set, and in a row of
neighbors for each node. One loop over the edges of a blueprint pushes every edge to each of these
stores, and the list and the rows are sorted when it has ended. Here no store is computed from
another one. That they agree is proved along the loop, by the graph that the same edges draw.

Every row is looked up before it is written to, so a missing one would be noticed.

Results:
1. `keyOf_eq`, `Holds.keyOf_mem_iff`: an edge is entered with its lower end first.
2. `Holds.enter`, `Holds.record_mirrors`: one edge.
3. `recordAll_mirrors`, `length_of_recordAll`: all edges, in the order of the blueprint.
4. `Holds.showsSorted`: sorted stores show the graph in the order in which it lists itself.
-/

namespace Multipath

/-- Stores are not filled for a fault of the blueprint, or because a row is not there. -/
inductive StoreFault
  | refused (cause : TopologyError)
  | noRow (node : ℕ)
deriving DecidableEq, Repr

structure EdgeStores where
  list : Array (ℕ × ℕ)
  keys : Std.HashSet (ℕ × ℕ)
  rows : Array (Array ℕ)

namespace EdgeStores

def empty (size : ℕ) : EdgeStores := ⟨#[], ∅, Array.replicate size #[]⟩

def keyOf (a b : ℕ) : ℕ × ℕ := if a < b then (a, b) else (b, a)

def enterAt (rows : Array (Array ℕ)) (node far : ℕ) : Except StoreFault (Array (Array ℕ)) :=
  if inRange : node < rows.size then .ok (rows.set node (rows[node].push far))
  else .error (.noRow node)

def enter (stores : EdgeStores) (key : ℕ × ℕ) : Except StoreFault EdgeStores := do
  if key ∈ stores.keys then throw (.refused (.badEdge (.duplicate key.1 key.2)))
  let rows ← enterAt stores.rows key.1 key.2
  let rows ← enterAt rows key.2 key.1
  return { list := stores.list.push key, keys := stores.keys.insert key, rows }

/-- Enters an edge of the blueprint into all stores. -/
def record (size : ℕ) (stores : EdgeStores) (edge : ℕ × ℕ) : Except StoreFault EdgeStores :=
  if edge.1 = edge.2 then .error (.refused (.badEdge (.loop edge.1)))
  else if size ≤ edge.1 then .error (.refused (.badEdge (.outOfRange edge.1 size)))
  else if size ≤ edge.2 then .error (.refused (.badEdge (.outOfRange edge.2 size)))
  else stores.enter (keyOf edge.1 edge.2)

def recordAll (size : ℕ) (edges : List (ℕ × ℕ)) : Except StoreFault EdgeStores :=
  edges.foldlM (record size) (empty size)

/-- Lower ends come first in the comparison of edges. -/
def edgeLe (edge later : ℕ × ℕ) : Bool :=
  edge.1 < later.1 || edge.1 = later.1 && edge.2 ≤ later.2

def sorted (stores : EdgeStores) : EdgeStores where
  list := (stores.list.toList.mergeSort edgeLe).toArray
  keys := stores.keys
  rows := stores.rows.map fun row => row.toList.mergeSort.toArray

/-- The row of a node; an empty one for an id that is no node. -/
def row (stores : EdgeStores) (node : ℕ) : List ℕ := (stores.rows[node]?.getD #[]).toList

/-! ## 1. Keys -/

theorem keyOf_eq (a b : ℕ) : keyOf a b = (min a b, max a b) := by
  unfold keyOf
  split
  · next below => rw [min_eq_left below.le, max_eq_right below.le]
  · next notBelow =>
    rw [min_eq_right (Nat.not_lt.1 notBelow), max_eq_left (Nat.not_lt.1 notBelow)]

theorem keyOf_lt {a b : ℕ} (apart : a ≠ b) : (keyOf a b).1 < (keyOf a b).2 := by
  rw [keyOf_eq]
  exact min_lt_max.2 apart

theorem keyOf_eq_or (a b : ℕ) : keyOf a b = (a, b) ∨ keyOf a b = (b, a) := by
  unfold keyOf
  split
  · exact Or.inl rfl
  · exact Or.inr rfl

theorem adjacent_keyOf_iff {g : Graph} {a b : ℕ} :
    (keyOf a b).2 ∈ g.neighbors (keyOf a b).1 ↔ b ∈ g.neighbors a := by
  rcases keyOf_eq_or a b with forth | back
  · rw [forth]
  · rw [back]
    exact ⟨g.symmetric b a, g.symmetric a b⟩

/-- An edge is drawn in both directions, whichever of its ends comes first. -/
theorem draws_keyOf {g grown : Graph} {a b : ℕ} (draws : g.Draws [(a, b)] grown) :
    g.Draws [keyOf a b] grown := by
  rcases keyOf_eq_or a b with forth | back
  · rwa [forth]
  · refine ⟨draws.size, fun u v => ?_⟩
    rw [draws.neighbors, back, or_left_comm]
    simp only [List.mem_singleton, Prod.mk.injEq, and_comm]

/-- The stores have the edges of the graph, each in the order in which it was entered. -/
structure Holds (size : ℕ) (stores : EdgeStores) (g : Graph) : Prop where
  nodes : g.size = size
  sized : stores.rows.size = size
  list : stores.list.toList.Perm g.edges
  keys : ∀ edge, edge ∈ stores.keys ↔ edge ∈ g.edges
  row : ∀ node, (stores.row node).Perm (g.neighbors node).toList

variable {size : ℕ} {stores entered : EdgeStores} {g grown : Graph} {key : ℕ × ℕ}

theorem Holds.keyOf_mem_iff (holds : Holds size stores g) {a b : ℕ} :
    keyOf a b ∈ stores.keys ↔ b ∈ g.neighbors a := by
  rw [holds.keys, keyOf_eq, Graph.min_max_mem_edges_iff]

theorem holds_empty (size : ℕ) : Holds size (empty size) (Graph.empty size) where
  nodes := Graph.size_empty size
  sized := Array.size_replicate
  list := by
    have none : (Graph.empty size).edges = [] := by
      refine List.eq_nil_iff_forall_not_mem.2 fun edge listed => ?_
      have adjacent := Graph.hasEdge_iff.1 (Graph.mem_edges.1 listed).2
      exact Graph.not_mem_neighbors_empty size edge.1 edge.2 adjacent
    rw [none]
    exact List.Perm.refl []
  keys edge := by
    refine iff_of_false Std.HashSet.not_mem_empty fun listed => ?_
    have adjacent := Graph.hasEdge_iff.1 (Graph.mem_edges.1 listed).2
    exact Graph.not_mem_neighbors_empty size edge.1 edge.2 adjacent
  row node := by
    have none : (empty size).row node = [] := by
      unfold row empty
      dsimp only
      rw [Array.getElem?_replicate]
      split <;> rfl
    rw [none, Graph.neighbors, Graph.empty, rowOf_replicate]
    exact List.Perm.refl []

/-! ## 2. One edge -/

theorem enterAt_eq_ok {rows : Array (Array ℕ)} {node : ℕ} (inRange : node < rows.size) (far : ℕ) :
    ∃ written, enterAt rows node far = .ok written ∧ written.size = rows.size ∧
      ∀ other, (written[other]?.getD #[]).toList =
        (rows[other]?.getD #[]).toList ++ if node = other then [far] else [] := by
  refine ⟨_, dif_pos inRange, Array.size_set .., fun other => ?_⟩
  rw [Array.getElem?_set]
  split
  · next same =>
    subst same
    rw [Array.getElem?_eq_getElem inRange, Option.getD_some, Option.getD_some, Array.toList_push]
  · rw [List.append_nil]

/-- What is pushed to the row of a node for an edge. -/
theorem toList_farEnd? {key : ℕ × ℕ} (ordered : key.1 < key.2) (node : ℕ) :
    (Graph.farEnd? node key).toList =
      (if key.1 = node then [key.2] else []) ++ if key.2 = node then [key.1] else [] := by
  unfold Graph.farEnd?
  by_cases atLow : key.1 = node
  · have notHigh : key.2 ≠ node := by omega
    simp [atLow, notHigh]
  · by_cases atHigh : key.2 = node <;> simp [atLow, atHigh]

theorem exists_enter (ordered : key.1 < key.2) (inRange : key.2 < stores.rows.size)
    (new : key ∉ stores.keys) :
    ∃ entered, stores.enter key = .ok entered ∧ entered.rows.size = stores.rows.size ∧
      entered.list.toList = stores.list.toList ++ [key] ∧
      (∀ edge, edge ∈ entered.keys ↔ edge = key ∨ edge ∈ stores.keys) ∧
      ∀ node, entered.row node = stores.row node ++ (Graph.farEnd? node key).toList := by
  obtain ⟨half, wroteHalf, sizedHalf, rowsHalf⟩ :=
    enterAt_eq_ok (ordered.trans inRange) key.2
  obtain ⟨rows, wrote, sized, rowsBoth⟩ := enterAt_eq_ok (sizedHalf ▸ inRange) key.1
  refine ⟨⟨stores.list.push key, stores.keys.insert key, rows⟩, ?_, sized.trans sizedHalf,
    Array.toList_push, fun edge => ?_, fun node => ?_⟩
  · rw [enter, if_neg new, wroteHalf]
    show enterAt half key.2 key.1 >>= _ = _
    rw [wrote]
    rfl
  · rw [Std.HashSet.mem_insert, beq_iff_eq, eq_comm]
  · rw [row, rowsBoth, rowsHalf, List.append_assoc, toList_farEnd? ordered]
    rfl

section

variable (ordered : key.1 < key.2) (new : ¬ key.2 ∈ g.neighbors key.1) (draws : g.Draws [key] grown)
include ordered new draws

theorem perm_edges_of_draws : (g.edges ++ [key]).Perm grown.edges := by
  have unlisted : key ∉ g.edges := fun listed =>
    new (Graph.hasEdge_iff.1 (Graph.mem_edges.1 listed).2)
  have distinct : (g.edges ++ [key]).Nodup :=
    (List.nodup_append_comm.trans List.nodup_cons).2 ⟨unlisted, g.nodup_edges⟩
  rw [List.perm_ext_iff_of_nodup distinct grown.nodup_edges]
  rintro ⟨low, high⟩
  rw [List.mem_append, List.mem_singleton, Graph.mem_edges, Graph.mem_edges, Graph.hasEdge_iff,
    Graph.hasEdge_iff, draws.neighbors, List.mem_singleton, List.mem_singleton]
  constructor
  · rintro (⟨below, adjacent⟩ | rfl)
    · exact ⟨below, Or.inr (Or.inr adjacent)⟩
    · exact ⟨ordered, Or.inl rfl⟩
  · rintro ⟨below, rfl | turned | adjacent⟩
    · exact Or.inr rfl
    · subst turned
      exact absurd below ordered.asymm
    · exact Or.inl ⟨below, adjacent⟩

theorem perm_neighbors_of_draws (node : ℕ) :
    ((g.neighbors node).toList ++ (Graph.farEnd? node key).toList).Perm
      (grown.neighbors node).toList := by
  have nodup (nodes : NodeSet) : nodes.toList.Nodup := nodes.ascending.imp Nat.ne_of_lt
  have apart : ∀ other ∈ (g.neighbors node).toList, ∀ far ∈ (Graph.farEnd? node key).toList,
      other ≠ far := by
    rintro other adjacent far found rfl
    rw [Option.mem_toList, Graph.farEnd?_eq_some_iff ordered] at found
    rcases found with rfl | rfl
    · exact new adjacent
    · exact new (g.symmetric _ _ adjacent)
  have distinct : ((g.neighbors node).toList ++ (Graph.farEnd? node key).toList).Nodup :=
    List.nodup_append.2 ⟨nodup _, by cases Graph.farEnd? node key <;> simp, apart⟩
  rw [List.perm_ext_iff_of_nodup distinct (nodup _)]
  intro other
  rw [List.mem_append, Option.mem_toList, Graph.farEnd?_eq_some_iff ordered,
    NodeSet.mem_toList, NodeSet.mem_toList, draws.neighbors, List.mem_singleton, List.mem_singleton,
    eq_comm (a := key), eq_comm (a := key), or_comm, or_assoc]

end

/-- An edge that the graph takes is entered into all stores. -/
theorem Holds.enter (holds : Holds size stores g) (ordered : key.1 < key.2) (inRange : key.2 < size)
    (new : ¬ key.2 ∈ g.neighbors key.1) (draws : g.Draws [key] grown) :
    ∃ entered, stores.enter key = .ok entered ∧ Holds size entered grown := by
  have unknown : key ∉ stores.keys := fun known =>
    new (Graph.hasEdge_iff.1 (Graph.mem_edges.1 ((holds.keys key).1 known)).2)
  obtain ⟨entered, done, sized, list, keys, rows⟩ :=
    exists_enter ordered (holds.sized.symm ▸ inRange) unknown
  have listed := perm_edges_of_draws ordered new draws
  refine ⟨entered, done, draws.size.trans holds.nodes, sized.trans holds.sized, ?_, fun edge => ?_,
    fun node => ?_⟩
  · rw [list]
    exact (holds.list.append_right [key]).trans listed
  · rw [keys, holds.keys, ← listed.mem_iff, List.mem_append, List.mem_singleton, or_comm]
  · rw [rows]
    exact ((holds.row node).append_right _).trans (perm_neighbors_of_draws ordered new draws node)

/-- The graph and the stores take the same edges and refuse the others alike. -/
theorem Holds.record_mirrors (holds : Holds size stores g) (edge : ℕ × ℕ) :
    Mirrors (StoreFault.refused ∘ TopologyError.badEdge) (fun g stores => Holds size stores g)
      (g.connect edge.1 edge.2) (record size stores edge) := by
  obtain ⟨a, b⟩ := edge
  have sized := holds.nodes
  unfold record
  dsimp only
  by_cases loop : a = b
  · rw [Graph.connect, dif_pos loop, if_pos loop]
    exact .error (EdgeError.loop a)
  by_cases first : a < g.size
  swap
  · rw [Graph.connect, dif_neg loop, dif_neg first, if_neg loop, if_pos (by omega), sized]
    exact .error (EdgeError.outOfRange a size)
  by_cases second : b < g.size
  swap
  · rw [Graph.connect, dif_neg loop, dif_pos first, dif_neg second, if_neg loop, if_neg (by omega),
      if_pos (by omega), sized]
    exact .error (EdgeError.outOfRange b size)
  rw [if_neg loop, if_neg (by omega), if_neg (by omega)]
  by_cases adjacent : b ∈ g.neighbors a
  · have known := holds.keyOf_mem_iff.2 adjacent
    rw [Graph.connect_of_adjacent adjacent, EdgeStores.enter, if_pos known, keyOf_eq]
    exact .error (EdgeError.duplicate (min a b) (max a b))
  · have accepted : g.Accepts (a, b) := ⟨loop, ⟨first, second⟩, adjacent⟩
    obtain ⟨grown, draws⟩ := accepted.exists_draws
    have connected : g.connect a b = .ok grown := Graph.connect_eq_ok_iff.2 ⟨accepted, draws⟩
    have inRange : (keyOf a b).2 < size := by
      rw [keyOf_eq]
      exact max_lt (sized ▸ first) (sized ▸ second)
    obtain ⟨entered, done, holdsEntered⟩ := holds.enter (keyOf_lt loop) inRange
      (fun known => adjacent (adjacent_keyOf_iff.1 known)) (draws_keyOf draws)
    rw [connected, done]
    exact .ok holdsEntered

/-! ## 3. All edges -/

theorem recordAll_mirrors (size : ℕ) (edges : List (ℕ × ℕ)) :
    Mirrors (StoreFault.refused ∘ TopologyError.badEdge) (fun g stores => Holds size stores g)
      (Graph.ofEdges size edges) (recordAll size edges) :=
  Mirrors.foldlM (fun _ _ holds edge => holds.record_mirrors edge) (holds_empty size)

theorem length_of_enter (done : stores.enter key = .ok entered) :
    entered.list.size = stores.list.size + 1 := by
  unfold enter at done
  split at done
  · cases done
  · obtain ⟨half, -, further⟩ := bind_eq_ok_iff.1 done
    obtain ⟨rows, -, made⟩ := bind_eq_ok_iff.1 further
    cases made
    exact Array.size_push _

theorem length_of_record {edge : ℕ × ℕ} (done : record size stores edge = .ok entered) :
    entered.list.size = stores.list.size + 1 := by
  unfold record at done
  split at done
  · cases done
  split at done
  · cases done
  split at done
  · cases done
  · exact length_of_enter done

theorem length_of_foldlM_record {edges : List (ℕ × ℕ)} {start : EdgeStores}
    (done : edges.foldlM (record size) start = .ok stores) :
    stores.list.size = start.list.size + edges.length := by
  induction edges generalizing start with
  | nil =>
    cases done
    rfl
  | cons edge rest ih =>
    rw [List.foldlM_cons] at done
    obtain ⟨next, recorded, further⟩ := bind_eq_ok_iff.1 done
    rw [ih further, length_of_record recorded, List.length_cons, Nat.add_right_comm, Nat.add_assoc]

/-- As many edges are listed as the blueprint has. -/
theorem length_of_recordAll {edges : List (ℕ × ℕ)} (done : recordAll size edges = .ok stores) :
    stores.list.size = edges.length :=
  (length_of_foldlM_record done).trans (Nat.zero_add _)

/-! ## 4. Sorted stores -/

/-- Sorting undoes any order in which the items of a sorted list were entered. -/
theorem mergeSort_eq_of_perm {α : Type} {le : α → α → Bool}
    (trans : ∀ a b c, le a b = true → le b c = true → le a c = true)
    (total : ∀ a b, (le a b || le b a) = true)
    (antisymm : ∀ a b, le a b = true → le b a = true → a = b) {entered ordered : List α}
    (permuted : entered.Perm ordered) (ascending : ordered.Pairwise fun a b => le a b = true) :
    entered.mergeSort le = ordered :=
  ((List.mergeSort_perm entered le).trans permuted).eq_of_pairwise
    (fun a b _ _ => antisymm a b) (List.pairwise_mergeSort trans total entered) ascending

theorem edgeLe_iff {edge later : ℕ × ℕ} :
    edgeLe edge later = true ↔ edge.1 < later.1 ∨ edge.1 = later.1 ∧ edge.2 ≤ later.2 := by
  unfold edgeLe
  simp only [Bool.or_eq_true, Bool.and_eq_true, decide_eq_true_eq]

theorem mergeSort_edges {listed : List (ℕ × ℕ)} (permuted : listed.Perm g.edges) :
    listed.mergeSort edgeLe = g.edges := by
  refine mergeSort_eq_of_perm ?trans ?total ?antisymm permuted ?ascending
  case ascending =>
    exact g.pairwise_edges.imp fun less => edgeLe_iff.2 (less.imp_right (.imp_right le_of_lt))
  case trans =>
    intro a b c
    simp only [edgeLe_iff]
    omega
  case total =>
    intro a b
    rw [Bool.or_eq_true, edgeLe_iff, edgeLe_iff]
    omega
  case antisymm =>
    intro a b
    rw [edgeLe_iff, edgeLe_iff, Prod.ext_iff]
    omega

theorem mergeSort_nodes {nodes : NodeSet} {listed : List ℕ}
    (permuted : listed.Perm nodes.toList) : listed.mergeSort = nodes.toList := by
  refine mergeSort_eq_of_perm ?trans ?total ?antisymm permuted ?ascending
  case ascending => exact nodes.ascending.imp fun less => decide_eq_true less.le
  all_goals
    simp only [Bool.or_eq_true, decide_eq_true_eq]
    omega

/-- The stores list the edges and neighbors of the graph in its order. -/
structure ShowsSorted (size : ℕ) (stores : EdgeStores) (g : Graph) : Prop where
  nodes : g.size = size
  sized : stores.rows.size = size
  list : stores.list.toList = g.edges
  keyOf_mem : ∀ a b, keyOf a b ∈ stores.keys ↔ b ∈ g.neighbors a
  row : ∀ node, stores.row node = (g.neighbors node).toList

theorem row_sorted (stores : EdgeStores) (node : ℕ) :
    stores.sorted.row node = (stores.row node).mergeSort := by
  unfold row sorted
  rw [Array.getElem?_map]
  cases stores.rows[node]? with
  | none => exact List.mergeSort_nil.symm
  | some row => rfl

theorem size_list_sorted (stores : EdgeStores) : stores.sorted.list.size = stores.list.size := by
  unfold sorted
  rw [List.size_toArray, List.length_mergeSort, Array.length_toList]

theorem Holds.showsSorted (holds : Holds size stores g) : ShowsSorted size stores.sorted g where
  nodes := holds.nodes
  sized := Array.size_map.trans holds.sized
  list := mergeSort_edges holds.list
  keyOf_mem _ _ := holds.keyOf_mem_iff
  row node := (row_sorted stores node).trans (mergeSort_nodes (holds.row node))

end EdgeStores

end Multipath
