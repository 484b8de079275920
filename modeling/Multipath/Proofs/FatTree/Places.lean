import Mathlib.Data.List.Nodup
import Mathlib.Data.List.ProdSigma
import Multipath.FatTree
import Multipath.Proofs.Rows

/-!
# Places in a fat tree

A node of a fat tree has a place: its layer and its indices there. Ids are given out place by
place, and a place is found again from its id (`Place.ofNode`), so no id is given out twice.

Results:
1. `getElem?_pairs`, `mem_pairs`, `nodup_pairs`: lists over two indices.
2. `Place.ofNode_node`, `Place.node_inj`: different places have different ids.
3. `find?_build`: the lookups of a built tree give the ids of all its places.
-/

namespace Multipath.FatTree

/-! ## 1. Lists over two indices -/

variable {first second i j : ℕ}

theorem getElem?_pairs (inFirst : i < first) (inSecond : j < second) :
    (pairs first second)[i * second + j]? = some (i, j) := by
  rw [pairs, Rows.getElem?_flatMap_range inSecond, List.getElem?_range inFirst]
  rfl

theorem pairs_eq_product (first second : ℕ) :
    pairs first second = List.range first ×ˢ List.range second := rfl

theorem mem_pairs : (i, j) ∈ pairs first second ↔ i < first ∧ j < second := by
  rw [pairs_eq_product, List.mem_product, List.mem_range, List.mem_range]

theorem nodup_pairs (first second : ℕ) : (pairs first second).Nodup :=
  List.Nodup.product List.nodup_range List.nodup_range

theorem length_pairs (first second : ℕ) : (pairs first second).length = first * second := by
  rw [pairs_eq_product, List.length_product, List.length_range, List.length_range]

/-! ## 2. Ids -/

/-- A layer of the tree, with the indices of one of its nodes. -/
inductive Place
  | core (group index : ℕ)
  | edge (pod index : ℕ)
  | agg (pod index : ℕ)
  | host (pod rack index : ℕ)
deriving DecidableEq, Repr

/-- The number of nodes of a pod. -/
def podSize (half : ℕ) : ℕ := 2 * half + half * half

namespace Place

variable {pods half : ℕ} {u v : Place}

/-- The place exists in a tree of so many pods. -/
def InTree (pods half : ℕ) : Place → Prop
  | core group index => group < half ∧ index < half
  | edge pod index => pod < pods ∧ index < half
  | agg pod index => pod < pods ∧ index < half
  | host pod rack index => pod < pods ∧ rack < half ∧ index < half

instance (pods half : ℕ) : DecidablePred (InTree pods half)
  | core group index => inferInstanceAs (Decidable (group < half ∧ index < half))
  | edge pod index => inferInstanceAs (Decidable (pod < pods ∧ index < half))
  | agg pod index => inferInstanceAs (Decidable (pod < pods ∧ index < half))
  | host pod rack index => inferInstanceAs (Decidable (pod < pods ∧ rack < half ∧ index < half))

def node (half : ℕ) : Place → ℕ
  | core group index => coreId half group index
  | edge pod index => edgeId half pod index
  | agg pod index => aggId half pod index
  | host pod rack index => hostId half pod rack index

/-- The place in pod `pod` with this many nodes of the pod before it. -/
def inPod (half pod offset : ℕ) : Place :=
  if offset < half then edge pod offset
  else if offset < 2 * half then agg pod (offset - half)
  else host pod ((offset - 2 * half) / half) ((offset - 2 * half) % half)

/-- The place that has an id. -/
def ofNode (half node : ℕ) : Place :=
  if node < half * half then core (node / half) (node % half)
  else inPod half ((node - half * half) / podSize half) ((node - half * half) % podSize half)

theorem ofNode_podStart_add {pod offset : ℕ} (inside : offset < podSize half) :
    ofNode half (podStart half pod + offset) = inPod half pod offset := by
  have behindCores : ¬ podStart half pod + offset < half * half := by
    unfold podStart
    omega
  have rest : podStart half pod + offset - half * half = pod * podSize half + offset := by
    unfold podStart podSize
    omega
  rw [ofNode, if_neg behindCores, rest, Rows.cell_div inside, Rows.cell_mod inside]

theorem ofNode_node (inTree : u.InTree pods half) : ofNode half (u.node half) = u := by
  cases u with
  | core group index =>
    obtain ⟨inGroups, inGroup⟩ := inTree
    rw [Place.node, coreId, ofNode, if_pos (Rows.cell_lt inGroups inGroup), Rows.cell_div inGroup,
      Rows.cell_mod inGroup]
  | edge pod index =>
    have inside : index < podSize half := by
      unfold podSize
      have := inTree.2
      omega
    rw [Place.node, edgeId, ofNode_podStart_add inside, inPod, if_pos inTree.2]
  | agg pod index =>
    have inLayer := inTree.2
    have inside : half + index < podSize half := by
      unfold podSize
      omega
    rw [Place.node, aggId, Nat.add_assoc, ofNode_podStart_add inside, inPod, if_neg (by omega),
      if_pos (by omega), Nat.add_sub_cancel_left]
  | host pod rack index =>
    obtain ⟨-, inLayer, atRack⟩ := inTree
    have inside : 2 * half + (rack * half + index) < podSize half :=
      Nat.add_lt_add_left (Rows.cell_lt inLayer atRack) _
    rw [Place.node, hostId, Nat.add_assoc, Nat.add_assoc, ofNode_podStart_add inside, inPod,
      if_neg (by omega), if_neg (by omega), Nat.add_sub_cancel_left, Rows.cell_div atRack,
      Rows.cell_mod atRack]

theorem node_inj (inTree : u.InTree pods half) (inTreeOther : v.InTree pods half) :
    u.node half = v.node half ↔ u = v := by
  constructor
  · intro same
    rw [← ofNode_node inTree, same, ofNode_node inTreeOther]
  · rintro rfl
    rfl

end Place

/-! ## 3. Lookups -/

/-- The node at a place, as the lookup of its layer finds it. -/
def find? (tree : FatTree) : Place → Option ℕ
  | .core group index => tree.core? group index
  | .edge pod index => tree.edge? pod index
  | .agg pod index => tree.agg? pod index
  | .host pod rack index => tree.host? pod rack index

theorem find?_build {arity : ℕ} {place : Place} (inTree : place.InTree arity (arity / 2)) :
    (build arity).find? place = some (place.node (arity / 2)) := by
  cases place with
  | core group index =>
    show ((pairs (arity / 2) (arity / 2)).map _)[_]? = _
    rw [List.getElem?_map, build, half, getElem?_pairs inTree.1 inTree.2]
    rfl
  | edge pod index =>
    show ((pairs arity (arity / 2)).map _)[_]? = _
    rw [List.getElem?_map, build, half, getElem?_pairs inTree.1 inTree.2]
    rfl
  | agg pod index =>
    show ((pairs arity (arity / 2)).map _)[_]? = _
    rw [List.getElem?_map, build, half, getElem?_pairs inTree.1 inTree.2]
    rfl
  | host pod rack index =>
    obtain ⟨inPods, inLayer, atRack⟩ := inTree
    show (hostLayer arity (arity / 2))[(pod * (arity / 2) + rack) * (arity / 2) + index]? = _
    rw [hostLayer, Rows.getElem?_flatMap_range atRack, getElem?_pairs inPods inLayer]
    rfl

end Multipath.FatTree
