/-!
# Sets of nodes

A set of node ids is kept as its strictly ascending list, so two sets with the
same members are equal and the smallest member comes first.

* `insert?` refuses a member (`insert?_eq_none_iff`).
* Otherwise it adds exactly the new node (`mem_of_insert?`).
-/

namespace Multipath

structure NodeSet where
  toList : List Nat
  ascending : toList.Pairwise (· < ·)
deriving DecidableEq, Repr

/-- Puts `node` in its place; `none` when it is listed already. -/
def insertAscending? (node : Nat) : List Nat → Option (List Nat)
  | [] => some [node]
  | least :: greater =>
    if node < least then some (node :: least :: greater)
    else if node = least then none
    else (insertAscending? node greater).map (least :: ·)

theorem mem_of_insertAscending? {node : Nat} {nodes result : List Nat}
    (inserted : insertAscending? node nodes = some result) (other : Nat) :
    other ∈ result ↔ other = node ∨ other ∈ nodes := by
  induction nodes generalizing result with
  | nil => simp_all [insertAscending?, eq_comm]
  | cons least greater ih =>
      simp only [insertAscending?] at inserted
      split at inserted
      · simp [← Option.some.inj inserted]
      · split at inserted
        · simp at inserted
        · obtain ⟨tail, insertedTail, rfl⟩ := Option.map_eq_some_iff.1 inserted
          simp only [List.mem_cons, ih insertedTail]
          exact or_left_comm

theorem insertAscending?_eq_none_iff {node : Nat} {nodes : List Nat}
    (ascending : nodes.Pairwise (· < ·)) : insertAscending? node nodes = none ↔ node ∈ nodes := by
  induction nodes with
  | nil => simp [insertAscending?]
  | cons least greater ih =>
      have above : ∀ other ∈ greater, least < other := fun _ => List.rel_of_pairwise_cons ascending
      simp only [insertAscending?, List.mem_cons]
      split
      · rename_i smaller
        simp only [reduceCtorEq, false_iff, not_or]
        exact ⟨Nat.ne_of_lt smaller, fun listed => Nat.lt_asymm smaller (above node listed)⟩
      · split
        · simp_all
        · simp_all [ih ascending.of_cons]

theorem pairwise_of_insertAscending? {node : Nat} {nodes result : List Nat}
    (ascending : nodes.Pairwise (· < ·)) (inserted : insertAscending? node nodes = some result) :
    result.Pairwise (· < ·) := by
  induction nodes generalizing result with
  | nil =>
      simp only [insertAscending?, Option.some.injEq] at inserted
      simp [← inserted]
  | cons least greater ih =>
      have above : ∀ other ∈ greater, least < other := fun _ => List.rel_of_pairwise_cons ascending
      simp only [insertAscending?] at inserted
      split at inserted
      · rename_i smaller
        rw [← Option.some.inj inserted, List.pairwise_cons]
        refine ⟨fun other listed => ?_, ascending⟩
        rcases List.mem_cons.1 listed with rfl | listed
        · exact smaller
        · exact Nat.lt_trans smaller (above other listed)
      · split at inserted
        · simp at inserted
        · rename_i notSmaller different
          obtain ⟨tail, insertedTail, rfl⟩ := Option.map_eq_some_iff.1 inserted
          refine List.pairwise_cons.2 ⟨fun other listed => ?_, ih ascending.of_cons insertedTail⟩
          rcases (mem_of_insertAscending? insertedTail other).1 listed with rfl | listed
          · omega
          · exact above other listed

namespace NodeSet

def empty : NodeSet := ⟨[], List.Pairwise.nil⟩

instance : EmptyCollection NodeSet := ⟨empty⟩

instance : Inhabited NodeSet := ⟨empty⟩

instance : Membership Nat NodeSet := ⟨fun nodes node => node ∈ nodes.toList⟩

instance (node : Nat) (nodes : NodeSet) : Decidable (node ∈ nodes) :=
  inferInstanceAs (Decidable (node ∈ nodes.toList))

def size (nodes : NodeSet) : Nat := nodes.toList.length

/-- The set with `node` added; `none` when `node` is a member already. -/
def insert? (nodes : NodeSet) (node : Nat) : Option NodeSet :=
  match inserted : insertAscending? node nodes.toList with
  | none => none
  | some result => some ⟨result, pairwise_of_insertAscending? nodes.ascending inserted⟩

/-- The ids below `bound` that pass the test. -/
def below (bound : Nat) (passes : Nat → Bool) : NodeSet where
  toList := (List.range bound).filter passes
  ascending := List.Pairwise.filter _ List.pairwise_lt_range

theorem mem_toList {node : Nat} {nodes : NodeSet} : node ∈ nodes.toList ↔ node ∈ nodes := Iff.rfl

theorem not_mem_empty (node : Nat) : ¬ node ∈ empty := List.not_mem_nil

theorem mem_below {bound node : Nat} {passes : Nat → Bool} :
    node ∈ below bound passes ↔ node < bound ∧ passes node = true := by
  simp [← mem_toList, below]

theorem insert?_eq_none_iff {nodes : NodeSet} {node : Nat} :
    nodes.insert? node = none ↔ node ∈ nodes := by
  rw [← mem_toList, ← insertAscending?_eq_none_iff nodes.ascending, insert?]
  split <;> simp_all

theorem mem_of_insert? {nodes grown : NodeSet} {node : Nat}
    (inserted : nodes.insert? node = some grown) (other : Nat) :
    other ∈ grown ↔ other = node ∨ other ∈ nodes := by
  rw [insert?] at inserted
  split at inserted
  · simp at inserted
  · rename_i result insertedList
    rw [← Option.some.inj inserted]
    exact mem_of_insertAscending? insertedList other

end NodeSet

end Multipath
