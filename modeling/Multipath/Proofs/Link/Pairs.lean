import Mathlib.Order.Bounds.Defs
import Multipath.Proofs.Link.Ports

/-!
# Interfaces from any pairs

Pairs of interfaces need not come from links of the same graph, nor from links at all. What is
asked of them is that there is one for each edge and that none has the loopback in it. No direction
of an edge is a direction of another one, so each of them then finds the pair of its own edge, and
the loopback is left for nodes that are not joined.

Results:
1. `addFrom_eq_error_iff`: the first pair with the loopback is refused.
2. `ofPairs_eq_error_iff`: a wrong number of pairs is refused before that.
3. `ofPairs_exact`: which pairs are refused, and what is answered for all others.
-/

namespace Multipath.Interfaces

/-! ## 1. Pairs with the loopback -/

/-- One of the two nodes would be left through the loopback. -/
def HasLoopback (pair : ℕ × ℕ) : Prop := pair.1 = loopback ∨ pair.2 = loopback

theorem addFrom_eq_error_iff {known : PairMap ℕ} {link : ℕ} {paired : List ((ℕ × ℕ) × (ℕ × ℕ))}
    {fault : LinkError} :
    addFrom known link paired = .error fault ↔ ∃ position edge pair,
      paired[position]? = some (edge, pair) ∧ HasLoopback pair ∧
        (∀ i < position, ∀ item, paired[i]? = some item → ¬ HasLoopback item.2) ∧
        .loopbackInterface (link + position) edge.1 edge.2 = fault := by
  induction paired generalizing known link with
  | nil => simp [addFrom]
  | cons first rest ih =>
    obtain ⟨⟨a, b⟩, ⟨ifA, ifB⟩⟩ := first
    rw [addFrom]
    split
    · next refused =>
      constructor
      · rintro ⟨⟩
        exact ⟨0, (a, b), (ifA, ifB), rfl, refused,
          fun i before => absurd before i.not_lt_zero, rfl⟩
      · rintro ⟨position, edge, pair, found, -, earlier, rfl⟩
        cases position with
        | zero =>
          cases found
          rfl
        | succ position => exact absurd refused (earlier 0 position.succ_pos _ rfl)
    · next kept =>
      rw [ih]
      constructor
      · rintro ⟨position, edge, pair, found, loops, earlier, rfl⟩
        refine ⟨position + 1, edge, pair, found, loops, fun i before item listed => ?_, ?_⟩
        · cases i with
          | zero =>
            cases listed
            exact kept
          | succ i => exact earlier i (Nat.lt_of_succ_lt_succ before) item listed
        · rw [Nat.add_assoc, Nat.add_comm 1]
      · rintro ⟨position, edge, pair, found, loops, earlier, rfl⟩
        cases position with
        | zero =>
          cases found
          exact absurd loops kept
        | succ position =>
          refine ⟨position, edge, pair, found, loops, fun i before item listed =>
            earlier (i + 1) (Nat.succ_lt_succ before) item listed, ?_⟩
          rw [Nat.add_assoc, Nat.add_comm 1]

/-! ## 2. Pairs that are refused -/

variable {g : Graph} {pairs : List (ℕ × ℕ)} {interfaces : Interfaces}

/-- Why pairs are refused. Their number is looked at before any of them. -/
inductive PairsFault (g : Graph) (pairs : List (ℕ × ℕ)) : LinkError → Prop
  | count (different : g.edges.length ≠ pairs.length) :
      PairsFault g pairs (.interfaceCountMismatch g.edges.length pairs.length)
  | loopback {link lower upper : ℕ} (sameLength : g.edges.length = pairs.length)
      (first : IsLeast {position | ∃ pair, pairs[position]? = some pair ∧ HasLoopback pair} link)
      (ends : g.edges[link]? = some (lower, upper)) :
      PairsFault g pairs (.loopbackInterface link lower upper)

theorem ofPairs_eq_error_iff {fault : LinkError} :
    ofPairs g pairs = .error fault ↔ PairsFault g pairs fault := by
  unfold ofPairs
  dsimp only
  split
  · next sameLength =>
    have failed : (addFrom ∅ 0 (g.edges.zip pairs)).map mk = .error fault ↔
        addFrom ∅ 0 (g.edges.zip pairs) = .error fault := by
      cases addFrom ∅ 0 (g.edges.zip pairs) with
      | error cause => simp [Except.map]
      | ok result => exact iff_of_false nofun nofun
    rw [failed, addFrom_eq_error_iff]
    simp only [List.getElem?_zip_eq_some, Nat.zero_add]
    constructor
    · rintro ⟨position, edge, pair, ⟨ends, listed⟩, loops, earlier, rfl⟩
      refine .loopback sameLength ⟨⟨pair, listed, loops⟩, ?_⟩ ends
      rintro other ⟨pairOther, listedOther, loopsOther⟩
      by_contra before
      rw [Nat.not_le] at before
      -- an edge stands beside every pair
      have inRange : other < g.edges.length :=
        sameLength ▸ (List.getElem?_eq_some_iff.1 listedOther).1
      exact earlier other before (g.edges[other], pairOther)
        ⟨List.getElem?_eq_getElem inRange, listedOther⟩ loopsOther
    · intro found
      cases found with
      | count different => exact absurd sameLength different
      | @loopback link lower upper _ first ends =>
        obtain ⟨⟨pair, listed, loops⟩, least⟩ := first
        refine ⟨link, (lower, upper), pair, ⟨ends, listed⟩, loops,
          fun i before item both => ?_, rfl⟩
        exact fun loopsItem => Nat.not_le.2 before (least ⟨item.2, both.2, loopsItem⟩)
  · next different =>
    constructor
    · rintro ⟨⟩
      exact .count different
    · intro found
      cases found with
      | count => rfl
      | loopback sameLength => exact absurd sameLength different

theorem exists_pairsFault_iff :
    (∃ fault, PairsFault g pairs fault) ↔
      g.edges.length ≠ pairs.length ∨ ∃ pair ∈ pairs, HasLoopback pair := by
  constructor
  · rintro ⟨fault, found⟩
    cases found with
    | count different => exact Or.inl different
    | loopback _ first _ =>
      obtain ⟨pair, listed, loops⟩ := first.1
      exact Or.inr ⟨pair, List.mem_of_getElem? listed, loops⟩
  · intro wrong
    cases outcome : ofPairs g pairs with
    | error fault => exact ⟨fault, ofPairs_eq_error_iff.1 outcome⟩
    | ok interfaces =>
      obtain ⟨sameLength, free, -⟩ := ofPairs_eq_ok_iff.1 outcome
      rcases wrong with different | ⟨pair, listed, loops⟩
      · exact absurd sameLength different
      · exact absurd loops (not_or.2 (free pair listed))

/-! ## 3. Pairs that are taken -/

/-- What interfaces answer that belong to these pairs, for nodes of the graph and for others. -/
structure FollowPairs (g : Graph) (pairs : List (ℕ × ℕ)) (interfaces : Interfaces) : Prop where
  get?_ends : ∀ {i u v : ℕ}, g.edges[i]? = some (u, v) → ∃ pair, pairs[i]? = some pair ∧
    interfaces.get? u v = some pair.1 ∧ interfaces.get? v u = some pair.2
  get?_eq_none : ∀ {u v : ℕ}, (u, v) ∉ g.edges → (v, u) ∉ g.edges → interfaces.get? u v = none
  loopback_iff : ∀ {u v : ℕ}, interfaces.getOrLoopback u v = loopback ↔ g.hasEdge u v = false
  unambiguous : ∀ {u v : ℕ},
    interfaces.getOrLoopback u v = loopback ↔ interfaces.get? u v = none
  size : interfaces.size = 2 * g.edges.length

section

variable (taken : ofPairs g pairs = .ok interfaces)
include taken

theorem get?_ends {i u v : ℕ} (ends : g.edges[i]? = some (u, v)) :
    ∃ pair, pairs[i]? = some pair ∧
      interfaces.get? u v = some pair.1 ∧ interfaces.get? v u = some pair.2 := by
  have sameLength := (ofPairs_eq_ok_iff.1 taken).1
  have inRange : i < pairs.length := sameLength ▸ (List.getElem?_eq_some_iff.1 ends).1
  have paired : ((u, v), pairs[i]) ∈ g.edges.zip pairs :=
    List.mem_of_getElem?
      (List.getElem?_zip_eq_some.2 ⟨ends, List.getElem?_eq_getElem inRange⟩)
  exact ⟨pairs[i], List.getElem?_eq_getElem inRange,
    (get?_eq_some_iff taken).2 ⟨_, _, paired, Or.inl ⟨rfl, rfl⟩⟩,
    (get?_eq_some_iff taken).2 ⟨_, _, paired, Or.inr ⟨rfl, rfl⟩⟩⟩

theorem get?_eq_none_iff_not_adj {u v : ℕ} :
    interfaces.get? u v = none ↔ ¬ g.simple.Adj u v := by
  constructor
  · intro unknown adjacent
    cases adjacent with
    | inl listed =>
      obtain ⟨i, ends⟩ := List.mem_iff_getElem?.1 listed
      obtain ⟨pair, -, known, -⟩ := get?_ends taken ends
      cases unknown.symm.trans known
    | inr listed =>
      obtain ⟨i, ends⟩ := List.mem_iff_getElem?.1 listed
      obtain ⟨pair, -, -, known⟩ := get?_ends taken ends
      cases unknown.symm.trans known
  · intro apart
    rw [Option.eq_none_iff_forall_ne_some]
    intro interface known
    obtain ⟨edge, pair, paired, ⟨rfl, -⟩ | ⟨rfl, -⟩⟩ := (get?_eq_some_iff taken).1 known
    · exact apart (Or.inl (List.of_mem_zip paired).1)
    · exact apart (Or.inr (List.of_mem_zip paired).1)

theorem ne_loopback_of_get? {u v interface : ℕ} (known : interfaces.get? u v = some interface) :
    interface ≠ loopback := by
  have free := (ofPairs_eq_ok_iff.1 taken).2.1
  obtain ⟨edge, pair, paired, ⟨-, rfl⟩ | ⟨-, rfl⟩⟩ := (get?_eq_some_iff taken).1 known
  · exact (free pair (List.of_mem_zip paired).2).1
  · exact (free pair (List.of_mem_zip paired).2).2

theorem getOrLoopback_eq_loopback_iff {u v : ℕ} :
    interfaces.getOrLoopback u v = loopback ↔ interfaces.get? u v = none := by
  unfold getOrLoopback
  cases known : interfaces.get? u v with
  | none => exact iff_of_true rfl rfl
  | some interface => exact iff_of_false (ne_loopback_of_get? taken known) nofun

end

/-- Pairs are refused exactly when there are not as many of them as edges or one of them has the
loopback in it, and the fault names the first that has. Pairs that are taken are found again at
their edges, each component from its own side, and the loopback stands for nodes that are not joined
and for nothing else. -/
theorem ofPairs_exact (g : Graph) (pairs : List (ℕ × ℕ)) :
    ((∃ fault, ofPairs g pairs = .error fault) ↔
      g.edges.length ≠ pairs.length ∨ ∃ pair ∈ pairs, HasLoopback pair) ∧
    (∀ fault, ofPairs g pairs = .error fault ↔ PairsFault g pairs fault) ∧
    ∀ interfaces, ofPairs g pairs = .ok interfaces → FollowPairs g pairs interfaces := by
  refine ⟨?_, fun fault => ofPairs_eq_error_iff, fun interfaces taken => ?_⟩
  · simp only [ofPairs_eq_error_iff, exists_pairsFault_iff]
  · have joined {u v : ℕ} : g.simple.Adj u v ↔ g.hasEdge u v = true := by
      rw [Graph.adj_simple, Graph.hasEdge_iff]
    constructor
    case get?_ends => exact get?_ends taken
    case get?_eq_none =>
      intro u v forth back
      exact (get?_eq_none_iff_not_adj taken).2 (not_or.2 ⟨forth, back⟩)
    case loopback_iff =>
      intro u v
      rw [getOrLoopback_eq_loopback_iff taken, get?_eq_none_iff_not_adj taken, joined,
        Bool.not_eq_true]
    case unambiguous => exact getOrLoopback_eq_loopback_iff taken
    case size => exact size_of_ofPairs taken

/-- Interfaces that no links of the chain have are taken, one of them twice. Of three pairs none is
looked at. -/
theorem chain_pairs :
    (∃ interfaces, ofPairs .chain [(7, 3), (7, 8)] = .ok interfaces ∧
      interfaces.get? 0 1 = some 7 ∧ interfaces.get? 1 0 = some 3 ∧
      interfaces.get? 2 1 = some 8 ∧ interfaces.getOrLoopback 2 9 = loopback ∧
      interfaces.size = 4) ∧
    ofPairs .chain [(1, 1), (2, 0)] = .error (.loopbackInterface 1 1 2) ∧
    ofPairs .chain [(1, 1), (2, 0), (0, 0)] = .error (.interfaceCountMismatch 2 3) := by
  have atLower : Graph.chain.edges[0]? = some (0, 1) := by decide
  have atUpper : Graph.chain.edges[1]? = some (1, 2) := by decide
  refine ⟨?_, ((ofPairs_exact _ _).2.1 _).2 ?_, ((ofPairs_exact _ _).2.1 _).2 (.count (by decide))⟩
  · obtain ⟨interfaces, taken⟩ : ∃ interfaces, ofPairs .chain [(7, 3), (7, 8)] = .ok interfaces :=
      ⟨⟨_⟩, ofPairs_eq_ok_iff.2 ⟨by decide, by decide, rfl⟩⟩
    have follow := (ofPairs_exact _ _).2.2 interfaces taken
    obtain ⟨_, ⟨⟩, forth, back⟩ := follow.get?_ends atLower
    obtain ⟨_, ⟨⟩, -, fromLast⟩ := follow.get?_ends atUpper
    exact ⟨interfaces, taken, forth, back, fromLast, follow.loopback_iff.2 (by decide), follow.size⟩
  · refine .loopback (by decide) ⟨⟨(2, 0), rfl, Or.inr rfl⟩, ?_⟩ atUpper
    rintro position ⟨pair, listed, loops⟩
    cases position with
    | zero =>
      cases listed
      exact absurd loops (by rintro (one | one) <;> cases one)
    | succ position => exact Nat.succ_pos position

end Multipath.Interfaces
