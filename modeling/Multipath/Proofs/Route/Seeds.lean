import Mathlib.Algebra.Order.Floor.Div
import Mathlib.Data.Int.CardIntervalMod
import Mathlib.Data.Set.Card
import Multipath.Proofs.Flow.Mixing
import Multipath.Proofs.Route.Forwarding

/-!
# Next hops over all seeds

For a fixed flow at a fixed node the hash is a permutation of the seeds. So over all seeds every
hash comes up once, and the remainders by the number of next hops are shared out among them as
evenly as the numbers below `2 ^ 32` are.

Results:
1. `decide_eq_forward_at`: the next hop is the one whose position is the remainder of the hash.
2. `ncard_hash_mod`: how many seeds lead to one remainder.
3. `ncard_seedsFor`: how many seeds lead to one next hop, and that none of them is left out.
-/

namespace Multipath

/-! ## 1. The selected position -/

namespace Router

variable {t : Topology} {config : Config} {r : Router} {table : LinkTable}

/-- The seed is handed on to the hash, and no table depends on it. -/
theorem ofTopology_with_seed (made : ofTopology t config = .ok r) (seed : UInt32) :
    ofTopology t { config with hashSeed := seed } = .ok { r with seed } := by
  obtain ⟨table, installed, built⟩ := ofTopology_eq_ok_iff.1 made
  obtain ⟨nextHops, interfaces, listed, paired, rfl⟩ := withLinks_eq_ok_iff.1 built
  exact ofTopology_eq_ok_iff.2
    ⟨table, installed, withLinks_eq_ok_iff.2 ⟨nextHops, interfaces, listed, paired, rfl⟩⟩

theorem nodup_get (built : withLinks t table config = .ok r) (current destination : ℕ) :
    (r.nextHops.get current destination).Nodup := by
  obtain ⟨nextHops, interfaces, listed, -, rfl⟩ := withLinks_eq_ok_iff.1 built
  exact (NextHops.get_sublist listed current destination).nodup
    ((t.graph.neighbors current).ascending.imp Nat.ne_of_lt)

theorem length_get_le (built : withLinks t table config = .ok r) (current destination : ℕ) :
    (r.nextHops.get current destination).length ≤ t.edgeCount := by
  obtain ⟨nextHops, interfaces, listed, -, rfl⟩ := withLinks_eq_ok_iff.1 built
  refine (NextHops.get_sublist listed current destination).length_le.trans ?_
  rw [← Graph.farEnds_edges]
  exact List.length_filterMap_le _ _

theorem decide_eq_forward_at {current source destination : ℕ} (flow : Flow)
    (installed : LinkTable.install t.graph = .ok table)
    (built : withLinks t table config = .ok r)
    (inRange : InRange t.size current source destination) (apart : current ≠ destination)
    (nonempty : r.nextHops.get current destination ≠ []) :
    ∃ egress, r.decide current source destination flow = .ok (.forward egress) ∧
      (r.nextHops.get current destination)[(r.hash current flow).toNat %
        (r.nextHops.get current destination).length]? = some egress.neighbor := by
  have routes := routes_of_installed installed built
  obtain ⟨neighbor, listed, chosen⟩ := exists_chosen nonempty (r.hash current flow).toNat
  obtain ⟨egress, found⟩ :=
    exists_egress_of_adj installed built (routes.mem_get.1 listed).1
  obtain ⟨rfl, -⟩ := egress?_eq_some_iff.1 found
  refine ⟨egress, ?_, chosen⟩
  have size : r.size = t.size := routes.size
  rw [decide_of_inRange (size ▸ inRange), if_neg apart, chosen]
  dsimp only
  rw [found]

end Router

/-! ## 2. Remainders -/

namespace Murmur

/-- Over all seeds the hashes are all words, each of them once. -/
theorem ncard_hash_mod (bytes : List UInt8) (divisor remainder : ℕ) :
    {seed | (hash seed bytes).toNat % divisor = remainder}.ncard =
      Nat.count (· % divisor = remainder) UInt32.size := by
  have words : {word : UInt32 | word.toNat % divisor = remainder}.ncard =
      Nat.count (· % divisor = remainder) UInt32.size := by
    have values : UInt32.toNat '' {word | word.toNat % divisor = remainder} =
        (Finset.range UInt32.size).filter (· % divisor = remainder) := by
      ext value
      simp only [Set.mem_image, Set.mem_ofPred_eq, Finset.coe_filter, Finset.mem_range]
      constructor
      · rintro ⟨word, left, rfl⟩
        exact ⟨word.toNat_lt, left⟩
      · rintro ⟨fits, left⟩
        have back : (UInt32.ofNat value).toNat = value := UInt32.toNat_ofNat_of_lt' fits
        exact ⟨UInt32.ofNat value, by rw [back, left], back⟩
    rw [← Set.ncard_image_of_injective _ fun _ _ => UInt32.toNat_inj.1, values,
      Set.ncard_coe_finset, Nat.count_eq_card_filter_range]
  have onto : Set.range (hash · bytes) = Set.univ := (hash_bijective bytes).surjective.range_eq
  have shared : (Set.preimage (hash · bytes) {word | word.toNat % divisor = remainder}).ncard = _ :=
    Set.ncard_preimage_of_injective_subset_range (hash_injective bytes)
      (onto ▸ Set.subset_univ _)
  exact shared.trans words

end Murmur

/-- The numbers below a bound are shared out among the remainders as evenly as they can be. -/
theorem count_mod_eq {divisor remainder : ℕ} (isRemainder : remainder < divisor) (bound : ℕ) :
    Nat.count (· % divisor = remainder) bound =
      bound / divisor + if remainder < bound % divisor then 1 else 0 := by
  have counted := Nat.count_modEq_card bound (Nat.zero_lt_of_lt isRemainder) remainder
  simp only [Nat.ModEq, Nat.mod_eq_of_lt isRemainder] at counted
  exact counted

theorem count_mod_eq_div_or_ceilDiv {divisor remainder : ℕ} (isRemainder : remainder < divisor)
    (bound : ℕ) :
    Nat.count (· % divisor = remainder) bound = bound / divisor ∨
      Nat.count (· % divisor = remainder) bound = bound ⌈/⌉ divisor := by
  rw [count_mod_eq isRemainder]
  split
  · next some =>
    right
    have whole := Nat.div_add_mod bound divisor
    rw [Nat.ceilDiv_eq_add_pred_div]
    refine (Nat.div_eq_of_lt_le ?_ ?_).symm
    · rw [Nat.add_mul, Nat.mul_comm]
      omega
    · rw [Nat.add_mul, Nat.add_mul, Nat.mul_comm]
      have := Nat.mod_lt bound (Nat.zero_lt_of_lt isRemainder)
      omega
  · exact Or.inl rfl

/-! ## 3. Next hops -/

namespace Router

variable {t : Topology} {config : Config} {r : Router}

/-- The seeds with which a flow leaves `current` for the next hop at this position. -/
def seedsFor (t : Topology) (config : Config) (current source destination : ℕ) (flow : Flow)
    (position : ℕ) : Set UInt32 :=
  {seed | ∃ r egress, ofTopology t { config with hashSeed := seed } = .ok r ∧
    r.decide current source destination flow = .ok (.forward egress) ∧
    (r.nextHops.get current destination)[position]? = some egress.neighbor}

theorem seedsFor_eq (made : ofTopology t config = .ok r) {current source destination : ℕ}
    (flow : Flow) (inRange : source < t.size) (apart : current ≠ destination) {position : ℕ}
    (listed : position < (r.nextHops.get current destination).length) :
    seedsFor t config current source destination flow position =
      {seed | (flow.hash seed current.toUInt64).toNat %
        (r.nextHops.get current destination).length = position} := by
  obtain ⟨table, installed, built⟩ := ofTopology_eq_ok_iff.1 made
  have routes := routes_of_installed installed built
  obtain ⟨adjacent, connected, -⟩ := routes.mem_get.1 (List.getElem_mem listed)
  have nodes : InRange t.size current source destination :=
    ⟨(Graph.lt_size_of_adj adjacent).1, inRange,
      Graph.lt_size_of_reachable connected (Graph.lt_size_of_adj adjacent).2⟩
  ext seed
  have madeSeed := ofTopology_with_seed made seed
  obtain ⟨egress, decided, chosen⟩ := decide_eq_forward_at flow installed
    (withLinks_of_ofTopology installed madeSeed) nodes apart
    (List.ne_nil_of_length_pos (Nat.zero_lt_of_lt listed))
  constructor
  · rintro ⟨r', egress', madeOther, decidedOther, selected⟩
    cases madeSeed.symm.trans madeOther
    cases decided.symm.trans decidedOther
    exact ((List.getElem?_inj listed (nodup_get built current destination)).1
      (selected.trans chosen.symm)).symm
  · intro remainder
    refine ⟨_, egress, madeSeed, decided, ?_⟩
    rw [← chosen]
    exact congrArg (fun place => (r.nextHops.get current destination)[place]?) remainder.symm

/-- All seeds give the same tables. Over all of them a flow leaves a node for each next hop of a
list as often as its position is a remainder by the length of the list, which is the rounded share,
down or up, and never nothing. -/
theorem ncard_seedsFor (made : ofTopology t config = .ok r) {current source destination : ℕ}
    (flow : Flow) (inRange : source < t.size) (apart : current ≠ destination) {hops : List ℕ}
    (listed : r.nextHops.get current destination = hops) {position : ℕ}
    (inList : position < hops.length) :
    (∀ seed, ofTopology t { config with hashSeed := seed } = .ok { r with seed }) ∧
    ∃ count, (seedsFor t config current source destination flow position).ncard = count ∧
      count = Nat.count (· % hops.length = position) UInt32.size ∧
      (count = UInt32.size / hops.length ∨ count = UInt32.size ⌈/⌉ hops.length) ∧ 0 < count := by
  subst listed
  obtain ⟨table, installed, built⟩ := ofTopology_eq_ok_iff.1 made
  have shared : (seedsFor t config current source destination flow position).ncard = Nat.count
      (· % (r.nextHops.get current destination).length = position) UInt32.size := by
    rw [seedsFor_eq made flow inRange apart inList]
    exact Murmur.ncard_hash_mod (flow.key current.toUInt64) _ position
  refine ⟨ofTopology_with_seed made, _, shared, rfl,
    count_mod_eq_div_or_ceilDiv inList UInt32.size, ?_⟩
  -- the position itself is among the numbers, because there are fewer links than words
  have few : t.edgeCount ≤ 16121856 := LinkTable.install_eq_ok_iff.1 ⟨table, installed⟩
  have fits : position < UInt32.size :=
    (inList.trans_le ((length_get_le built current destination).trans few)).trans (by decide)
  exact Nat.pos_of_ne_zero
    (Nat.count_ne_iff_exists.2 ⟨position, fits, Nat.mod_eq_of_lt inList⟩)

theorem exists_ring_twoHops :
    ∃ r, ofTopology .ring {} = .ok r ∧ r.nextHops.get 0 3 = [1, 2] := by
  obtain ⟨r, made⟩ := @exists_ofTopology .ring {} (by decide) (by decide)
  obtain ⟨table, installed, built⟩ := ofTopology_eq_ok_iff.1 made
  obtain ⟨nextHops, interfaces, listed, -, same⟩ := withLinks_eq_ok_iff.1 built
  have computed : (NextHops.ofGraph Topology.ring.graph {}).map (·.get 0 3) = .ok [1, 2] := by
    decide +kernel
  rw [listed] at computed
  exact ⟨r, made, same ▸ Except.ok.inj computed⟩

/-- From a switch of the ring to the opposite one there are two ways, each under half of the
seeds. -/
theorem ring_seeds : ∃ r, ofTopology .ring {} = .ok r ∧ r.nextHops.get 0 3 = [1, 2] ∧
    0 < Topology.ring.size ∧ ∀ flow,
      (seedsFor .ring {} 0 0 3 flow 0).ncard = 2 ^ 31 ∧
      (seedsFor .ring {} 0 0 3 flow 1).ncard = 2 ^ 31 := by
  obtain ⟨r, made, listed⟩ := exists_ring_twoHops
  have inRange : 0 < Topology.ring.size := by decide
  have half : UInt32.size / 2 = 2 ^ 31 := rfl
  have halfUp : UInt32.size ⌈/⌉ 2 = 2 ^ 31 := Nat.ceilDiv_eq_add_pred_div _ _
  have first : 0 < [1, 2].length := by decide
  have second : 1 < [1, 2].length := by decide
  refine ⟨r, made, listed, inRange, fun flow => ⟨?_, ?_⟩⟩
  · obtain ⟨-, count, counted, -, share, -⟩ :=
      ncard_seedsFor made flow inRange (by decide) listed first
    rw [counted]
    exact share.elim (·.trans half) (·.trans halfUp)
  · obtain ⟨-, count, counted, -, share, -⟩ :=
      ncard_seedsFor made flow inRange (by decide) listed second
    rw [counted]
    exact share.elim (·.trans half) (·.trans halfUp)

end Router

end Multipath
