import Multipath.Proofs.Route.Egresses

/-!
# Forwarding over a router's own links

A router that installs its own links has, for every edge, one link whose interfaces and
addresses its tables hold. So each next hop has an egress, and the egress belongs to one link.

Results:
1. `ofTopology_eq_ok_iff`, `ofTopology_eq_error`, `ofTopology_ne_tooManyNodes`: only the size limit
   refuses a topology whose links can be numbered, and only above it.
2. `exists_egress_of_adj`: there is an egress toward each neighbor, over the link to it.
3. `decide_eq_forward`: forwarding goes one hop toward a destination that is connected.
4. `decide_exact`: each decision, for all ids.
-/

namespace Multipath.Router

variable {t : Topology} {config : Config} {r : Router} {table : LinkTable}

/-! ## 1. Construction -/

theorem ofTopology_eq_ok_iff :
    ofTopology t config = .ok r ↔ ∃ table, LinkTable.install t.graph = .ok table ∧
      withLinks t table config = .ok r := by
  unfold ofTopology
  cases LinkTable.install t.graph with
  | error fault => simp [bind, Except.bind, Except.mapError]
  | ok table => simp [bind, Except.bind, Except.mapError]

theorem withLinks_of_ofTopology (installed : LinkTable.install t.graph = .ok table)
    (made : ofTopology t config = .ok r) : withLinks t table config = .ok r := by
  obtain ⟨table', installed', built⟩ := ofTopology_eq_ok_iff.1 made
  rw [installed] at installed'
  cases installed'
  exact built

theorem exists_ofTopology (few : t.edgeCount ≤ 16121856) (allowed : t.size ≤ config.maxNodes) :
    ∃ r, ofTopology t config = .ok r := by
  obtain ⟨table, installed⟩ := LinkTable.install_eq_ok_iff.2 few
  obtain ⟨r, built⟩ := exists_withLinks installed rfl allowed
  exact ⟨r, ofTopology_eq_ok_iff.2 ⟨table, installed, built⟩⟩

theorem ofTopology_eq_error (few : t.edgeCount ≤ 16121856) (tooMany : config.maxNodes < t.size) :
    ofTopology t config = .error (.tooManyNodes t.size config.maxNodes) := by
  obtain ⟨table, installed⟩ := LinkTable.install_eq_ok_iff.2 few
  rw [ofTopology, installed]
  exact withLinks_eq_error tooMany

/-- Within the limit only the links can be refused. -/
theorem ofTopology_ne_tooManyNodes (allowed : t.size ≤ config.maxNodes) (size limit : ℕ) :
    ofTopology t config ≠ .error (.tooManyNodes size limit) := by
  intro refused
  cases installed : LinkTable.install t.graph with
  | ok table =>
    obtain ⟨r, made⟩ := exists_ofTopology (LinkTable.install_eq_ok_iff.1 ⟨table, installed⟩) allowed
    cases made.symm.trans refused
  | error cause =>
    rw [ofTopology, installed] at refused
    cases refused

/-! ## 2. The egress toward a neighbor -/

theorem exists_egress_of_adj (installed : LinkTable.install t.graph = .ok table)
    (built : withLinks t table config = .ok r) {u v : ℕ} (adjacent : t.graph.simple.Adj u v) :
    ∃ egress, r.egress? u v = some egress :=
  (exists_egress?_iff installed built).2 ⟨adjacent, adjacent⟩

/-! ## 3. One hop closer -/

theorem decide_eq_forward {current source destination : ℕ} (flow : Flow)
    (installed : LinkTable.install t.graph = .ok table)
    (built : withLinks t table config = .ok r)
    (inRange : InRange t.size current source destination) (apart : current ≠ destination)
    (connected : t.graph.simple.Reachable current destination) :
    ∃ egress, r.decide current source destination flow = .ok (.forward egress) ∧
      t.graph.simple.Adj current egress.neighbor ∧
      t.graph.simple.Reachable egress.neighbor destination ∧
      t.graph.simple.dist current destination =
        t.graph.simple.dist egress.neighbor destination + 1 := by
  have routes := routes_of_installed installed built
  have size : r.size = t.size := routes.size
  obtain ⟨neighbor, listed, decided⟩ :=
    @decide_of_reachable r current source destination flow _ routes (size ▸ inRange) apart connected
  obtain ⟨adjacent, connectedNeighbor, closer⟩ := routes.mem_get.1 listed
  obtain ⟨egress, found⟩ := exists_egress_of_adj installed built adjacent
  obtain ⟨rfl, -⟩ := egress?_eq_some_iff.1 found
  rw [found] at decided
  exact ⟨egress, decided, adjacent, connectedNeighbor, closer⟩

/-! ## 4. All decisions -/

/-- Nodes get one of three answers, and which one depends on the graph alone. -/
theorem decide_of_nodes {current source destination : ℕ} (flow : Flow)
    (installed : LinkTable.install t.graph = .ok table)
    (built : withLinks t table config = .ok r)
    (inRange : InRange t.size current source destination) :
    (current = destination ∧ r.decide current source destination flow = .ok .localDelivery) ∨
    (¬ t.graph.simple.Reachable current destination ∧
      r.decide current source destination flow = .ok .noRoute) ∨
    (current ≠ destination ∧ t.graph.simple.Reachable current destination ∧
      ∃ egress, r.decide current source destination flow = .ok (.forward egress)) := by
  have routes := routes_of_installed installed built
  have size : r.size = t.size := routes.size
  by_cases same : current = destination
  · subst same
    exact Or.inl ⟨rfl, decide_eq_localDelivery (size ▸ inRange)⟩
  · by_cases connected : t.graph.simple.Reachable current destination
    · obtain ⟨egress, decided, -⟩ := decide_eq_forward flow installed built inRange same connected
      exact Or.inr (Or.inr ⟨same, connected, egress, decided⟩)
    · exact Or.inr (Or.inl ⟨connected, decide_eq_noRoute routes (size ▸ inRange) same connected⟩)

section

variable {current source destination : ℕ} (flow : Flow)
  (installed : LinkTable.install t.graph = .ok table) (built : withLinks t table config = .ok r)
include installed built

theorem decide_eq_localDelivery_iff (inRange : InRange t.size current source destination) :
    r.decide current source destination flow = .ok .localDelivery ↔ current = destination := by
  rcases decide_of_nodes flow installed built inRange with
    ⟨same, decided⟩ | ⟨unconnected, decided⟩ | ⟨apart, -, egress, decided⟩ <;> rw [decided]
  · exact iff_of_true rfl same
  · exact iff_of_false nofun fun same => unconnected (same ▸ SimpleGraph.Reachable.refl _)
  · exact iff_of_false nofun apart

theorem decide_eq_noRoute_iff (inRange : InRange t.size current source destination) :
    r.decide current source destination flow = .ok .noRoute ↔
      ¬ t.graph.simple.Reachable current destination := by
  rcases decide_of_nodes flow installed built inRange with
    ⟨same, decided⟩ | ⟨unconnected, decided⟩ | ⟨-, connected, egress, decided⟩ <;> rw [decided]
  · exact iff_of_false nofun fun unconnected => unconnected (same ▸ SimpleGraph.Reachable.refl _)
  · exact iff_of_true rfl unconnected
  · exact iff_of_false nofun fun unconnected => unconnected connected

theorem decide_ne_notANeighbor (current source destination node neighbor target : ℕ) :
    r.decide current source destination flow ≠ .error (.notANeighbor node neighbor target) := by
  intro failed
  have size : r.size = t.size := (routes_of_installed installed built).size
  cases outside : [current, source, destination].find? (r.size ≤ ·) with
  | none =>
    rcases decide_of_nodes flow installed built (size ▸ inRange_of_find? outside) with
      ⟨-, decided⟩ | ⟨-, decided⟩ | ⟨-, -, egress, decided⟩ <;>
      rw [decided] at failed <;> cases failed
  | some first =>
    rw [decide_eq_outOfRange outside] at failed
    cases failed

end

/-- A router of a topology whose links can be numbered is refused on the size limit only. Each
decision names the first id that is no node, delivers at the destination, has no route where
the graph has none, and otherwise forwards one hop closer, over the only link to that neighbor,
from the interface and to the address which that link has. -/
theorem decide_exact (t : Topology) (config : Config) (few : t.edgeCount ≤ 16121856) :
    ((∃ r, ofTopology t config = .ok r) ↔ t.size ≤ config.maxNodes) ∧
    (config.maxNodes < t.size →
      ofTopology t config = .error (.tooManyNodes t.size config.maxNodes)) ∧
    ∃ table, LinkTable.install t.graph = .ok table ∧
      ∀ r, ofTopology t config = .ok r → ∀ current source destination flow,
        (∀ node, [current, source, destination].find? (t.size ≤ ·) = some node →
          r.decide current source destination flow = .error (.outOfRange node t.size)) ∧
        ([current, source, destination].find? (t.size ≤ ·) = none →
          (r.decide current source destination flow = .ok .localDelivery ↔
            current = destination) ∧
          (r.decide current source destination flow = .ok .noRoute ↔
            ¬ t.graph.simple.Reachable current destination) ∧
          (current ≠ destination → t.graph.simple.Reachable current destination →
            ∃ egress, r.decide current source destination flow = .ok (.forward egress) ∧
              t.graph.simple.Adj current egress.neighbor ∧
              t.graph.simple.dist current destination =
                t.graph.simple.dist egress.neighbor destination + 1 ∧
              egress.interface ≠ 0 ∧
              ∃ link, table.links.filter (·.Joins current egress.neighbor) = [link] ∧
                egress.Uses current link)) ∧
        ∀ node neighbor target,
          r.decide current source destination flow ≠ .error (.notANeighbor node neighbor target) := by
  obtain ⟨table, installed⟩ := LinkTable.install_eq_ok_iff.2 few
  refine ⟨⟨fun ⟨r, made⟩ => ?_, exists_ofTopology few⟩, ofTopology_eq_error few, table, installed, ?_⟩
  · by_contra tooMany
    rw [ofTopology_eq_error few (Nat.not_le.1 tooMany)] at made
    cases made
  intro r made current source destination flow
  have built := withLinks_of_ofTopology installed made
  have size : r.size = t.size := (routes_of_installed installed built).size
  refine ⟨fun node outside => ?_, fun inside => ?_, decide_ne_notANeighbor flow installed built _ _ _⟩
  · rw [← size] at outside ⊢
    exact decide_eq_outOfRange outside
  have inRange := inRange_of_find? inside
  refine ⟨decide_eq_localDelivery_iff flow installed built inRange,
    decide_eq_noRoute_iff flow installed built inRange, fun apart connected => ?_⟩
  obtain ⟨egress, decided, adjacent, -, closer⟩ :=
    decide_eq_forward flow installed built inRange apart connected
  obtain ⟨link, listed, uses⟩ := forwardsOnOneLink_of_fits installed built
    (LinkTable.fits_of_install installed) _ _ _ _ _ decided
  have numbered := LinkTable.interface_ne_zero_of_install installed link listed
  have only := (LinkTable.simple_of_install installed).filter_joins_eq_singleton listed uses.joins
  exact ⟨egress, decided, adjacent, closer, uses.interface_ne_zero numbered, link, only, uses⟩

/-- In the ring the source is the first id that is no node, and neighbors have a route. -/
theorem ring_decide : Topology.ring.edgeCount ≤ 16121856 ∧
    ∃ r, ofTopology Topology.ring {} = .ok r ∧ ∀ flow,
      r.decide 0 9 7 flow = .error (.outOfRange 9 4) ∧
      ∃ egress, r.decide 0 0 1 flow = .ok (.forward egress) := by
  have few : Topology.ring.edgeCount ≤ 16121856 := by decide
  obtain ⟨accepted, -, table, -, decided⟩ := decide_exact Topology.ring {} few
  obtain ⟨r, made⟩ := accepted.2 (by decide)
  have adjacent : Topology.ring.graph.simple.Adj 0 1 := Or.inl (by decide)
  refine ⟨few, r, made, fun flow => ⟨(decided r made 0 9 7 flow).1 9 (by decide), ?_⟩⟩
  obtain ⟨egress, forwarded, -⟩ :=
    ((decided r made 0 0 1 flow).2.1 (by decide)).2.2 (by decide) adjacent.reachable
  exact ⟨egress, forwarded⟩

end Multipath.Router
