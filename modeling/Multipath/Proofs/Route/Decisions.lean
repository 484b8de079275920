import Multipath.Proofs.Link.Lookup
import Multipath.Proofs.Route.ShortestPaths
import Multipath.Route.Router

/-!
# What a decision depends on

A decision reads three tables. `Routes` says of the first one that it lists the next hops of a
graph; the egress toward a next hop comes from the other two.

Results:
1. `withLinks_eq_error`, `routes_of_withLinks`: a router over any links is held to the size limit
   and has the next hops of its topology.
2. `decide_eq_outOfRange`, `decide_eq_localDelivery`, `decide_eq_noRoute`: the decisions that
   read no egress.
3. `decide_of_reachable`: otherwise the decision is the egress toward a next hop, or it reports
   that there is none.
4. `egress?_of_decide`, `decide_of_adj`: what a decision forwards over is an egress of the
   tables, and every egress toward an adjacent node is used by some decision.
-/

namespace Multipath

namespace Router

/-! ## 1. The tables of a router -/

/-- The next hops of the router are those of the graph. -/
structure Routes (g : Graph) (r : Router) : Prop where
  size : r.size = g.size
  mem_get : ∀ {a b destination : ℕ}, b ∈ r.nextHops.get a destination ↔
    g.simple.Adj a b ∧ g.simple.Reachable b destination ∧
      g.simple.dist a destination = g.simple.dist b destination + 1

variable {t : Topology} {links : LinkTable} {config : Config} {r : Router}

theorem withLinks_eq_ok_iff :
    withLinks t links config = .ok r ↔ ∃ nextHops interfaces,
      NextHops.ofGraph t.graph config = .ok nextHops ∧
      Interfaces.ofPairs t.graph links.interfacePairs = .ok interfaces ∧
      r = { size := t.size, nextHops, interfaces, addresses := Addresses.ofLinks links,
            seed := config.hashSeed } := by
  unfold withLinks
  cases NextHops.ofGraph t.graph config with
  | error fault => simp [bind, Except.bind]
  | ok nextHops =>
    cases Interfaces.ofPairs t.graph links.interfacePairs with
    | error fault => simp [bind, Except.bind, Except.mapError]
    | ok interfaces => simp [bind, Except.bind, Except.mapError, pure, Except.pure, eq_comm]

/-- The size limit is looked at before the links. -/
theorem withLinks_eq_error (tooMany : config.maxNodes < t.size) :
    withLinks t links config = .error (.tooManyNodes t.size config.maxNodes) := by
  have refused : NextHops.ofGraph t.graph config =
      .error (.tooManyNodes t.size config.maxNodes) := by
    rw [NextHops.ofGraph, Distances.ofGraph_eq_error tooMany]
    rfl
  rw [withLinks, refused]
  rfl

theorem routes_of_withLinks (fit : t.graph.PathsFit) (built : withLinks t links config = .ok r) :
    Routes t.graph r := by
  obtain ⟨nextHops, interfaces, listed, -, rfl⟩ := withLinks_eq_ok_iff.1 built
  exact ⟨rfl, NextHops.mem_get_iff_dist fit listed⟩

theorem egress?_eq_some_iff {node neighbor : ℕ} {egress : Egress} :
    r.egress? node neighbor = some egress ↔ egress.neighbor = neighbor ∧
      r.interfaces.get? node neighbor = some egress.interface ∧
      r.addresses.gateway? node neighbor = some egress.gateway := by
  unfold egress?
  obtain ⟨egressNeighbor, interface, gateway⟩ := egress
  cases r.interfaces.get? node neighbor with
  | none => simp
  | some found =>
    cases r.addresses.gateway? node neighbor with
    | none => simp
    | some address => simp [eq_comm]

/-! ## 2. Decisions without an egress -/

variable {current source destination : ℕ} {flow : Flow}

theorem checkNode_of_lt {node : ℕ} (inRange : node < r.size) : r.checkNode node = .ok () :=
  if_pos inRange

theorem checkNode_of_le {node : ℕ} (outside : r.size ≤ node) :
    r.checkNode node = .error (.outOfRange node r.size) := if_neg (Nat.not_lt.2 outside)

/-- The first of the three ids that is no node is named. -/
theorem decide_eq_outOfRange {node : ℕ}
    (outside : [current, source, destination].find? (r.size ≤ ·) = some node) :
    r.decide current source destination flow = .error (.outOfRange node r.size) := by
  unfold decide
  by_cases inRange : current < r.size
  · rw [checkNode_of_lt inRange]
    rw [List.find?_cons_of_neg (by simpa using inRange)] at outside
    by_cases inRangeSource : source < r.size
    · rw [checkNode_of_lt inRangeSource]
      rw [List.find?_cons_of_neg (by simpa using inRangeSource)] at outside
      obtain ⟨outsideNode, listed⟩ := List.find?_eq_some_iff_append.1 outside
      obtain rfl : node = destination := by simpa using List.mem_of_find?_eq_some outside
      rw [checkNode_of_le (of_decide_eq_true outsideNode)]
      rfl
    · rw [List.find?_cons_of_pos (by simpa using inRangeSource)] at outside
      cases outside
      rw [checkNode_of_le (Nat.not_lt.1 inRangeSource)]
      rfl
  · rw [List.find?_cons_of_pos (by simpa using inRange)] at outside
    cases outside
    rw [checkNode_of_le (Nat.not_lt.1 inRange)]
    rfl

/-- The ids of a decision are nodes. -/
structure InRange (size current source destination : ℕ) : Prop where
  current : current < size
  source : source < size
  destination : destination < size

theorem inRange_of_find? {size : ℕ}
    (inside : [current, source, destination].find? (size ≤ ·) = none) :
    InRange size current source destination := by
  simp only [List.find?_eq_none, List.mem_cons, List.not_mem_nil, or_false, forall_eq_or_imp,
    forall_eq, decide_eq_true_eq, Nat.not_le] at inside
  exact ⟨inside.1, inside.2.1, inside.2.2⟩

theorem decide_of_inRange (inRange : InRange r.size current source destination) :
    r.decide current source destination flow =
      if current = destination then .ok .localDelivery
      else match (r.nextHops.get current destination)[(r.hash current flow).toNat %
          (r.nextHops.get current destination).length]? with
        | none => .ok .noRoute
        | some neighbor =>
          match r.egress? current neighbor with
          | some egress => .ok (.forward egress)
          | none => .error (.notANeighbor current neighbor destination) := by
  unfold decide
  rw [checkNode_of_lt inRange.current, checkNode_of_lt inRange.source,
    checkNode_of_lt inRange.destination]
  simp only [bind, Except.bind]
  by_cases same : current = destination
  · rw [if_pos same, if_pos same]
    rfl
  · rw [if_neg same, if_neg same]
    cases (r.nextHops.get current destination)[(r.hash current flow).toNat %
        (r.nextHops.get current destination).length]? with
    | none => rfl
    | some neighbor =>
      dsimp only
      cases r.egress? current neighbor with
      | none => rfl
      | some egress => rfl

theorem decide_eq_localDelivery (inRange : InRange r.size current source current) :
    r.decide current source current flow = .ok .localDelivery := by
  rw [decide_of_inRange inRange, if_pos rfl]

/-! ## 3. Routes -/

variable {g : Graph}

theorem Routes.nextHops_eq_nil_iff (routes : Routes g r) (apart : current ≠ destination) :
    r.nextHops.get current destination = [] ↔ ¬ g.simple.Reachable current destination := by
  rw [List.eq_nil_iff_forall_not_mem]
  constructor
  · intro empty connected
    obtain ⟨w, shortest⟩ := connected.exists_walk_length_eq_dist
    cases w with
    | nil => exact apart rfl
    | cons adjacent rest =>
      rw [SimpleGraph.Walk.length_cons] at shortest
      refine empty _ (routes.mem_get.2 ⟨adjacent, rest.reachable, ?_⟩)
      have least := SimpleGraph.dist_le rest
      have triangle := adjacent.reachable.dist_triangle_left destination
      rw [SimpleGraph.dist_eq_one_iff_adj.2 adjacent] at triangle
      omega
  · intro unconnected neighbor listed
    obtain ⟨adjacent, connected, -⟩ := routes.mem_get.1 listed
    exact unconnected (adjacent.reachable.trans connected)

theorem decide_eq_noRoute (routes : Routes g r) (inRange : InRange r.size current source destination)
    (apart : current ≠ destination) (unconnected : ¬ g.simple.Reachable current destination) :
    r.decide current source destination flow = .ok .noRoute := by
  rw [decide_of_inRange inRange, if_neg apart, (routes.nextHops_eq_nil_iff apart).2 unconnected]
  rfl

/-- The position that the hash selects is always one of the list. -/
theorem exists_chosen {hops : List ℕ} (nonempty : hops ≠ []) (hash : ℕ) :
    ∃ hop ∈ hops, hops[hash % hops.length]? = some hop := by
  have inRange : hash % hops.length < hops.length :=
    Nat.mod_lt _ (List.length_pos_iff.2 nonempty)
  exact ⟨_, List.getElem_mem inRange, List.getElem?_eq_getElem inRange⟩

/-- Toward a destination that is connected, the outcome depends on the egress to a next hop. -/
theorem decide_of_reachable (routes : Routes g r) (inRange : InRange r.size current source destination)
    (apart : current ≠ destination) (connected : g.simple.Reachable current destination) :
    ∃ neighbor ∈ r.nextHops.get current destination,
      r.decide current source destination flow =
        match r.egress? current neighbor with
        | some egress => .ok (.forward egress)
        | none => .error (.notANeighbor current neighbor destination) := by
  have nonempty : r.nextHops.get current destination ≠ [] := fun empty =>
    (routes.nextHops_eq_nil_iff apart).1 empty connected
  obtain ⟨neighbor, listed, chosen⟩ := exists_chosen nonempty (r.hash current flow).toNat
  refine ⟨neighbor, listed, ?_⟩
  rw [decide_of_inRange inRange, if_neg apart, chosen]

/-! ## 4. Egresses -/

/-- Forwarding makes no egress up. -/
theorem egress?_of_decide {egress : Egress}
    (forwarded : r.decide current source destination flow = .ok (.forward egress)) :
    r.egress? current egress.neighbor = some egress := by
  cases outside : [current, source, destination].find? (r.size ≤ ·) with
  | some first =>
    rw [decide_eq_outOfRange outside] at forwarded
    cases forwarded
  | none =>
    rw [decide_of_inRange (inRange_of_find? outside)] at forwarded
    split at forwarded
    · cases forwarded
    · split at forwarded
      · cases forwarded
      · next neighbor chosen =>
        split at forwarded
        · next found =>
          cases forwarded
          rw [(egress?_eq_some_iff.1 found).1]
          exact found
        · cases forwarded

/-- A neighbor is the only next hop toward itself. -/
theorem decide_of_adj (routes : Routes g r) {u v : ℕ} {egress : Egress}
    (adjacent : g.simple.Adj u v) (found : r.egress? u v = some egress) (flow : Flow) :
    r.decide u u v flow = .ok (.forward egress) := by
  have inRange := Graph.lt_size_of_adj adjacent
  rw [← routes.size] at inRange
  obtain ⟨neighbor, listed, decided⟩ := @decide_of_reachable r u u v flow g routes
    ⟨inRange.1, inRange.1, inRange.2⟩ adjacent.ne adjacent.reachable
  obtain ⟨-, connected, closer⟩ := routes.mem_get.1 listed
  rw [SimpleGraph.dist_eq_one_iff_adj.2 adjacent] at closer
  have arrived : g.simple.dist neighbor v = 0 := (Nat.succ.inj closer).symm
  obtain rfl : neighbor = v := connected.dist_eq_zero_iff.1 arrived
  rw [decided, found]

end Router

end Multipath
