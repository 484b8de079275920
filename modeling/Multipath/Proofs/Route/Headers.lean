import Multipath.Proofs.Checked
import Multipath.Proofs.Link.Assigned
import Multipath.Proofs.Route.Paths

/-!
# Forwarding by the addresses of a header

A packet carries addresses and no nodes. Each node on its way resolves them anew, and since an
address has one owner, all of them decide for the same two nodes as whoever sent the packet.

Results:
1. `resolve_eq_ok_iff`: an address resolves to its owner.
2. `decideHeader_of_owns`, `decideHeader_of_unknownSource`: the decision that a header stands for.
3. `decideHeader_eq_error_iff`: the faults of a header, in the order in which they are found.
4. `delivers_of_pathFrom`, `Delivers.unique`: packets visit the nodes of the path, and no others.
5. `decideHeader_exact`: forwarding by headers, for all flows.
-/

namespace Multipath.Router

variable {t : Topology} {config : Config} {r : Router} {table : LinkTable}

/-- An interface of the node has the address. -/
def Owns (r : Router) (node : ℕ) (address : Address) : Prop :=
  ∃ interface, r.addresses.address? node interface = some address

/-! ## 1. Owners -/

section

variable (installed : LinkTable.install t.graph = .ok table)
  (built : withLinks t table config = .ok r)
include built

theorem addresses_of_withLinks : r.addresses = Addresses.ofLinks table := by
  obtain ⟨nextHops, interfaces, -, -, rfl⟩ := withLinks_eq_ok_iff.1 built
  rfl

include installed

theorem resolve?_eq_some_iff_owns {address : Address} {node : ℕ} :
    r.addresses.resolve? address = some node ↔ r.Owns node address := by
  rw [Owns, addresses_of_withLinks built]
  exact Addresses.resolve?_eq_some_iff_address? installed

theorem resolve_eq_ok_iff {address : Address} {node : ℕ} :
    r.resolve address = .ok node ↔ r.Owns node address := by
  rw [← resolve?_eq_some_iff_owns installed built, resolve]
  cases r.addresses.resolve? address with
  | none => exact iff_of_false nofun nofun
  | some owner => rw [Except.ok.injEq, Option.some.injEq]

theorem resolve_eq_error {address : Address} (unassigned : ¬ ∃ node, r.Owns node address) :
    r.resolve address = .error (.unknownAddress address) := by
  have unresolved : r.addresses.resolve? address = none :=
    Option.eq_none_iff_forall_ne_some.2 fun node resolved =>
      unassigned ⟨node, (resolve?_eq_some_iff_owns installed built).1 resolved⟩
  rw [resolve, unresolved]

theorem lt_size_of_owns {node : ℕ} {address : Address} (owner : r.Owns node address) :
    node < t.size := by
  have resolved := (resolve?_eq_some_iff_owns installed built).2 owner
  rw [addresses_of_withLinks built] at resolved
  exact Addresses.lt_size_of_resolve? installed resolved

theorem not_owns_unknownSource (node : ℕ) : ¬ r.Owns node Addresses.unknownSource := by
  rw [← resolve?_eq_some_iff_owns installed built, addresses_of_withLinks built,
    Addresses.resolve?_unknownSource installed]
  exact nofun

theorem ne_unknownSource_of_owns {node : ℕ} {address : Address} (owner : r.Owns node address) :
    address ≠ Addresses.unknownSource := by
  rintro rfl
  exact not_owns_unknownSource installed built node owner

/-! ## 2. Decisions -/

theorem decideHeader_of_owns {source destination : ℕ} {flow : Flow}
    (fromSource : r.Owns source flow.source) (toDestination : r.Owns destination flow.destination)
    (current : ℕ) : r.decideHeader current flow = r.decide current source destination flow := by
  rw [decideHeader, if_neg (ne_unknownSource_of_owns installed built fromSource),
    (resolve_eq_ok_iff installed built).2 fromSource,
    (resolve_eq_ok_iff installed built).2 toDestination, ok_bind, ok_bind]

theorem decideHeader_of_unknownSource {destination : ℕ} {flow : Flow}
    (unknown : flow.source = Addresses.unknownSource)
    (toDestination : r.Owns destination flow.destination) (current : ℕ) :
    r.decideHeader current flow = r.decide current current destination flow.withoutPorts := by
  rw [decideHeader, if_pos unknown, (resolve_eq_ok_iff installed built).2 toDestination, ok_bind]

/-- With two addresses that can be used there is a source for the decision. -/
theorem exists_decide_of_owns {destination : ℕ} {flow : Flow}
    (usable : flow.source = Addresses.unknownSource ∨ ∃ node, r.Owns node flow.source)
    (toDestination : r.Owns destination flow.destination) (current : ℕ) :
    ∃ source flow', (source = current ∨ source < t.size) ∧
      r.decideHeader current flow = r.decide current source destination flow' := by
  cases usable with
  | inl unknown =>
    exact ⟨current, flow.withoutPorts, Or.inl rfl,
      decideHeader_of_unknownSource installed built unknown toDestination current⟩
  | inr owned =>
    obtain ⟨source, fromSource⟩ := owned
    exact ⟨source, flow, Or.inr (lt_size_of_owns installed built fromSource),
      decideHeader_of_owns installed built fromSource toDestination current⟩

end

/-! ## 3. Faults -/

/-- What is wrong with a header at a node: the source is looked up first, unless it is the
placeholder, then the destination, and then the node itself is checked. -/
inductive HeaderFault (r : Router) (size current : ℕ) (flow : Flow) : RouteError → Prop
  | source (known : flow.source ≠ Addresses.unknownSource)
      (unassigned : ¬ ∃ node, r.Owns node flow.source) :
      HeaderFault r size current flow (.unknownAddress flow.source)
  | destination (usable : flow.source = Addresses.unknownSource ∨ ∃ node, r.Owns node flow.source)
      (unassigned : ¬ ∃ node, r.Owns node flow.destination) :
      HeaderFault r size current flow (.unknownAddress flow.destination)
  | current (usable : flow.source = Addresses.unknownSource ∨ ∃ node, r.Owns node flow.source)
      (assigned : ∃ node, r.Owns node flow.destination) (outside : size ≤ current) :
      HeaderFault r size current flow (.outOfRange current size)

section

variable (installed : LinkTable.install t.graph = .ok table)
  (built : withLinks t table config = .ok r) {current : ℕ} {flow : Flow}
include installed built

theorem decideHeader_of_fault {fault : RouteError} (found : r.HeaderFault t.size current flow fault) :
    r.decideHeader current flow = .error fault := by
  cases found with
  | source known unassigned =>
    rw [decideHeader, if_neg known, resolve_eq_error installed built unassigned]
    rfl
  | destination usable unassigned =>
    cases usable with
    | inl unknown =>
      rw [decideHeader, if_pos unknown, resolve_eq_error installed built unassigned]
      rfl
    | inr owned =>
      obtain ⟨source, fromSource⟩ := owned
      rw [decideHeader, if_neg (ne_unknownSource_of_owns installed built fromSource),
        (resolve_eq_ok_iff installed built).2 fromSource, ok_bind,
        resolve_eq_error installed built unassigned]
      rfl
  | current usable assigned outside =>
    obtain ⟨destination, toDestination⟩ := assigned
    obtain ⟨source, flow', -, same⟩ :=
      exists_decide_of_owns installed built usable toDestination current
    have size : r.size = t.size := (routes_of_installed installed built).size
    rw [same, decide_eq_outOfRange (List.find?_cons_of_pos (by simpa [size] using outside)), size]

/-- A header without these faults gets a decision. -/
theorem exists_fault_or_decision : (∃ fault, r.HeaderFault t.size current flow fault) ∨
    ∃ decision, r.decideHeader current flow = .ok decision := by
  by_cases usable : flow.source = Addresses.unknownSource ∨ ∃ node, r.Owns node flow.source
  case neg =>
    rw [not_or] at usable
    exact Or.inl ⟨_, .source usable.1 usable.2⟩
  by_cases assigned : ∃ node, r.Owns node flow.destination
  case neg => exact Or.inl ⟨_, .destination usable assigned⟩
  by_cases inRange : current < t.size
  case neg => exact Or.inl ⟨_, .current usable assigned (Nat.not_lt.1 inRange)⟩
  obtain ⟨destination, toDestination⟩ := assigned
  obtain ⟨source, flow', inRangeSource, same⟩ :=
    exists_decide_of_owns installed built usable toDestination current
  have inside : InRange t.size current source destination :=
    ⟨inRange, inRangeSource.elim (· ▸ inRange) id, lt_size_of_owns installed built toDestination⟩
  rw [same]
  rcases decide_of_nodes flow' installed built inside with
    ⟨-, decided⟩ | ⟨-, decided⟩ | ⟨-, -, egress, decided⟩
  · exact Or.inr ⟨_, decided⟩
  · exact Or.inr ⟨_, decided⟩
  · exact Or.inr ⟨_, decided⟩

theorem decideHeader_eq_error_iff {fault : RouteError} :
    r.decideHeader current flow = .error fault ↔ r.HeaderFault t.size current flow fault := by
  refine ⟨fun failed => ?_, decideHeader_of_fault installed built⟩
  rcases @exists_fault_or_decision t config r table installed built current flow with
    ⟨other, found⟩ | ⟨decision, decided⟩
  · have failedOther := decideHeader_of_fault installed built found
    rw [failed] at failedOther
    cases failedOther
    exact found
  · rw [failed] at decided
    cases decided

end

/-! ## 4. Packets on their way -/

/-- A packet that starts at a node is delivered after it has visited these nodes. -/
inductive Delivers (r : Router) (flow : Flow) : ℕ → List ℕ → Prop
  | arrived {node : ℕ} (decided : r.decideHeader node flow = .ok .localDelivery) :
      Delivers r flow node [node]
  | forwarded {node : ℕ} {egress : Egress} {visited : List ℕ}
      (decided : r.decideHeader node flow = .ok (.forward egress))
      (further : Delivers r flow egress.neighbor visited) : Delivers r flow node (node :: visited)

theorem Delivers.unique {flow : Flow} {node : ℕ} {visited other : List ℕ}
    (delivers : r.Delivers flow node visited) (delivers' : r.Delivers flow node other) :
    visited = other := by
  induction delivers generalizing other with
  | arrived decided =>
    cases delivers' with
    | arrived => rfl
    | forwarded decided' =>
      rw [decided] at decided'
      cases decided'
  | forwarded decided further ih =>
    cases delivers' with
    | arrived decided' =>
      rw [decided] at decided'
      cases decided'
    | forwarded decided' further' =>
      rw [decided] at decided'
      cases decided'
      rw [ih further']

/-- A path either ends here or goes on behind the node that is forwarded to. -/
theorem pathFrom_cases {source destination budget current : ℕ} {flow : Flow} {path : List ℕ}
    (walked : r.pathFrom source destination flow budget current = .ok (some path)) :
    (r.decide current source destination flow = .ok .localDelivery ∧ path = [current]) ∨
      ∃ egress left rest, r.decide current source destination flow = .ok (.forward egress) ∧
        r.pathFrom source destination flow left egress.neighbor = .ok (some rest) ∧
        path = current :: rest := by
  rw [pathFrom.eq_def] at walked
  split at walked
  · cases walked
  · next decided =>
    cases walked
    exact Or.inl ⟨decided, rfl⟩
  · cases walked
  · next egress decided =>
    split at walked
    · cases walked
    · next left =>
      cases further : r.pathFrom source destination flow left egress.neighbor with
      | error fault =>
        rw [further] at walked
        cases walked
      | ok found =>
        rw [further] at walked
        cases found with
        | none => cases walked
        | some rest =>
          cases walked
          exact Or.inr ⟨egress, left, rest, decided, further, rfl⟩

/-- Where headers stand for the decisions of a path, packets take it. -/
theorem delivers_of_pathFrom {source destination budget current : ℕ} {flow : Flow} {path : List ℕ}
    (same : ∀ node, r.decideHeader node flow = r.decide node source destination flow)
    (walked : r.pathFrom source destination flow budget current = .ok (some path)) :
    r.Delivers flow current path := by
  -- on the nodes rather than the budget, of which a path need not use everything
  induction path generalizing budget current with
  | nil =>
    cases pathFrom_cases walked with
    | inl ended => cases ended.2
    | inr goesOn =>
      obtain ⟨egress, left, others, -, -, nonempty⟩ := goesOn
      cases nonempty
  | cons first rest ih =>
    cases pathFrom_cases walked with
    | inl ended =>
      obtain ⟨decided, only⟩ := ended
      cases only
      exact .arrived ((same first).trans decided)
    | inr goesOn =>
      obtain ⟨egress, left, others, decided, further, more⟩ := goesOn
      cases more
      exact .forwarded ((same first).trans decided) (ih further)

/-! ## 5. Headers -/

/-- A packet with addresses of two connected nodes, whatever interfaces they belong to, takes the
path of its flow and is delivered at the end of it. With the placeholder as its source it is decided
where it is, without its ports. The faults of a header are those of `HeaderFault`, and a destination
that is the placeholder is among them. -/
theorem decideHeader_exact (made : ofTopology t config = .ok r) :
    (∀ source destination flow, t.graph.simple.Reachable source destination →
      r.Owns source flow.source → r.Owns destination flow.destination →
      ∃ path, r.path? source destination flow = .ok (some path) ∧
        path.getLast? = some destination ∧
        r.decideHeader destination flow = .ok .localDelivery ∧
        ∀ visited, r.Delivers flow source visited ↔ visited = path) ∧
    (∀ current destination flow, flow.source = Addresses.unknownSource →
      r.Owns destination flow.destination →
      r.decideHeader current flow = r.decide current current destination flow.withoutPorts ∧
        ∀ ports, r.decideHeader current { flow with ports } = r.decideHeader current flow) ∧
    (∀ node, ¬ r.Owns node Addresses.unknownSource) ∧
    ∀ current flow fault, r.decideHeader current flow = .error fault ↔
      r.HeaderFault t.size current flow fault := by
  obtain ⟨table, installed, built⟩ := ofTopology_eq_ok_iff.1 made
  refine ⟨?_, ?_, not_owns_unknownSource installed built, fun _ _ _ =>
    decideHeader_eq_error_iff installed built⟩
  · intro source destination flow connected fromSource toDestination
    obtain ⟨w, -, walked⟩ :=
      path?_eq_support made (lt_size_of_owns installed built fromSource) connected flow
    have decides := decideHeader_of_owns installed built fromSource toDestination
    have delivers := delivers_of_pathFrom decides walked
    have inRange := lt_size_of_owns installed built toDestination
    have arrives := (decide_eq_localDelivery_iff flow installed built
      ⟨inRange, lt_size_of_owns installed built fromSource, inRange⟩).2 rfl
    refine ⟨w.support, walked, ?_, (decides destination).trans arrives,
      fun visited => ⟨fun other => other.unique delivers, ?_⟩⟩
    · rw [List.getLast?_eq_some_getLast w.support_ne_nil, w.getLast_support]
    · rintro rfl
      exact delivers
  · intro current destination flow unknown toDestination
    have decided := decideHeader_of_unknownSource installed built unknown toDestination current
    refine ⟨decided, fun ports => ?_⟩
    rw [decided]
    have decidedPorts := @decideHeader_of_unknownSource t config r table installed built destination
      { flow with ports } unknown toDestination current
    exact decidedPorts

/-- From the first interface of switch 0 to the second one of switch 3. -/
def acrossRing : Flow := .tcp (.ofOctets 10 0 0 1) (.ofOctets 10 0 3 2) 1234 80

/-- Headers lead along the path of the flow, and no switch has the placeholder as its address. -/
theorem ring_decideHeader : ∃ r, ofTopology Topology.ring {} = .ok r ∧
    (∃ path, r.path? 0 3 acrossRing = .ok (some path) ∧ r.Delivers acrossRing 0 path) ∧
    r.decideHeader 1 { acrossRing with destination := Addresses.unknownSource } =
      .error (.unknownAddress Addresses.unknownSource) := by
  obtain ⟨r, made⟩ := @exists_ofTopology Topology.ring {} (by decide) (by decide)
  obtain ⟨table, installed, built⟩ := ofTopology_eq_ok_iff.1 made
  have ends : ∀ table ∈ (LinkTable.install Topology.ring.graph).toOption,
      ⟨0, 1, .ofOctets 10 0 0 1⟩ ∈ table.linkEnds ∧ ⟨3, 2, .ofOctets 10 0 3 2⟩ ∈ table.linkEnds := by
    decide +kernel
  obtain ⟨start, goal⟩ := ends table (by rw [installed]; rfl)
  have owns : ∀ side ∈ table.linkEnds, r.Owns side.node side.address := by
    intro side listed
    rw [← resolve?_eq_some_iff_owns installed built, addresses_of_withLinks built]
    exact (Addresses.resolve?_eq_some_iff installed).2 ⟨side, listed, rfl, rfl⟩
  have connected : Topology.ring.graph.simple.Reachable 0 3 :=
    ⟨.cons (v := 1) (Or.inl (by decide)) (.cons (v := 3) (Or.inl (by decide)) .nil)⟩
  obtain ⟨delivered, -, unassigned, faults⟩ := decideHeader_exact made
  obtain ⟨path, found, -, -, visits⟩ := delivered 0 3 acrossRing connected (owns _ start) (owns _ goal)
  refine ⟨r, made, ⟨path, found, (visits path).2 rfl⟩, (faults _ _ _).2 (.destination ?_ ?_)⟩
  · exact Or.inr ⟨0, owns _ start⟩
  · exact fun ⟨node, owner⟩ => unassigned node owner

end Multipath.Router
