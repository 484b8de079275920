import Multipath.Proofs.Trace.Flows
import Multipath.Proofs.Trace.Tallies
import Multipath.Trace.Report

/-!
# How flows spread

Flows that differ in their source port only are all routed or none of them is, since a route
depends on the graph and not on the hash. Each of them takes a shortest path, on which it visits a
node once, so the rows of a node share out the flows that come by there.

Results:
1. `isRoute_visited`: what the nodes that a flow visits have in common for all ports.
2. `tally_eq`: the tally never fails, and it holds the steps of all flows.
3. `spreads_rows`: what the rows say about the flows.
4. `ofOptions_spread`: the report on a number of flows.
-/

namespace Multipath

namespace Setup

/-- The nodes that flow number `i` visits, in order; none if there is no route. -/
def visited (s : Setup) (source destination : ℕ) (sourcePort destinationPort : UInt16) (i : ℕ) :
    List ℕ :=
  match s.path? source destination (sourcePort + UInt16.ofNat i) destinationPort with
  | .ok (some path) => path
  | _ => []

/-! ## 1. One flow -/

/-- A way along next hops that visits no node twice and does not stop on the way. -/
structure IsRoute (s : Setup) (destination : ℕ) (path : List ℕ) : Prop where
  distinct : path.Nodup
  chain : path.IsChain fun node next => next ∈ s.router.nextHops.get node destination
  arrives : ∀ node, path.getLast? = some node → node = destination

section

variable {s : Setup} {config : Config} {source destination : ℕ}
  (routed : Router.ofTopology s.topology config = .ok s.router)

include routed in
theorem isChain_support {w : s.topology.graph.simple.Walk source destination}
    (shortest : w.length = s.topology.graph.simple.dist source destination) :
    w.support.IsChain fun node next => next ∈ s.router.nextHops.get node destination := by
  obtain ⟨table, installed, built⟩ := Router.ofTopology_eq_ok_iff.1 routed
  have few := LinkTable.install_eq_ok_iff.1 ⟨table, installed⟩
  have fit := Graph.pathsFit_of_edges_le (few.trans_lt (by decide))
  obtain ⟨nextHops, interfaces, listed, -, made⟩ := Router.withLinks_eq_ok_iff.1 built
  rw [made]
  exact NextHops.isChain_of_shortest fit listed w shortest

include routed in
/-- Nothing is listed for the destination itself. -/
theorem ne_of_several {node : ℕ} (several : 1 < (s.router.nextHops.get node destination).length) :
    node ≠ destination := by
  rintro rfl
  obtain ⟨table, installed, built⟩ := Router.ofTopology_eq_ok_iff.1 routed
  obtain ⟨next, listed⟩ := List.length_pos_iff_exists_mem.1 (Nat.zero_lt_of_lt several)
  obtain ⟨-, -, closer⟩ := (Router.routes_of_installed installed built).mem_get.1 listed
  rw [SimpleGraph.dist_self] at closer
  cases closer

variable (linkedSource : s.topology.Linked source)
  (linkedDestination : s.topology.Linked destination)
include routed linkedSource linkedDestination

theorem isRoute_visited (sourcePort destinationPort : UInt16) (i : ℕ) :
    s.IsRoute destination (s.visited source destination sourcePort destinationPort i) := by
  unfold visited
  by_cases connected : s.topology.graph.simple.Reachable source destination
  · obtain ⟨w, shortest, found⟩ := path?_of_reachable routed linkedSource linkedDestination
      connected (sourcePort + UInt16.ofNat i) destinationPort
    rw [found]
    refine ⟨(w.isPath_of_length_eq_dist shortest).support_nodup, isChain_support routed shortest,
      fun node last => ?_⟩
    rw [List.getLast?_eq_some_getLast w.support_ne_nil, w.getLast_support] at last
    exact (Option.some.inj last).symm
  · rw [path?_of_not_reachable routed linkedSource linkedDestination connected]
    exact ⟨List.nodup_nil, List.IsChain.nil, nofun⟩

theorem path?_eq_visited (connected : s.topology.graph.simple.Reachable source destination)
    (sourcePort destinationPort : UInt16) (i : ℕ) :
    s.path? source destination (sourcePort + UInt16.ofNat i) destinationPort =
        .ok (some (s.visited source destination sourcePort destinationPort i)) ∧
      source ∈ s.visited source destination sourcePort destinationPort i := by
  obtain ⟨w, -, found⟩ := path?_of_reachable routed linkedSource linkedDestination connected
    (sourcePort + UInt16.ofNat i) destinationPort
  rw [visited, found]
  exact ⟨rfl, w.start_mem_support⟩

end

end Setup

namespace Report

/-! ## 2. All flows -/

/-- The steps that a number of flows take at nodes with a choice. -/
def choicesOf (s : Setup) (destination count : ℕ) (visited : ℕ → List ℕ) : List (ℕ × ℕ) :=
  (List.range count).flatMap fun i => Tally.choices s.router.nextHops destination (visited i)

section

variable {s : Setup} {config : Config} {source destination : ℕ}
  (routed : Router.ofTopology s.topology config = .ok s.router)
  (linkedSource : s.topology.Linked source) (linkedDestination : s.topology.Linked destination)
include routed linkedSource linkedDestination

theorem exists_tally (count : ℕ) (sourcePort destinationPort : UInt16) :
    ∃ path : ℕ → Option (List ℕ),
      (∀ i, s.path? source destination (sourcePort + UInt16.ofNat i) destinationPort =
        .ok (path i)) ∧
      tally s source destination count sourcePort destinationPort =
        .ok (((List.range count).map path).foldl (Tally.add s.router.nextHops destination)
          Tally.empty) := by
  have found := fun i => Setup.exists_path?_eq_ok routed linkedSource linkedDestination
    (sourcePort + UInt16.ofNat i) destinationPort
  choose path found using found
  refine ⟨path, found, ?_⟩
  obtain ⟨last, done, rfl⟩ := exists_foldlM_range (m := Except TraceError)
    (fun (tally : Tally) i => do
      let path ← s.path? source destination (sourcePort + UInt16.ofNat i) destinationPort
      return tally.add s.router.nextHops destination path)
    (fun i tally => tally = ((List.range i).map path).foldl
      (Tally.add s.router.nextHops destination) Tally.empty)
    rfl fun i _ state same => by
      refine ⟨_, by rw [found i]; rfl, ?_⟩
      rw [same, List.range_succ, List.map_append, List.foldl_append]
      rfl
  exact done

theorem tally_eq (count : ℕ) (sourcePort destinationPort : UInt16) :
    ∃ path : ℕ → Option (List ℕ),
      (∀ i, s.path? source destination (sourcePort + UInt16.ofNat i) destinationPort =
        .ok (path i)) ∧
      tally s source destination count sourcePort destinationPort =
        .ok ⟨(List.range count).countP fun i => (path i).isSome,
          (List.range count).countP fun i => (path i).isNone,
          (choicesOf s destination count
            (s.visited source destination sourcePort destinationPort)).foldl Tally.addStep ∅⟩ := by
  obtain ⟨path, found, done⟩ :=
    exists_tally routed linkedSource linkedDestination count sourcePort destinationPort
  have visits : ∀ i, (path i).getD [] =
      s.visited source destination sourcePort destinationPort i := by
    intro i
    rw [Setup.visited, found i]
    cases path i <;> rfl
  refine ⟨path, found, ?_⟩
  rw [done, Tally.foldl_add, List.countP_map, List.countP_map, List.flatMap_map]
  simp only [visits]
  rfl

theorem tally_of_reachable (connected : s.topology.graph.simple.Reachable source destination)
    (count : ℕ) (sourcePort destinationPort : UInt16) :
    tally s source destination count sourcePort destinationPort =
      .ok ⟨count, 0, (choicesOf s destination count
        (s.visited source destination sourcePort destinationPort)).foldl Tally.addStep ∅⟩ := by
  obtain ⟨path, found, done⟩ :=
    tally_eq routed linkedSource linkedDestination count sourcePort destinationPort
  have everyone : ∀ i, (path i).isSome = true := by
    intro i
    obtain ⟨w, -, walked⟩ := Setup.path?_of_reachable routed linkedSource linkedDestination
      connected (sourcePort + UInt16.ofNat i) destinationPort
    rw [found i] at walked
    rw [Except.ok.inj walked]
    rfl
  have nobody : ∀ i, (path i).isNone = false := fun i => by
    rw [Option.isNone_eq_false_iff, everyone]
  rw [done]
  simp only [everyone, nobody, List.countP_true, List.countP_false,
    Function.const_apply, List.length_range]

theorem tally_of_not_reachable
    (unconnected : ¬ s.topology.graph.simple.Reachable source destination)
    (count : ℕ) (sourcePort destinationPort : UInt16) :
    tally s source destination count sourcePort destinationPort =
      .ok ⟨0, count, (choicesOf s destination count
        (s.visited source destination sourcePort destinationPort)).foldl Tally.addStep ∅⟩ := by
  obtain ⟨path, found, done⟩ :=
    tally_eq routed linkedSource linkedDestination count sourcePort destinationPort
  have nobody : ∀ i, path i = none := by
    intro i
    have nowhere := Setup.path?_of_not_reachable routed linkedSource linkedDestination
      unconnected (sourcePort + UInt16.ofNat i) destinationPort
    rw [found i] at nowhere
    exact Except.ok.inj nowhere
  rw [done]
  simp only [nobody, Option.isSome_none, Option.isNone_none, List.countP_true, List.countP_false,
    Function.const_apply, List.length_range]

end

/-! ## 3. Rows -/

/-- What rows say about the flows that visit these nodes. -/
structure Spreads (s : Setup) (destination count : ℕ) (visited : ℕ → List ℕ)
    (rows : List ((ℕ × ℕ) × ℕ)) : Prop where
  ascending : (rows.map Prod.fst).Pairwise Graph.EdgeLt
  mem_iff : ∀ node next flows, ((node, next), flows) ∈ rows ↔
    1 < (s.router.nextHops.get node destination).length ∧ 0 < flows ∧
      flows = (List.range count).countP fun i => (node, next) ∈ Tally.pathSteps (visited i)
  listed : ∀ node next flows, ((node, next), flows) ∈ rows →
    next ∈ s.router.nextHops.get node destination
  sum_eq : ∀ node, 1 < (s.router.nextHops.get node destination).length →
    ((rows.filter fun row => row.1.1 = node).map Prod.snd).sum =
      (List.range count).countP fun i => node ∈ visited i

theorem spreads_rows {s : Setup} {destination count : ℕ} {visited : ℕ → List ℕ}
    (routes : ∀ i, s.IsRoute destination (visited i))
    (apart : ∀ node, 1 < (s.router.nextHops.get node destination).length → node ≠ destination) :
    Spreads s destination count visited (Tally.rows (choicesOf s destination count visited)) := by
  have several : ∀ step ∈ choicesOf s destination count visited,
      1 < (s.router.nextHops.get step.1 destination).length := by
    intro step listed
    obtain ⟨i, -, chosen⟩ := List.mem_flatMap.1 listed
    exact of_decide_eq_true (List.mem_filter.1 chosen).2
  have counts : ∀ node next, 1 < (s.router.nextHops.get node destination).length →
      (choicesOf s destination count visited).count (node, next) =
        (List.range count).countP fun i => (node, next) ∈ Tally.pathSteps (visited i) := by
    intro node next choice
    refine Tally.countP_flatMap_eq fun i => ?_
    rw [Tally.countP_choices]
    · exact Tally.count_pathSteps (routes i).distinct (node, next)
    · intro step same
      rw [eq_of_beq same]
      exact choice
  have mem_iff : ∀ node next flows,
      ((node, next), flows) ∈ Tally.rows (choicesOf s destination count visited) ↔
        1 < (s.router.nextHops.get node destination).length ∧ 0 < flows ∧
          flows = (List.range count).countP fun i =>
            (node, next) ∈ Tally.pathSteps (visited i) := by
    intro node next flows
    rw [Tally.mem_rows_iff]
    constructor
    · rintro ⟨positive, rfl⟩
      have choice := several _ (List.count_pos_iff.1 positive)
      exact ⟨choice, positive, counts node next choice⟩
    · rintro ⟨choice, positive, rfl⟩
      exact ⟨positive, counts node next choice⟩
  refine ⟨Tally.pairwise_rows _, mem_iff, fun node next flows shown => ?_, fun node choice => ?_⟩
  · obtain ⟨-, positive, rfl⟩ := (mem_iff node next flows).1 shown
    obtain ⟨i, -, taken⟩ := List.countP_pos_iff.1 positive
    exact Tally.forall_mem_pathSteps (routes i).chain _ (of_decide_eq_true taken)
  · rw [Tally.sum_rows _ fun step => decide (step.1 = node)]
    refine Tally.countP_flatMap_eq fun i => ?_
    rw [Tally.countP_choices]
    · exact Tally.countP_pathSteps (routes i).distinct fun last =>
        apart node choice ((routes i).arrives node last)
    · intro step same
      rw [of_decide_eq_true same]
      exact choice

/-! ## 4. Reports -/

def totalsLine (routed unrouted : ℕ) : String := s!"flows routed={routed} no_route={unrouted}\n"

def stepLine : (ℕ × ℕ) × ℕ → String
  | ((node, next), flows) => s!"next_hop node={node} next={next} flows={flows}\n"

theorem render_eq (routed unrouted : ℕ) (steps : List (ℕ × ℕ)) :
    Tally.render ⟨routed, unrouted, steps.foldl Tally.addStep ∅⟩ =
      totalsLine routed unrouted ++ String.join ((Tally.rows steps).map stepLine) := rfl

theorem ofOptions_of_tally {files : Files} {o : Options} {s : Setup} {state : String}
    {source destination count : ℕ} {spread : Tally} (set : Setup.ofOptions files o = .ok s)
    (shown : stateText s o.state = .ok state) (ends : o.ends = some (source, destination))
    (asked : o.flows = some count) (inRangeSource : source < s.topology.size)
    (inRangeDestination : destination < s.topology.size)
    (tallied : tally s source destination count o.sourcePort o.destinationPort = .ok spread) :
    ofOptions files o = ⟨state ++ spread.render, none⟩ := by
  have text : flowText s o = .ok spread.render := by
    simp only [flowText, ends, asked, Setup.checkNode_of_lt inRangeSource,
      Setup.checkNode_of_lt inRangeDestination, ok_bind, tallied]
    rfl
  simp only [ofOptions, set, shown, text]

theorem toNat_port (first : UInt16) (i : ℕ) :
    (first + UInt16.ofNat i).toNat = (first.toNat + i) % UInt16.size := by
  rw [UInt16.toNat_add, UInt16.toNat_ofNat', Nat.add_mod_mod]

theorem nodup_ports (first : UInt16) {count : ℕ} (few : count ≤ UInt16.size) :
    ((List.range count).map fun i => first + UInt16.ofNat i).Nodup := by
  refine List.Nodup.map_on (fun i inRange j inRangeJ same => ?_) List.nodup_range
  rw [List.mem_range] at inRange inRangeJ
  have equal := congrArg UInt16.toNat (UInt16.add_right_inj first |>.1 same)
  rwa [UInt16.toNat_ofNat_of_lt' (inRange.trans_le few),
    UInt16.toNat_ofNat_of_lt' (inRangeJ.trans_le few)] at equal

/-- A kind of path that all flows take or none makes up all flows, once there is one of them. -/
theorem countP_eq_of_constant {count : ℕ} {visited : ℕ → List ℕ} {step : ℕ × ℕ}
    (constant : ∀ i j, visited i = visited j)
    (positive : 0 < (List.range count).countP fun i => step ∈ Tally.pathSteps (visited i)) :
    (List.range count).countP (fun i => step ∈ Tally.pathSteps (visited i)) = count := by
  obtain ⟨i, -, taken⟩ := List.countP_pos_iff.1 positive
  rw [List.countP_eq_length.2 fun j _ => constant i j ▸ taken, List.length_range]

/-- For a number of flows between two nodes with links, either all of them are routed or none is,
and this is shown first. Then there is a row for each step that some of them take at a node with
a choice, with the number of flows that take it, in ascending order. So the rows of such a node add
up to the flows that visit it, and those of the source to all flows. All flows have different source
ports; without a protocol that has ports they all take the same path. -/
theorem ofOptions_spread {files : Files} {o : Options} {s : Setup} {state : String}
    {source destination count : ℕ} (set : Setup.ofOptions files o = .ok s)
    (shown : stateText s o.state = .ok state) (ends : o.ends = some (source, destination))
    (asked : o.flows = some count) (few : count < UInt16.size)
    (linkedSource : s.topology.Linked source) (linkedDestination : s.topology.Linked destination) :
    ∃ rows,
      (s.topology.graph.simple.Reachable source destination →
        ofOptions files o =
          ⟨state ++ (totalsLine count 0 ++ String.join (rows.map stepLine)), none⟩ ∧
        ∀ i, s.path? source destination (o.sourcePort + UInt16.ofNat i) o.destinationPort =
          .ok (some (s.visited source destination o.sourcePort o.destinationPort i))) ∧
      (¬ s.topology.graph.simple.Reachable source destination →
        ofOptions files o =
          ⟨state ++ (totalsLine 0 count ++ String.join (rows.map stepLine)), none⟩ ∧
        ∀ i, s.path? source destination (o.sourcePort + UInt16.ofNat i) o.destinationPort =
          .ok none) ∧
      Spreads s destination count (s.visited source destination o.sourcePort o.destinationPort)
        rows ∧
      (s.topology.graph.simple.Reachable source destination →
        1 < (s.router.nextHops.get source destination).length →
        ((rows.filter fun row => row.1.1 = source).map Prod.snd).sum = count) ∧
      ((List.range count).map fun i => o.sourcePort + UInt16.ofNat i).Nodup ∧
      (∀ i, (o.sourcePort + UInt16.ofNat i).toNat = (o.sourcePort.toNat + i) % UInt16.size) ∧
      (s.protocol ≠ Flow.tcpProtocol → s.protocol ≠ Flow.udpProtocol →
        ∀ row ∈ rows, row.2 = count) := by
  obtain ⟨config, -, -, -, routed⟩ := Setup.ofOptions_eq_ok_iff.1 set
  have routes := Setup.isRoute_visited routed linkedSource linkedDestination
    o.sourcePort o.destinationPort
  have spreads : Spreads s destination count _ _ :=
    spreads_rows routes fun node => Setup.ne_of_several routed
  have report := fun spread => @ofOptions_of_tally files o s state source destination count spread
    set shown ends asked (Setup.lt_size_of_linked linkedSource)
    (Setup.lt_size_of_linked linkedDestination)
  refine ⟨_, fun connected => ?_, fun unconnected => ?_, spreads, fun connected several => ?_,
    nodup_ports o.sourcePort few.le, toNat_port o.sourcePort, fun noTcp noUdp row listed => ?_⟩
  · rw [report _ (tally_of_reachable routed linkedSource linkedDestination connected _ _ _),
      render_eq]
    exact ⟨rfl, fun i => (Setup.path?_eq_visited routed linkedSource linkedDestination connected
      _ _ i).1⟩
  · rw [report _ (tally_of_not_reachable routed linkedSource linkedDestination unconnected _ _ _),
      render_eq]
    exact ⟨rfl, fun i => Setup.path?_of_not_reachable routed linkedSource linkedDestination
      unconnected _ _⟩
  · have everyone : ∀ i ∈ List.range count, decide (source ∈
        s.visited source destination o.sourcePort o.destinationPort i) = true := fun i _ =>
      decide_eq_true
        (Setup.path?_eq_visited routed linkedSource linkedDestination connected _ _ i).2
    rw [spreads.sum_eq source several, List.countP_eq_length.2 everyone, List.length_range]
  · obtain ⟨⟨node, next⟩, flows⟩ := row
    obtain ⟨-, positive, same⟩ := (spreads.mem_iff node next flows).1 listed
    have constant : ∀ i j, s.visited source destination o.sourcePort o.destinationPort i =
        s.visited source destination o.sourcePort o.destinationPort j := by
      intro i j
      rw [Setup.visited, Setup.path?_congr_port noTcp noUdp source destination _
        (o.sourcePort + UInt16.ofNat j), Setup.visited]
    rw [same] at positive ⊢
    exact countP_eq_of_constant constant positive

/-- Packets without ports, from one side of the ring to the other. -/
def acrossRing : Options where
  topology := some "ring"
  fatTreeArity := none
  config := none
  state := none
  ends := some (0, 3)
  protocol := "1"
  sourcePort := 65000
  destinationPort := 80
  flows := some 1000

/-- All of them take the same way round, although there are two. -/
theorem ofOptions_acrossRing : ∃ (s : Setup) (rows : List ((ℕ × ℕ) × ℕ)),
    Setup.ofOptions Setup.ringFiles acrossRing = .ok s ∧
    ofOptions Setup.ringFiles acrossRing =
      ⟨"" ++ (totalsLine 1000 0 ++ String.join (rows.map stepLine)), none⟩ ∧
    ((rows.filter fun row => row.1.1 = 0).map Prod.snd).sum = 1000 ∧
    ∀ row ∈ rows, row.2 = 1000 := by
  obtain ⟨s, set, topology, protocol, routed⟩ :=
    @Setup.exists_ring_setup acrossRing 1 rfl rfl (by decide +kernel)
  have linkedSource : s.topology.Linked 0 := topology ▸ ⟨1, by decide⟩
  have linkedDestination : s.topology.Linked 3 := topology ▸ ⟨1, by decide⟩
  have connected : s.topology.graph.simple.Reachable 0 3 := by
    rw [topology]
    exact ⟨.cons (v := 1) (Or.inl (by decide)) (.cons (v := 3) (Or.inl (by decide)) .nil)⟩
  have several : 1 < (s.router.nextHops.get 0 3).length := by
    obtain ⟨table, -, built⟩ := Router.ofTopology_eq_ok_iff.1 routed
    obtain ⟨nextHops, interfaces, listed, -, made⟩ := Router.withLinks_eq_ok_iff.1 built
    have tables : ∀ table ∈ (NextHops.ofGraph Topology.ring.graph {}).toOption,
        1 < (table.get 0 3).length := by decide +kernel
    rw [topology] at listed
    rw [made]
    exact tables nextHops (by rw [listed]; rfl)
  have stateless : stateText s acrossRing.state = .ok "" := rfl
  obtain ⟨rows, shown, -, -, sum, -, -, constant⟩ := ofOptions_spread set stateless rfl rfl
    (by decide) linkedSource linkedDestination
  exact ⟨s, rows, set, (shown connected).1, sum connected several,
    constant (protocol ▸ by decide) (protocol ▸ by decide)⟩

end Report

end Multipath
