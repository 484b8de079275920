import Multipath.Proofs.Route.States
import Multipath.Proofs.Trace.Setups
import Multipath.Proofs.Trace.Spread

/-!
# How a trace ends

Behind the setup only ids and missing addresses are left to fail on, and whatever fails does so
before a path or a number of flows is shown. So a report that ends with a failure has shown the
state of a node at most.

Results:
1. `EndsFault.refused`, `exists_flowText`: what may be wrong with the ends of flows.
2. `ofOptions_eq_failure_iff`: the failures of a trace, and what was shown before each.
3. `ofOptions_outcome`: the status of a trace, for all options and files.
-/

namespace Multipath

namespace Report

/-! ## 1. Ends of flows -/

/-- What is wrong with the ends of flows: ids are checked first, and addresses are needed only if
there is a flow at all. -/
inductive EndsFault (o : Options) (t : Topology) (source destination : ℕ) : TraceError → Prop
  | source (outside : t.size ≤ source) : EndsFault o t source destination (.outOfRange source t.size)
  | destination (inRangeSource : source < t.size) (outside : t.size ≤ destination) :
      EndsFault o t source destination (.outOfRange destination t.size)
  | sourceAddress (inRangeSource : source < t.size) (inRangeDestination : destination < t.size)
      (asked : o.flows ≠ some 0) (isolated : ¬ t.Linked source) :
      EndsFault o t source destination (.noAddress source)
  | destinationAddress (inRangeDestination : destination < t.size) (asked : o.flows ≠ some 0)
      (linked : t.Linked source) (isolated : ¬ t.Linked destination) :
      EndsFault o t source destination (.noAddress destination)

section

variable {s : Setup} {o : Options} {config : Config} {source destination : ℕ}
  (routed : Router.ofTopology s.topology config = .ok s.router)

/-- Without any flow there is nothing to fail on; otherwise the first flow does. -/
theorem tally_eq_error {count : ℕ} {fault : TraceError} {destinationPort : UInt16}
    (failed : ∀ port, s.path? source destination port destinationPort = .error fault)
    (positive : count ≠ 0) (sourcePort : UInt16) :
    tally s source destination count sourcePort destinationPort = .error fault := by
  obtain ⟨further, rfl⟩ := Nat.exists_eq_succ_of_ne_zero positive
  rw [tally, List.range_succ_eq_map, List.foldlM_cons, failed]
  rfl

variable (given : o.ends = some (source, destination))
include given

theorem flowText_of_inRange (inRangeSource : source < s.topology.size)
    (inRangeDestination : destination < s.topology.size) :
    flowText s o = match o.flows with
      | none => (s.path? source destination o.sourcePort o.destinationPort).map pathText
      | some count =>
        (tally s source destination count o.sourcePort o.destinationPort).map Tally.render := by
  simp only [flowText, given, Setup.checkNode_of_lt inRangeSource,
    Setup.checkNode_of_lt inRangeDestination, ok_bind]
  cases o.flows with
  | none => rfl
  | some count => rfl

theorem flowText_eq_error {fault : TraceError} (inRangeSource : source < s.topology.size)
    (inRangeDestination : destination < s.topology.size) (asked : o.flows ≠ some 0)
    (failed : ∀ port, s.path? source destination port o.destinationPort = .error fault) :
    flowText s o = .error fault := by
  rw [flowText_of_inRange given inRangeSource inRangeDestination]
  cases flows : o.flows with
  | none =>
    dsimp only
    rw [failed]
    rfl
  | some count =>
    dsimp only
    rw [tally_eq_error failed fun zero => asked (flows.trans (congrArg some zero))]
    rfl

include routed

theorem EndsFault.refused {fault : TraceError}
    (found : EndsFault o s.topology source destination fault) : flowText s o = .error fault := by
  cases found with
  | source outside =>
    simp only [flowText, given, Setup.checkNode_of_le outside]
    rfl
  | destination inRangeSource outside =>
    simp only [flowText, given, Setup.checkNode_of_lt inRangeSource, ok_bind,
      Setup.checkNode_of_le outside]
    rfl
  | sourceAddress inRangeSource inRangeDestination asked isolated =>
    exact flowText_eq_error given inRangeSource inRangeDestination asked fun port =>
      Setup.path?_of_isolated_source routed isolated port _
  | destinationAddress inRangeDestination asked linked isolated =>
    exact flowText_eq_error given (Setup.lt_size_of_linked linked) inRangeDestination asked
      fun port => Setup.path?_of_isolated_destination routed linked isolated port _

theorem exists_flowText (inRangeSource : source < s.topology.size)
    (inRangeDestination : destination < s.topology.size)
    (linked : o.flows ≠ some 0 → s.topology.Linked source ∧ s.topology.Linked destination) :
    ∃ text, flowText s o = .ok text := by
  rw [flowText_of_inRange given inRangeSource inRangeDestination]
  cases flows : o.flows with
  | none =>
    obtain ⟨linkedSource, linkedDestination⟩ := linked (flows ▸ nofun)
    obtain ⟨path, found⟩ := Setup.exists_path?_eq_ok routed linkedSource linkedDestination
      o.sourcePort o.destinationPort
    dsimp only
    rw [found]
    exact ⟨_, rfl⟩
  | some count =>
    dsimp only
    cases count with
    | zero => exact ⟨_, rfl⟩
    | succ further =>
      obtain ⟨linkedSource, linkedDestination⟩ := linked (flows ▸ nofun)
      obtain ⟨path, -, tallied⟩ := tally_eq routed linkedSource linkedDestination (further + 1)
        o.sourcePort o.destinationPort
      rw [tallied]
      exact ⟨_, rfl⟩

end

/-! ## 2. Failures -/

/-- Everything that is asked for can be shown. -/
structure Passes (o : Options) (t : Topology) : Prop where
  state : ∀ node, o.state = some node → node < t.size
  ends : ∀ source destination, o.ends = some (source, destination) →
    source < t.size ∧ destination < t.size ∧
      (o.flows ≠ some 0 → t.Linked source ∧ t.Linked destination)

/-- What is shown before a failure, and the failure. -/
inductive Fails (files : Files) (o : Options) : String → TraceError → Prop
  | setup {fault : TraceError} (found : Setup.Fault files o fault) : Fails files o "" fault
  | state {config : Config} {protocol : UInt8} {t : Topology} {node : ℕ}
      (prepared : Setup.Prepares files o config protocol t) (given : o.state = some node)
      (outside : t.size ≤ node) : Fails files o "" (.outOfRange node t.size)
  | ends {config : Config} {protocol : UInt8} {t : Topology} {router : Router}
      {source destination : ℕ} {fault : TraceError}
      (prepared : Setup.Prepares files o config protocol t)
      (routed : Router.ofTopology t config = .ok router)
      (inRange : ∀ node, o.state = some node → node < t.size)
      (given : o.ends = some (source, destination))
      (found : EndsFault o t source destination fault) :
      Fails files o (o.state.elim "" router.stateText) fault

variable {files : Files} {o : Options} {s : Setup}

theorem stateText_eq_ok (inRange : ∀ node, o.state = some node → node < s.topology.size) :
    stateText s o.state = .ok (o.state.elim "" s.router.stateText) := by
  cases given : o.state with
  | none => rfl
  | some node =>
    rw [stateText, Setup.checkNode_of_lt (inRange node given)]
    rfl

theorem Fails.reported (few : Setup.Numberable files o) {output : String} {fault : TraceError}
    (fails : Fails files o output fault) : ofOptions files o = ⟨output, some fault⟩ := by
  cases fails with
  | setup found => rw [ofOptions, found.refused few]
  | state prepared given outside =>
    obtain ⟨router, routed⟩ := prepared.exists_router few
    rw [ofOptions, prepared.ofOptions_eq_ok routed]
    dsimp only
    rw [given, stateText, Setup.checkNode_of_le outside]
    rfl
  | @ends config protocol t router source destination fault prepared routed inRange given found =>
    rw [ofOptions, prepared.ofOptions_eq_ok routed]
    dsimp only
    rw [stateText_eq_ok (s := ⟨t, router, protocol⟩) inRange]
    dsimp only
    rw [EndsFault.refused (s := ⟨t, router, protocol⟩) routed given found]

theorem Passes.reported {config : Config} (passes : Passes o s.topology)
    (set : Setup.ofOptions files o = .ok s)
    (routed : Router.ofTopology s.topology config = .ok s.router) :
    ∃ output, ofOptions files o = ⟨output, none⟩ := by
  have text : ∃ text, flowText s o = .ok text := by
    cases given : o.ends with
    | none => exact ⟨"", by rw [flowText, given]⟩
    | some ends =>
      obtain ⟨inRangeSource, inRangeDestination, linked⟩ := passes.ends ends.1 ends.2 given
      exact exists_flowText routed given inRangeSource inRangeDestination linked
  obtain ⟨text, shown⟩ := text
  rw [ofOptions, set]
  dsimp only
  rw [stateText_eq_ok passes.state]
  dsimp only
  rw [shown]
  exact ⟨_, rfl⟩

theorem fault_or_linked (o : Options) (t : Topology) (source destination : ℕ) :
    (∃ fault, EndsFault o t source destination fault) ∨
      source < t.size ∧ destination < t.size ∧
        (o.flows ≠ some 0 → t.Linked source ∧ t.Linked destination) := by
  cases Nat.lt_or_ge source t.size with
  | inr outside => exact Or.inl ⟨_, .source outside⟩
  | inl inRangeSource =>
    cases Nat.lt_or_ge destination t.size with
    | inr outside => exact Or.inl ⟨_, .destination inRangeSource outside⟩
    | inl inRangeDestination =>
      by_cases asked : o.flows = some 0
      · exact Or.inr ⟨inRangeSource, inRangeDestination, fun other => absurd asked other⟩
      · by_cases linkedSource : t.Linked source
        · by_cases linkedDestination : t.Linked destination
          · exact Or.inr ⟨inRangeSource, inRangeDestination,
              fun _ => ⟨linkedSource, linkedDestination⟩⟩
          · exact Or.inl ⟨_,
              .destinationAddress inRangeDestination asked linkedSource linkedDestination⟩
        · exact Or.inl ⟨_, .sourceAddress inRangeSource inRangeDestination asked linkedSource⟩

/-- What does not fail on the way to a setup or behind it passes. -/
theorem fails_or_passes (few : Setup.Numberable files o) :
    (∃ output fault, Fails files o output fault) ∨
      (∃ config protocol t, Setup.Prepares files o config protocol t ∧ Passes o t) ∧
        ∃ output, ofOptions files o = ⟨output, none⟩ := by
  cases set : Setup.ofOptions files o with
  | error fault => exact Or.inl ⟨_, _, .setup ((Setup.ofOptions_eq_error_iff few).1 set)⟩
  | ok s =>
    obtain ⟨config, prepared, routed⟩ := Setup.prepares_of_ofOptions few set
    by_cases inRange : ∀ node, o.state = some node → node < s.topology.size
    case neg =>
      push Not at inRange
      obtain ⟨node, given, outside⟩ := inRange
      exact Or.inl ⟨_, _, .state prepared given outside⟩
    by_cases passing : ∀ source destination, o.ends = some (source, destination) →
        ¬ ∃ fault, EndsFault o s.topology source destination fault
    · have passes : Passes o s.topology := ⟨inRange, fun source destination given =>
        (fault_or_linked o s.topology source destination).resolve_left
          (passing source destination given)⟩
      exact Or.inr ⟨⟨config, s.protocol, s.topology, prepared, passes⟩, passes.reported set routed⟩
    · push Not at passing
      obtain ⟨source, destination, given, fault, found⟩ := passing
      exact Or.inl ⟨_, fault, .ends prepared routed inRange given found⟩

theorem ofOptions_eq_failure_iff (few : Setup.Numberable files o) {output : String}
    {fault : TraceError} : ofOptions files o = ⟨output, some fault⟩ ↔ Fails files o output fault := by
  refine ⟨fun failed => ?_, Fails.reported few⟩
  cases fails_or_passes few with
  | inl fails =>
    obtain ⟨output', fault', fails⟩ := fails
    have reported := fails.reported few
    rw [failed] at reported
    cases reported
    exact fails
  | inr passes =>
    obtain ⟨-, output', passed⟩ := passes
    rw [failed] at passed
    cases passed

theorem status_eq_zero_iff (few : Setup.Numberable files o) :
    (ofOptions files o).status = 0 ↔
      ∃ config protocol t, Setup.Prepares files o config protocol t ∧ Passes o t := by
  constructor
  · intro passed
    cases fails_or_passes few with
    | inl fails =>
      obtain ⟨output, fault, fails⟩ := fails
      rw [fails.reported few] at passed
      cases passed
    | inr passes => exact passes.1
  · rintro ⟨config, protocol, t, prepared, passes⟩
    obtain ⟨router, routed⟩ := prepared.exists_router few
    obtain ⟨output, passed⟩ := passes.reported (prepared.ofOptions_eq_ok routed) routed
    rw [passed]
    rfl

/-! ## 3. Outcomes -/

/-- What the lines of paths and flows start with. -/
def traceStarts : List String := ["path", "no_route", "flows", "next_hop"]

theorem not_prefix_of_head? {start : String} {line : List Char} (known : start ∈ traceStarts)
    (other : line.head? = some 'E' ∨ line.head? = some ' ') : ¬ start.toList <+: line := by
  rintro ⟨rest, rfl⟩
  have letters : ∀ start ∈ traceStarts, start.toList ≠ [] ∧
      ¬ (start.toList.head? = some 'E' ∨ start.toList.head? = some ' ') := by decide
  obtain ⟨nonempty, different⟩ := letters start known
  rw [List.head?_append_of_ne_nil _ nonempty] at other
  exact different other

theorem Fails.shown {output : String} {fault : TraceError}
    (fails : Fails files o output fault) : output = "" ∨ ∃ s node,
      Setup.ofOptions files o = .ok s ∧ o.state = some node ∧ node < s.topology.size ∧
        output = s.router.stateText node := by
  cases fails with
  | setup => exact Or.inl rfl
  | state => exact Or.inl rfl
  | ends prepared routed inRange =>
    cases asked : o.state with
    | none => exact Or.inl rfl
    | some node =>
      exact Or.inr ⟨_, node, prepared.ofOptions_eq_ok routed, rfl, inRange node asked, rfl⟩

/-- A trace ends with status 0 exactly when each of its inputs is in order: the configuration is read
and its limits are ordered, the protocol is known, there is a topology within the limit, all ids are
nodes of it, and the ends of flows have links, unless there are no flows. Otherwise it ends with
status 1 and the first of these that is not, and has shown nothing but the state that was asked
for, if that came first; no line of it tells of a path or of flows. -/
theorem ofOptions_outcome (few : Setup.Numberable files o) :
    ((ofOptions files o).status = 0 ↔
      ∃ config protocol t, Setup.Prepares files o config protocol t ∧ Passes o t) ∧
    ((ofOptions files o).status = 1 ↔ ∃ output fault, Fails files o output fault) ∧
    (∀ output fault, ofOptions files o = ⟨output, some fault⟩ ↔ Fails files o output fault) ∧
    ∀ output fault, ofOptions files o = ⟨output, some fault⟩ →
      (output = "" ∨ ∃ s node, Setup.ofOptions files o = .ok s ∧ o.state = some node ∧
        node < s.topology.size ∧ output = s.router.stateText node) ∧
      ∀ line ∈ Text.lines output.toList, ∀ start ∈ traceStarts, ¬ start.toList <+: line := by
  refine ⟨status_eq_zero_iff few, ?_, fun _ _ => ofOptions_eq_failure_iff few, ?_⟩
  · constructor
    · intro failed
      cases fails_or_passes few with
      | inl fails => exact fails
      | inr passes =>
        obtain ⟨-, output, passed⟩ := passes
        rw [passed] at failed
        cases failed
    · rintro ⟨output, fault, fails⟩
      rw [fails.reported few]
      rfl
  · intro output fault failed
    have shown := ((ofOptions_eq_failure_iff few).1 failed).shown
    refine ⟨shown, fun line listed start known => ?_⟩
    rcases shown with rfl | ⟨s, node, -, -, -, rfl⟩
    · cases listed
    · rw [Router.lines_stateText] at listed
      exact not_prefix_of_head? known (Router.head?_of_mem_stateLines listed)

/-- The state of a switch and flows to one that is not in the ring. -/
def outOfRing : Options := { acrossRing with state := some 1, ends := some (0, 9), protocol := "Tcp" }

/-- The state is shown, and the destination is found missing. -/
theorem ofOptions_outOfRing : Setup.Numberable Setup.ringFiles outOfRing ∧
    ∃ router : Router, ofOptions Setup.ringFiles outOfRing =
      ⟨router.stateText 1, some (.outOfRange 9 Topology.ring.size)⟩ := by
  have few : Setup.Numberable Setup.ringFiles outOfRing := by
    intro config t configured yields
    cases yields with
    | file given readable accepted =>
      cases readable
      cases accepted.symm.trans Setup.ofText_ringText
      decide
    | fatTree noFile => cases noFile
  obtain ⟨s, set, topology, -, routed⟩ :=
    @Setup.exists_ring_setup outOfRing Flow.tcpProtocol rfl rfl (by decide +kernel)
  obtain ⟨config, prepared, routed⟩ := Setup.prepares_of_ofOptions few set
  have small : s.topology.size = 4 := topology ▸ rfl
  have fails : Fails Setup.ringFiles outOfRing (s.router.stateText 1)
      (.outOfRange 9 s.topology.size) :=
    .ends prepared routed (fun node asked => by cases asked; rw [small]; decide) rfl
      (.destination (by rw [small]; decide) (by rw [small]; decide))
  rw [topology] at fails
  exact ⟨few, s.router, ((ofOptions_outcome few).2.2.1 _ _).2 fails⟩

end Report

end Multipath
