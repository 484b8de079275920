import Mathlib.Data.List.Perm.Subperm
import Multipath.Proofs.Graph.Drawn
import Multipath.Topology.Basic

/-!
# Roles of the nodes of a blueprint

The three role lists become sets of nodes, and the sets are checked against each other. That
every node has a role is not looked up node by node: the sets of switches and of servers are
counted, and being disjoint they cannot have as many elements as there are nodes and miss one.

Results:
1. `collect_eq_ok_iff`: a list becomes the set of its entries, provided that these are nodes and
   none is listed twice.
2. `mem_switches_or_mem_servers`: lists that share out the nodes miss none.
3. `RoleSets.ofBlueprint_eq_ok_iff`, `strayLink?_eq_none_iff`: the checks accept these lists, and
   links from servers to ToRs only.
-/

namespace Multipath

/-- The set has the entries of the list. -/
def NodeSet.Holds (nodes : NodeSet) (ids : List ℕ) : Prop := ∀ node, node ∈ nodes ↔ node ∈ ids

theorem NodeSet.Holds.size_eq {nodes : NodeSet} {ids : List ℕ} (holds : nodes.Holds ids)
    (distinct : ids.Nodup) : nodes.size = ids.length := by
  have nodup : nodes.toList.Nodup := nodes.ascending.imp Nat.ne_of_lt
  exact ((List.perm_ext_iff_of_nodup nodup distinct).2 holds).length_eq

theorem NodeSet.holds_below {size : ℕ} {ids : List ℕ} (inRange : ∀ node ∈ ids, node < size) :
    (NodeSet.below size (· ∈ ids)).Holds ids := by
  intro node
  rw [NodeSet.mem_below, decide_eq_true_eq]
  exact and_iff_right_of_imp (inRange node)

namespace RoleSets

/-! ## 1. From lists to sets -/

/-- One entry of a role list. -/
def enlist (role : Role) (size : ℕ) (nodes : NodeSet) (node : ℕ) : Except TopologyError NodeSet :=
  if node < size then
    match nodes.insert? node with
    | some grown => .ok grown
    | none => .error (.repeated role node)
  else .error (.outOfRange role node size)

variable {role : Role} {size node : ℕ} {ids : List ℕ} {nodes grown : NodeSet}

theorem collect_eq_foldlM : collect role size ids = ids.foldlM (enlist role size) ∅ := rfl

theorem enlist_eq_ok_iff :
    enlist role size nodes node = .ok grown ↔
      node < size ∧ ¬ node ∈ nodes ∧ ∀ other, other ∈ grown ↔ other = node ∨ other ∈ nodes := by
  rw [← NodeSet.insert?_eq_some_iff]
  unfold enlist
  split
  · next inRange =>
    cases nodes.insert? node with
    | none => exact iff_of_false nofun nofun
    | some result => rw [Except.ok.injEq, Option.some.injEq, and_iff_right inRange]
  · next outside => exact iff_of_false nofun fun accepted => outside accepted.1

/-- An entry is refused for what the set had before or for an earlier entry of the list. -/
theorem foldlM_enlist_eq_ok_iff {result : NodeSet} :
    ids.foldlM (enlist role size) nodes = .ok result ↔
      (∀ node ∈ ids, node < size ∧ ¬ node ∈ nodes) ∧ ids.Nodup ∧
        ∀ node, node ∈ result ↔ node ∈ ids ∨ node ∈ nodes := by
  induction ids generalizing nodes with
  | nil =>
    simp only [List.foldlM_nil, List.not_mem_nil, false_implies, implies_true, List.nodup_nil,
      false_or, true_and]
    constructor
    · rintro ⟨⟩ node
      exact Iff.rfl
    · intro same
      rw [NodeSet.ext_mem same]
      rfl
  | cons node rest ih =>
    rw [List.foldlM_cons, bind_eq_ok_iff, List.forall_mem_cons, List.nodup_cons]
    constructor
    · rintro ⟨grown, enlisted, further⟩
      obtain ⟨inRange, new, members⟩ := enlist_eq_ok_iff.1 enlisted
      obtain ⟨fresh, distinct, result⟩ := ih.1 further
      simp only [members, not_or] at fresh result
      refine ⟨⟨⟨inRange, new⟩, fun other listed =>
          ⟨(fresh other listed).1, (fresh other listed).2.2⟩⟩,
        ⟨fun listed => (fresh node listed).2.1 rfl, distinct⟩, fun other => ?_⟩
      rw [result, List.mem_cons, or_left_comm, or_assoc]
    · rintro ⟨⟨⟨inRange, new⟩, fresh⟩, ⟨unlisted, distinct⟩, result⟩
      obtain ⟨grown, inserted⟩ : ∃ grown, nodes.insert? node = some grown :=
        Option.ne_none_iff_exists'.1 (mt NodeSet.insert?_eq_none_iff.1 new)
      have members := NodeSet.mem_of_insert? inserted
      refine ⟨grown, enlist_eq_ok_iff.2 ⟨inRange, new, members⟩, ih.2 ⟨fun other listed => ?_,
        distinct, fun other => ?_⟩⟩
      · rw [members, not_or]
        exact ⟨(fresh other listed).1, fun same => unlisted (same ▸ listed), (fresh other listed).2⟩
      · rw [result, members, List.mem_cons, or_left_comm, or_assoc]

theorem collect_eq_ok_iff :
    collect role size ids = .ok nodes ↔
      ((∀ node ∈ ids, node < size) ∧ ids.Nodup) ∧ nodes.Holds ids := by
  have none : ∀ node, ¬ node ∈ (∅ : NodeSet) := NodeSet.not_mem_empty
  rw [collect_eq_foldlM, foldlM_enlist_eq_ok_iff, and_assoc]
  simp only [none, not_false_eq_true, and_true, or_false, NodeSet.Holds]

end RoleSets

/-! ## 2. Lists that share out the nodes -/

/-- Switches and servers share out the nodes, and ToRs are switches. -/
@[mk_iff]
structure Blueprint.RolesShareNodes (b : Blueprint) : Prop where
  listed : ∀ ids ∈ [b.switches, b.tors, b.servers], (∀ id ∈ ids, id < b.nodeCount) ∧ ids.Nodup
  disjoint : ∀ id ∈ b.servers, id ∉ b.switches
  tors : ∀ id ∈ b.tors, id ∈ b.switches
  complete : b.switches.length + b.servers.length = b.nodeCount

instance (b : Blueprint) : Decidable b.RolesShareNodes :=
  decidable_of_iff' _ (Blueprint.rolesShareNodes_iff b)

/-- As many distinct ids below the number of nodes as there are nodes leave none out. -/
theorem Blueprint.RolesShareNodes.mem_switches_or_mem_servers {b : Blueprint}
    (shared : b.RolesShareNodes) {node : ℕ} (inRange : node < b.nodeCount) :
    node ∈ b.switches ∨ node ∈ b.servers := by
  obtain ⟨switchesInRange, distinctSwitches⟩ := shared.listed b.switches (by simp)
  obtain ⟨serversInRange, distinctServers⟩ := shared.listed b.servers (by simp)
  have distinct : (b.switches ++ b.servers).Nodup :=
    distinctSwitches.append distinctServers fun id inSwitches inServers =>
      shared.disjoint id inServers inSwitches
  have within : b.switches ++ b.servers ⊆ List.range b.nodeCount := by
    intro id listed
    rw [List.mem_range]
    cases List.mem_append.1 listed with
    | inl inSwitches => exact switchesInRange id inSwitches
    | inr inServers => exact serversInRange id inServers
  -- distinct ids, all of them nodes and as many as there are nodes, are the nodes in some order
  have all : (b.switches ++ b.servers).Perm (List.range b.nodeCount) := by
    refine (distinct.subperm within).perm_of_length_le ?_
    rw [List.length_range, List.length_append, shared.complete]
  exact List.mem_append.1 (all.mem_iff.2 (List.mem_range.2 inRange))

/-! ## 3. The checks -/

/-- Each of the sets has the entries of its list. -/
structure RoleSets.Hold (sets : RoleSets) (b : Blueprint) : Prop where
  switches : sets.switches.Holds b.switches
  tors : sets.tors.Holds b.tors
  servers : sets.servers.Holds b.servers

namespace RoleSets

variable {b : Blueprint} {sets : RoleSets}

theorem collectAll_eq_ok_iff :
    collectAll b = .ok sets ↔
      (∀ ids ∈ [b.switches, b.tors, b.servers], (∀ id ∈ ids, id < b.nodeCount) ∧ ids.Nodup) ∧
        sets.Hold b := by
  unfold collectAll
  simp only [bind_eq_ok_iff, collect_eq_ok_iff, List.forall_mem_cons, List.not_mem_nil,
    false_implies, implies_true, and_true]
  constructor
  · rintro ⟨switches, ⟨listedSwitches, holdsSwitches⟩, tors, ⟨listedTors, holdsTors⟩, servers,
      ⟨listedServers, holdsServers⟩, ⟨⟩⟩
    exact ⟨⟨listedSwitches, listedTors, listedServers⟩, ⟨holdsSwitches, holdsTors, holdsServers⟩⟩
  · rintro ⟨⟨listedSwitches, listedTors, listedServers⟩, holds⟩
    exact ⟨sets.switches, ⟨listedSwitches, holds.switches⟩, sets.tors, ⟨listedTors, holds.tors⟩,
      sets.servers, ⟨listedServers, holds.servers⟩, rfl⟩

theorem clash?_eq_none_iff {size : ℕ} :
    sets.clash? size = none ↔ (∀ node ∈ sets.servers, ¬ node ∈ sets.switches) ∧
      (∀ node ∈ sets.tors, node ∈ sets.switches) ∧
        sets.switches.size + sets.servers.size = size := by
  unfold clash?
  cases overlap : sets.servers.toList.find? (· ∈ sets.switches) with
  | some node =>
    have shared : node ∈ sets.switches := by simpa using List.find?_some overlap
    exact iff_of_false nofun fun ⟨disjoint, _⟩ =>
      disjoint node (List.mem_of_find?_eq_some overlap) shared
  | none =>
    have disjoint : ∀ node ∈ sets.servers, ¬ node ∈ sets.switches := by
      simpa [NodeSet.mem_toList] using overlap
    cases stray : sets.tors.toList.find? (· ∉ sets.switches) with
    | some node =>
      have missing : ¬ node ∈ sets.switches := by simpa using List.find?_some stray
      exact iff_of_false nofun fun ⟨_, tors, _⟩ =>
        missing (tors node (List.mem_of_find?_eq_some stray))
    | none =>
      have tors : ∀ node ∈ sets.tors, node ∈ sets.switches := by
        simpa [NodeSet.mem_toList] using stray
      simp only [ite_eq_left_iff, reduceCtorEq, imp_false, not_not]
      exact ⟨fun complete => ⟨disjoint, tors, complete⟩, fun accepted => accepted.2.2⟩

theorem ofBlueprint_eq_ok_iff :
    ofBlueprint b = .ok sets ↔ b.RolesShareNodes ∧ sets.Hold b := by
  have checked : ofBlueprint b = .ok sets ↔
      collectAll b = .ok sets ∧ sets.clash? b.nodeCount = none := by
    unfold ofBlueprint
    rw [bind_eq_ok_iff]
    constructor
    · rintro ⟨collected, made, passed⟩
      cases clash : collected.clash? b.nodeCount with
      | some fault => rw [clash] at passed; cases passed
      | none => rw [clash] at passed; cases passed; exact ⟨made, clash⟩
    · rintro ⟨made, passed⟩
      exact ⟨sets, made, by rw [passed]⟩
  rw [checked, collectAll_eq_ok_iff, clash?_eq_none_iff]
  constructor
  · rintro ⟨⟨listed, holds⟩, disjoint, tors, complete⟩
    have distinctSwitches := (listed b.switches (by simp)).2
    have distinctServers := (listed b.servers (by simp)).2
    rw [holds.switches.size_eq distinctSwitches, holds.servers.size_eq distinctServers] at complete
    simp only [holds.switches _, holds.servers _, holds.tors _] at disjoint tors
    exact ⟨⟨listed, disjoint, tors, complete⟩, holds⟩
  · rintro ⟨⟨listed, disjoint, tors, complete⟩, holds⟩
    have distinctSwitches := (listed b.switches (by simp)).2
    have distinctServers := (listed b.servers (by simp)).2
    rw [holds.switches.size_eq distinctSwitches, holds.servers.size_eq distinctServers]
    simp only [holds.switches _, holds.servers _, holds.tors _]
    exact ⟨⟨listed, holds⟩, disjoint, tors, complete⟩

theorem exists_ofBlueprint (shared : b.RolesShareNodes) : ∃ sets, ofBlueprint b = .ok sets := by
  have holds : ∀ ids ∈ [b.switches, b.tors, b.servers],
      (NodeSet.below b.nodeCount (· ∈ ids)).Holds ids := fun ids list =>
    NodeSet.holds_below (shared.listed ids list).1
  exact ⟨⟨_, _, _⟩, ofBlueprint_eq_ok_iff.2
    ⟨shared, holds b.switches (by simp), holds b.tors (by simp), holds b.servers (by simp)⟩⟩

theorem strayLink?_eq_none_iff {g : Graph} :
    sets.strayLink? g = none ↔
      ∀ server ∈ sets.servers, ∀ neighbor ∈ g.neighbors server, neighbor ∈ sets.tors := by
  unfold strayLink?
  simp only [List.findSome?_eq_none_iff, Option.map_eq_none_iff, List.find?_eq_none,
    decide_eq_true_eq, Decidable.not_not, NodeSet.mem_toList]

end RoleSets

end Multipath
