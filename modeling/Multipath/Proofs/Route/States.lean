import Multipath.Proofs.Route.EqualTables
import Multipath.Proofs.Route.Forwarding
import Multipath.Proofs.Text.Lined

/-!
# Shown states

The state of a node is shown as a heading and a line for each destination. A numeral has digits
alone, so that it ends at the comma, the brace, the colon or the line end behind it, and the text
gives back every list that was written.

Results:
1. `lines_stateText`: the lines of a state.
2. `stateText_eq_iff`: when two states are shown alike.
3. `stateText_faithful`: the states of all nodes tell tables apart.
-/

namespace Multipath

/-- Text in which no line ends. -/
def Text.Unbroken (text : List Char) : Prop := ∀ c ∈ text, c ≠ '\n' ∧ c ≠ '\r'

instance (text : List Char) : Decidable (Text.Unbroken text) := List.decidableBAll _ text

namespace Text.Unbroken

variable {text other : List Char}

theorem append (unbroken : Unbroken text) (unbrokenOther : Unbroken other) :
    Unbroken (text ++ other) := List.forall_mem_append.2 ⟨unbroken, unbrokenOther⟩

theorem writeNat (value : ℕ) : Unbroken (writeNat value) := by
  intro c present
  have digit := isDigit_of_mem_writeNat present
  constructor <;> rintro rfl <;> exact absurd digit (by decide)

theorem join_map_writeNat (values : List ℕ) : Unbroken (join ',' (values.map Text.writeNat)) := by
  refine forall_mem_join (by decide) fun piece listed => ?_
  obtain ⟨value, -, rfl⟩ := List.mem_map.1 listed
  exact writeNat value

end Text.Unbroken

namespace Router

/-! ## 1. Lines -/

/-- The line of a destination, without its ending. -/
def stateBody (r : Router) (node destination : ℕ) : List Char :=
  "  -> ".toList ++ Text.writeNat destination ++ [':', ' ', '{'] ++
    Text.join ',' ((r.nextHops.get node destination).map Text.writeNat) ++ ['}']

/-- The heading and one line for each destination. -/
def stateLines (r : Router) (node : ℕ) : List (List Char) :=
  ("ECMP state of node ".toList ++ Text.writeNat node) :: (List.range r.size).map (r.stateBody node)

theorem stateLine_eq (r : Router) (node destination : ℕ) :
    r.stateLine node destination = r.stateBody node destination ++ ['\n'] := by
  unfold stateLine stateBody
  simp only [List.append_assoc]
  rfl

theorem stateText_eq_flatMap (r : Router) (node : ℕ) :
    r.stateText node = String.ofList ((r.stateLines node).flatMap (· ++ ['\n'])) := by
  have bodies : (List.range r.size).flatMap (r.stateLine node) =
      ((List.range r.size).map (r.stateBody node)).flatMap (· ++ ['\n']) := by
    rw [List.flatMap_map]
    exact List.flatMap_congr fun destination _ => r.stateLine_eq node destination
  unfold stateText stateLines
  rw [bodies]
  rfl

theorem unbroken_stateLines (r : Router) (node : ℕ) :
    ∀ line ∈ r.stateLines node, Text.Unbroken line := by
  unfold stateLines
  rw [List.forall_mem_cons]
  refine ⟨.append (by decide) (.writeNat node), fun line listed => ?_⟩
  obtain ⟨destination, -, rfl⟩ := List.mem_map.1 listed
  have front : Text.Unbroken ("  -> ".toList ++ Text.writeNat destination ++ [':', ' ', '{']) :=
    .append (.append (by decide) (.writeNat destination)) (by decide)
  exact (front.append (.join_map_writeNat _)).append (by decide)

theorem lines_stateText (r : Router) (node : ℕ) :
    Text.lines (r.stateText node).toList = r.stateLines node := by
  rw [stateText_eq_flatMap, String.toList_ofList]
  refine Text.lined_iff.1 (Text.lined_flatMap ?_ ?_)
  · exact fun line listed present => (unbroken_stateLines r node line listed _ present).1 rfl
  · exact fun line listed last =>
      (unbroken_stateLines r node line listed _ (List.mem_of_getLast? last)).2 rfl

theorem head?_of_mem_stateLines {r : Router} {node : ℕ} {line : List Char}
    (listed : line ∈ r.stateLines node) : line.head? = some 'E' ∨ line.head? = some ' ' := by
  cases List.mem_cons.1 listed with
  | inl heading => exact Or.inl (heading ▸ rfl)
  | inr body =>
    obtain ⟨destination, -, rfl⟩ := List.mem_map.1 body
    exact Or.inr rfl

/-! ## 2. States that are shown alike -/

variable {a b : Router} {node other : ℕ}

theorem stateBody_inj {destination : ℕ} :
    a.stateBody node destination = b.stateBody other destination ↔
      a.nextHops.get node destination = b.nextHops.get other destination := by
  have apart {hops : List ℕ} : ∀ piece ∈ hops.map Text.writeNat, piece ≠ [] ∧ ',' ∉ piece := by
    intro piece listed
    obtain ⟨value, -, rfl⟩ := List.mem_map.1 listed
    exact ⟨Text.writeNat_ne_nil value, fun present =>
      absurd (Text.isDigit_of_mem_writeNat present) (by decide)⟩
  unfold stateBody
  rw [List.append_left_inj, List.append_right_inj, Text.join_inj apart apart,
    (List.map_injective_iff.2 Text.writeNat_injective).eq_iff]

theorem stateLines_inj : a.stateLines node = b.stateLines other ↔
    node = other ∧ a.size = b.size ∧ ∀ destination < a.size,
      a.nextHops.get node destination = b.nextHops.get other destination := by
  unfold stateLines
  rw [List.cons.injEq, List.append_right_inj, Text.writeNat_injective.eq_iff]
  refine and_congr_right fun _ => ?_
  constructor
  · intro same
    have size : a.size = b.size := by simpa using congrArg List.length same
    rw [← size, List.map_inj_left] at same
    exact ⟨size, fun destination inRange =>
      stateBody_inj.1 (same destination (List.mem_range.2 inRange))⟩
  · rintro ⟨size, same⟩
    rw [← size, List.map_inj_left]
    exact fun destination listed => stateBody_inj.2 (same destination (List.mem_range.1 listed))

theorem stateText_eq_iff : a.stateText node = b.stateText other ↔
    node = other ∧ a.size = b.size ∧ ∀ destination < a.size,
      a.nextHops.get node destination = b.nextHops.get other destination := by
  rw [← stateLines_inj]
  constructor
  · intro same
    rw [← lines_stateText, same, lines_stateText]
  · intro same
    rw [stateText_eq_flatMap, same, stateText_eq_flatMap]

/-! ## 3. Tables -/

/-- The states of all nodes, in the order of the nodes. -/
def stateTexts (r : Router) : List String := (List.range r.size).map r.stateText

theorem nextHops_of_withLinks {t : Topology} {links : LinkTable} {config : Config}
    (built : withLinks t links config = .ok a) :
    a.nextHops.size = a.size ∧ a.nextHops.Square := by
  obtain ⟨nextHops, interfaces, listed, -, rfl⟩ := withLinks_eq_ok_iff.1 built
  obtain ⟨d, -, rfl⟩ := NextHops.ofGraph_eq_ok_iff.1 listed
  exact ⟨NextHops.size_fill t.graph d, (NextHops.grown_fill t.graph d).square⟩

theorem nextHops_eq_iff_stateTexts {t u : Topology} {links linksOther : LinkTable}
    {config configOther : Config} (built : withLinks t links config = .ok a)
    (builtOther : withLinks u linksOther configOther = .ok b) :
    a.nextHops = b.nextHops ↔ a.stateTexts = b.stateTexts := by
  obtain ⟨size, square⟩ := nextHops_of_withLinks built
  obtain ⟨sizeOther, squareOther⟩ := nextHops_of_withLinks builtOther
  unfold stateTexts
  constructor
  · intro same
    have sizes : a.size = b.size := by rw [← size, ← sizeOther, same]
    rw [← sizes, List.map_inj_left]
    intro node _
    rw [stateText_eq_iff, same]
    exact ⟨rfl, sizes, fun _ _ => rfl⟩
  · intro same
    have sizes : a.size = b.size := by simpa using congrArg List.length same
    rw [← sizes, List.map_inj_left] at same
    refine NextHops.ext_get square squareOther (by rw [size, sizeOther, sizes]) ?_
    intro node inRange destination inRangeDestination
    rw [size] at inRange inRangeDestination
    exact (stateText_eq_iff.1 (same node (List.mem_range.2 inRange))).2.2 destination
      inRangeDestination

/-- Two shown states are the same text exactly when they are states of the same node, among as many
nodes, with the same next hops in the same order for every destination. So the states of all nodes
have the whole table of next hops in them. -/
theorem stateText_faithful :
    (∀ (a b : Router) (node other : ℕ), a.stateText node = b.stateText other ↔
      node = other ∧ a.size = b.size ∧ ∀ destination < a.size,
        a.nextHops.get node destination = b.nextHops.get other destination) ∧
    ∀ (a b : Router) (t u : Topology) (links linksOther : LinkTable) (config configOther : Config),
      withLinks t links config = .ok a → withLinks u linksOther configOther = .ok b →
        (a.nextHops = b.nextHops ↔ a.stateTexts = b.stateTexts) :=
  ⟨fun _ _ _ _ => stateText_eq_iff, fun _ _ _ _ _ _ _ _ built builtOther =>
    nextHops_eq_iff_stateTexts built builtOther⟩

theorem exists_withLinks_of_table {t : Topology} {config : Config} {nextHops : NextHops}
    (few : t.edgeCount ≤ 16121856) (listed : NextHops.ofGraph t.graph config = .ok nextHops) :
    ∃ links r, withLinks t links config = .ok r ∧ r.nextHops = nextHops := by
  obtain ⟨links, installed⟩ := LinkTable.install_eq_ok_iff.2 few
  obtain ⟨interfaces, paired⟩ := @Interfaces.exists_ofPairs t.graph t.graph links installed rfl
  exact ⟨links, _, withLinks_eq_ok_iff.2 ⟨nextHops, interfaces, listed, paired, rfl⟩, rfl⟩

/-- The ring is shown alike under every seed, and otherwise once an edge of it is moved. Nodes that
are not in the ring have no next hops, and still their states differ. -/
theorem ring_states : ∃ a b moved links linksAgain linksMoved,
    withLinks .ring links {} = .ok a ∧ withLinks .ring linksAgain ⟨5, 3, 77⟩ = .ok b ∧
    withLinks NextHops.movedRing linksMoved {} = .ok moved ∧
    a.stateTexts = b.stateTexts ∧ a.stateTexts ≠ moved.stateTexts ∧
    a.stateText 7 ≠ a.stateText 8 := by
  have listed : NextHops.ofGraph Topology.ring.graph {} = .ok NextHops.ringTable := by
    decide +kernel
  have listedAgain : NextHops.ofGraph Topology.ring.graph ⟨5, 3, 77⟩ = .ok NextHops.ringTable := by
    decide +kernel
  have listedMoved :
      NextHops.ofGraph NextHops.movedRing.graph {} = .ok NextHops.movedRingTable := by
    decide +kernel
  obtain ⟨links, a, built, table⟩ := exists_withLinks_of_table (by decide) listed
  obtain ⟨linksAgain, b, builtAgain, tableAgain⟩ :=
    exists_withLinks_of_table (by decide) listedAgain
  obtain ⟨linksMoved, moved, builtMoved, tableMoved⟩ :=
    exists_withLinks_of_table (by decide) listedMoved
  refine ⟨a, b, moved, links, linksAgain, linksMoved, built, builtAgain, builtMoved, ?_, ?_, ?_⟩
  · exact (stateText_faithful.2 _ _ _ _ _ _ _ _ built builtAgain).1 (table.trans tableAgain.symm)
  · intro same
    have tables := (stateText_faithful.2 _ _ _ _ _ _ _ _ built builtMoved).2 same
    rw [table, tableMoved] at tables
    exact absurd tables (by decide)
  · exact fun same => absurd ((stateText_faithful.1 a a 7 8).1 same).1 (by decide)

end Router

end Multipath
