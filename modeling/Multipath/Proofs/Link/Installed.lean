import Multipath.Link.Table
import Multipath.Proofs.Graph.FarEnds

/-!
# Installed links

A link table follows the edge list of its graph. `Link.Between` names the two ends of a link
with either one as the near end, so that one statement covers both directions of a link.

Results:
1. `map_ends_of_install`, `interface_ne_zero_of_install`: the links are the edges, in order, and
   no link has the loopback as an interface.
2. `install_eq_ok_iff`: the networks suffice for 16,121,856 links and no more.
3. `filter_joins_eq_singleton`: two nodes are joined by one link at most.
-/

namespace Multipath

namespace Link

/-- The nodes that a link joins, as the edge that it was installed for. -/
def ends (link : Link) : ℕ × ℕ := (link.lower.node, link.upper.node)

def linkEnds (link : Link) : List LinkEnd := [link.lower, link.upper]

theorem flatMap_linkEnds_cons (link : Link) (others : List Link) :
    (link :: others).flatMap linkEnds =
      link.lower :: link.upper :: others.flatMap linkEnds := rfl

/-- The ends of a link, seen from one of them. -/
def Between (link : Link) (near far : LinkEnd) : Prop :=
  near = link.lower ∧ far = link.upper ∨ near = link.upper ∧ far = link.lower

theorem Between.symm {link : Link} {near far : LinkEnd} (between : link.Between near far) :
    link.Between far near :=
  (Or.symm between).imp And.symm And.symm

/-- The link joins these two nodes. -/
def Joins (link : Link) (u v : ℕ) : Prop := link.ends = (u, v) ∨ link.ends = (v, u)

instance (link : Link) (u v : ℕ) : Decidable (link.Joins u v) :=
  inferInstanceAs (Decidable (link.ends = (u, v) ∨ link.ends = (v, u)))

theorem joins_iff {link : Link} {u v : ℕ} :
    link.Joins u v ↔ ∃ near far, link.Between near far ∧ near.node = u ∧ far.node = v := by
  unfold Joins Between ends
  simp only [Prod.mk.injEq]
  constructor
  · rintro (⟨atLower, atUpper⟩ | ⟨atLower, atUpper⟩)
    · exact ⟨link.lower, link.upper, Or.inl ⟨rfl, rfl⟩, atLower, atUpper⟩
    · exact ⟨link.upper, link.lower, Or.inr ⟨rfl, rfl⟩, atUpper, atLower⟩
  · rintro ⟨near, far, ⟨rfl, rfl⟩ | ⟨rfl, rfl⟩, rfl, rfl⟩
    · exact Or.inl ⟨rfl, rfl⟩
    · exact Or.inr ⟨rfl, rfl⟩

/-- A node is at one end of a link only, unless the link leads back to it. -/
theorem eq_of_between {link : Link} {near far nearOther farOther : LinkEnd}
    (betweenOther : link.Between nearOther farOther) (between : link.Between near far)
    (same : nearOther.node = near.node) (apart : near.node ≠ far.node) : nearOther = near := by
  rcases between with ⟨rfl, rfl⟩ | ⟨rfl, rfl⟩ <;>
    rcases betweenOther with ⟨rfl, rfl⟩ | ⟨rfl, rfl⟩
  · rfl
  · exact absurd same.symm apart
  · exact absurd same.symm apart
  · rfl

end Link

namespace LinkTable

/-! ## 1. Links and edges -/

/-- The interfaces of each node, counted with those of one more edge. -/
def counted (used : Array ℕ) (edge : ℕ × ℕ) : Array ℕ :=
  (used.modify edge.1 (· + 1)).modify edge.2 (· + 1)

theorem size_counted (used : Array ℕ) (edge : ℕ × ℕ) : (counted used edge).size = used.size := by
  rw [counted, Array.size_modify, Array.size_modify]

theorem getD_counted {used : Array ℕ} {edge : ℕ × ℕ} (ascending : edge.1 < edge.2)
    (inRange : edge.2 < used.size) (node : ℕ) :
    (counted used edge)[node]?.getD 0 =
      used[node]?.getD 0 + if node = edge.1 ∨ node = edge.2 then 1 else 0 := by
  have apart : edge.1 ≠ edge.2 := Nat.ne_of_lt ascending
  rw [counted, Array.getElem?_modify, Array.getElem?_modify]
  by_cases atLower : node = edge.1
  · subst atLower
    simp [Ne.symm apart, Array.getElem?_eq_getElem (ascending.trans inRange)]
  · by_cases atUpper : node = edge.2
    · subst atUpper
      simp [apart, Array.getElem?_eq_getElem inRange]
    · simp [atLower, atUpper, Ne.symm atLower, Ne.symm atUpper]

theorem installFrom_cons {used : Array ℕ} {id : ℕ} {edge : ℕ × ℕ} {rest : List (ℕ × ℕ)}
    {links : List Link} (installed : installFrom used id (edge :: rest) = .ok links) :
    ∃ hosts others, hosts? id = some hosts ∧
      installFrom (counted used edge) (id + 1) rest = .ok others ∧
      links = {
        id := id
        lower := ⟨edge.1, (counted used edge)[edge.1]?.getD 0, hosts.1⟩
        upper := ⟨edge.2, (counted used edge)[edge.2]?.getD 0, hosts.2⟩ } :: others := by
  rw [installFrom] at installed
  cases found : hosts? id with
  | none => rw [found] at installed; cases installed
  | some hosts =>
    rw [found] at installed
    change (installFrom (counted used edge) (id + 1) rest).map _ = _ at installed
    cases further : installFrom (counted used edge) (id + 1) rest with
    | error fault => rw [further] at installed; cases installed
    | ok others =>
      rw [further] at installed
      cases installed
      exact ⟨hosts, others, rfl, rfl, rfl⟩

theorem map_ends_of_installFrom {edges : List (ℕ × ℕ)} {used : Array ℕ} {id : ℕ}
    {links : List Link} (installed : installFrom used id edges = .ok links) :
    links.map Link.ends = edges := by
  induction edges generalizing used id links with
  | nil =>
    cases installed
    rfl
  | cons edge rest ih =>
    obtain ⟨hosts, others, -, further, rfl⟩ := installFrom_cons installed
    rw [List.map_cons, ih further]
    rfl

/-- An interface is numbered by the count of its node, which later links only find higher. -/
theorem lt_interface_of_installFrom {edges : List (ℕ × ℕ)} {used : Array ℕ} {id : ℕ}
    {links : List Link} (inRange : ∀ edge ∈ edges, edge.1 < edge.2 ∧ edge.2 < used.size)
    (installed : installFrom used id edges = .ok links) :
    ∀ side ∈ links.flatMap Link.linkEnds, used[side.node]?.getD 0 < side.interface := by
  induction edges generalizing used id links with
  | nil =>
    cases installed
    simp
  | cons edge rest ih =>
    obtain ⟨hosts, others, -, further, rfl⟩ := installFrom_cons installed
    rw [List.forall_mem_cons] at inRange
    have count := getD_counted inRange.1.1 inRange.1.2
    have later := ih (by rw [size_counted]; exact inRange.2) further
    rw [Link.flatMap_linkEnds_cons, List.forall_mem_cons, List.forall_mem_cons]
    refine ⟨?_, ?_, fun side listed => ?_⟩
    · dsimp only
      rw [count edge.1, if_pos (Or.inl rfl)]
      exact Nat.lt_succ_self _
    · dsimp only
      rw [count edge.2, if_pos (Or.inr rfl)]
      exact Nat.lt_succ_self _
    · have higher := later side listed
      rw [count] at higher
      exact (Nat.le_add_right _ _).trans_lt higher

variable {g : Graph} {table : LinkTable}

theorem installFrom_of_install (installed : install g = .ok table) :
    installFrom (Array.replicate g.size 0) 0 g.edges = .ok table.links := by
  unfold install at installed
  cases links : installFrom (Array.replicate g.size 0) 0 g.edges with
  | error fault => rw [links] at installed; cases installed
  | ok others => rw [links] at installed; cases installed; rfl

theorem map_ends_of_install (installed : install g = .ok table) :
    table.links.map Link.ends = g.edges :=
  map_ends_of_installFrom (installFrom_of_install installed)

/-- A table has one pair of interfaces for each edge it was installed for. -/
theorem length_interfacePairs (installed : install g = .ok table) :
    table.interfacePairs.length = g.edges.length := by
  rw [← map_ends_of_install installed, List.length_map, interfacePairs, List.length_map]

/-- In a graph's own table the link at the position of an edge is the link for that edge. -/
theorem mem_zip_edges_iff (installed : install g = .ok table) {edge : ℕ × ℕ} {link : Link} :
    (edge, link) ∈ g.edges.zip table.links ↔ link ∈ table.links ∧ link.ends = edge := by
  have paired : g.edges.zip table.links = table.links.map fun own => (own.ends, own) := by
    rw [← map_ends_of_install installed, List.zip_map_left, List.zip, List.zipWith_self,
      List.map_map]
    rfl
  rw [paired, List.mem_map]
  constructor
  · rintro ⟨own, listed, same⟩
    cases same
    exact ⟨listed, rfl⟩
  · rintro ⟨listed, rfl⟩
    exact ⟨link, listed, rfl⟩

/-- Interfaces are counted for every end of an edge. -/
theorem edges_inRange (g : Graph) :
    ∀ edge ∈ g.edges, edge.1 < edge.2 ∧ edge.2 < (Array.replicate g.size 0).size := by
  intro edge listed
  rw [Array.size_replicate]
  exact ⟨Graph.lt_of_mem_edges listed, (Graph.lt_size_of_mem_edges listed).2⟩

theorem interface_ne_zero_of_install (installed : install g = .ok table) :
    ∀ link ∈ table.links, link.lower.interface ≠ 0 ∧ link.upper.interface ≠ 0 := by
  have numbered := lt_interface_of_installFrom (edges_inRange g) (installFrom_of_install installed)
  intro link listed
  have ends : ∀ side ∈ link.linkEnds, side.interface ≠ 0 := fun side atLink =>
    Nat.ne_zero_of_lt (numbered side (List.mem_flatMap.2 ⟨link, listed, atLink⟩))
  exact ⟨ends link.lower (by simp [Link.linkEnds]), ends link.upper (by simp [Link.linkEnds])⟩

/-! ## 2. The address space -/

theorem isSome_hosts?_iff {id : ℕ} : (hosts? id).isSome ↔ id < 16121856 := by
  have bound : baseNetwork + 256 * id + 2 < UInt32.size ↔ id < 16121856 := by
    simp only [baseNetwork, UInt32.size]
    omega
  rw [← bound]
  by_cases fits : baseNetwork + 256 * id + 2 < UInt32.size <;> simp [hosts?, fits]

theorem installFrom_eq_ok_iff {edges : List (ℕ × ℕ)} {used : Array ℕ} {id : ℕ}
    (room : id ≤ 16121856) :
    (∃ links, installFrom used id edges = .ok links) ↔ id + edges.length ≤ 16121856 := by
  induction edges generalizing used id with
  | nil => simpa [installFrom] using room
  | cons edge rest ih =>
    rw [List.length_cons]
    constructor
    · rintro ⟨links, installed⟩
      obtain ⟨hosts, others, found, further, -⟩ := installFrom_cons installed
      have here : id < 16121856 := isSome_hosts?_iff.1 (by rw [found]; rfl)
      have others := (ih here).1 ⟨others, further⟩
      omega
    · intro enough
      have here : id < 16121856 := by omega
      obtain ⟨hosts, found⟩ := Option.isSome_iff_exists.1 (isSome_hosts?_iff.2 here)
      have enoughFurther : id + 1 + rest.length ≤ 16121856 := by omega
      obtain ⟨others, further⟩ :=
        (@ih (counted used edge) (id + 1) (by omega)).2 enoughFurther
      rw [installFrom, found]
      change ∃ links, (installFrom (counted used edge) (id + 1) rest).map _ = .ok links
      rw [further]
      exact ⟨_, rfl⟩

theorem install_eq_ok_iff : (∃ table, install g = .ok table) ↔ g.edges.length ≤ 16121856 := by
  have room := @installFrom_eq_ok_iff g.edges (Array.replicate g.size 0) 0 (Nat.zero_le _)
  rw [Nat.zero_add] at room
  rw [← room]
  constructor
  · rintro ⟨table, installed⟩
    exact ⟨table.links, installFrom_of_install installed⟩
  · rintro ⟨links, installed⟩
    exact ⟨⟨links⟩, by rw [install, installed]; rfl⟩

/-! ## 3. One link for two nodes -/

/-- The links of a table follow distinct edges with ascending ends. -/
structure Simple (table : LinkTable) : Prop where
  nodup : (table.links.map Link.ends).Nodup
  ascending : ∀ edge ∈ table.links.map Link.ends, edge.1 < edge.2

theorem simple_of_install (installed : install g = .ok table) : table.Simple := by
  constructor <;> rw [map_ends_of_install installed]
  · exact g.nodup_edges
  · exact fun _ => Graph.lt_of_mem_edges

theorem Simple.eq_of_ends (simple : table.Simple) {link other : Link} (listed : link ∈ table.links)
    (listedOther : other ∈ table.links) (same : link.ends = other.ends) : link = other :=
  List.inj_on_of_nodup_map simple.nodup listed listedOther same

theorem Simple.eq_of_joins (simple : table.Simple) {link other : Link} {u v : ℕ}
    (listed : link ∈ table.links) (listedOther : other ∈ table.links) (joined : link.Joins u v)
    (joinedOther : other.Joins u v) : link = other := by
  have less := simple.ascending _ (List.mem_map_of_mem listed)
  have lessOther := simple.ascending _ (List.mem_map_of_mem listedOther)
  refine simple.eq_of_ends listed listedOther ?_
  unfold Link.Joins at joined joinedOther
  -- of the two orders in which a link may have its ends, only one ascends
  rcases joined with ends | ends <;> rcases joinedOther with endsOther | endsOther <;>
    rw [ends] at less ⊢ <;> rw [endsOther] at lessOther ⊢ <;> exact absurd lessOther less.asymm

theorem Simple.filter_joins_eq_singleton (simple : table.Simple) {link : Link} {u v : ℕ}
    (listed : link ∈ table.links) (joined : link.Joins u v) :
    table.links.filter (fun other => other.Joins u v) = [link] := by
  have nodup : (table.links.filter fun other => other.Joins u v).Nodup :=
    (List.Nodup.of_map _ simple.nodup).filter _
  rw [← List.perm_singleton, List.perm_ext_iff_of_nodup nodup (List.nodup_singleton _)]
  intro other
  rw [List.mem_filter, List.mem_singleton, decide_eq_true_eq]
  constructor
  · rintro ⟨listedOther, joinedOther⟩
    exact simple.eq_of_joins listedOther listed joinedOther joined
  · rintro rfl
    exact ⟨listed, joined⟩

end LinkTable

end Multipath
