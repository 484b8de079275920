import Multipath.Proofs.Graph.FarEnds
import Multipath.Proofs.Route.HopDistances
import Multipath.Route.NextHops

/-!
# What the table of next hops lists

The table is filled edge by edge, and for each edge destination by destination. An edge changes
the lists of its two ends only, so a list collects the far ends of the edges at its node, as far
as they are closer to the destination (`entry_fill`).

Results:
1. `get_fill`: a list is the list of all neighbors, filtered, whatever the distances are.
2. `mem_get_iff`: over the hop distances of the graph it holds the neighbors that are one hop
   closer to the destination.
-/

namespace Multipath.NextHops

/-! ## 1. The lists of the table -/

/-- The list of a node and a destination, without the check of their range. -/
def entry (table : NextHops) (node destination : ℕ) : List ℕ :=
  table.lists[node * table.size + destination]?.getD []

/-- The table has a list for each node and destination. -/
def Square (table : NextHops) : Prop := table.lists.size = table.size * table.size

variable {table : NextHops} {d : Distances} {node destination : ℕ}

theorem square_append (square : table.Square) (next : ℕ) :
    (table.append node destination next).Square := by
  simpa [Square, append] using square

theorem entry_append (square : table.Square) {u t : ℕ} (inRangeU : u < table.size)
    (inRangeT : t < table.size) (inRangeDestination : destination < table.size) (next : ℕ) :
    (table.append node destination next).entry u t =
      table.entry u t ++ if node = u ∧ destination = t then [next] else [] := by
  have inRange : u * table.size + t < table.lists.size := by
    rw [square]
    exact Rows.cell_lt inRangeU inRangeT
  unfold entry append
  simp only [Array.getElem?_modify, Array.getElem?_eq_getElem inRange]
  by_cases here : node = u ∧ destination = t
  · obtain ⟨rfl, rfl⟩ := here
    simp
  · have elsewhere : node * table.size + destination ≠ u * table.size + t := by
      intro same
      apply here
      have row := congrArg (· / table.size) same
      have column := congrArg (· % table.size) same
      simp only [Rows.cell_div inRangeT, Rows.cell_div inRangeDestination,
        Rows.cell_mod inRangeT, Rows.cell_mod inRangeDestination] at row column
      exact ⟨row, column⟩
    simp [here, elsewhere]

/-- What an edge adds to the list of `node` and `destination`. -/
def offered (d : Distances) (destination node : ℕ) (edge : ℕ × ℕ) : List ℕ :=
  (Graph.farEnds node [edge]).filter (isCloser d destination node)

theorem not_isCloser_of_isCloser {a b : ℕ} (closer : isCloser d destination a b = true) :
    isCloser d destination b a = false := by
  simp only [isCloser, Bool.and_eq_true, bne_iff_ne, beq_iff_eq] at closer
  simp only [isCloser, Bool.and_eq_false_iff, beq_eq_false_iff_ne]
  exact Or.inr (by omega)

theorem offered_eq {a b : ℕ} (apart : a ≠ b) :
    offered d destination node (a, b) =
      (if a = node ∧ isCloser d destination a b = true then [b] else []) ++
        if b = node ∧ isCloser d destination b a = true then [a] else [] := by
  unfold offered Graph.farEnds
  by_cases atLow : a = node
  · subst atLow
    by_cases closer : isCloser d destination a b = true <;>
      simp [Graph.farEnd?, closer, Ne.symm apart]
  · by_cases atHigh : b = node
    · subst atHigh
      by_cases back : isCloser d destination b a = true <;> simp [Graph.farEnd?, atLow, back]
    · simp [Graph.farEnd?, atLow, atHigh]

/-- The table with `added u t` appended to the list of each node `u` and destination `t`. -/
structure Grown (table result : NextHops) (added : ℕ → ℕ → List ℕ) : Prop where
  size : result.size = table.size
  square : result.Square
  entry : ∀ u < table.size, ∀ t < table.size, result.entry u t = table.entry u t ++ added u t

theorem Grown.refl (square : table.Square) : Grown table table fun _ _ => [] :=
  ⟨rfl, square, fun _ _ _ _ => (List.append_nil _).symm⟩

theorem Grown.trans {middle result : NextHops} {first second : ℕ → ℕ → List ℕ}
    (grown : Grown table middle first) (further : Grown middle result second) :
    Grown table result fun u t => first u t ++ second u t where
  size := further.size.trans grown.size
  square := further.square
  entry u inRangeU t inRangeT := by
    rw [further.entry u (grown.size ▸ inRangeU) t (grown.size ▸ inRangeT),
      grown.entry u inRangeU t inRangeT, List.append_assoc]

theorem grown_append (square : table.Square) (inRange : destination < table.size) (next : ℕ) :
    Grown table (table.append node destination next)
      fun u t => if node = u ∧ destination = t then [next] else [] where
  size := rfl
  square := square_append square next
  entry _ inRangeU _ inRangeT := entry_append square inRangeU inRangeT inRange next

/-- One edge and one destination: the list of the end that is farther away grows. -/
theorem grown_offer (square : table.Square) {edge : ℕ × ℕ} (ascending : edge.1 < edge.2)
    (inRange : destination < table.size) :
    Grown table (offer d edge table destination)
      fun u t => if destination = t then offered d t u edge else [] := by
  obtain ⟨a, b⟩ := edge
  have apart : a ≠ b := Nat.ne_of_lt ascending
  simp only [offered_eq apart]
  unfold offer
  dsimp only
  split
  · next closer =>
    have notBack := not_isCloser_of_isCloser closer
    convert grown_append square inRange b using 3 with u t
    by_cases here : destination = t
    · subst here
      simp [closer, notBack]
    · simp [here]
  · next notCloser =>
    split
    · next back =>
      convert grown_append square inRange a using 3 with u t
      by_cases here : destination = t
      · subst here
        simp [notCloser, back]
      · simp [here]
    · next notBack =>
      refine ⟨rfl, square, fun u _ t _ => ?_⟩
      by_cases here : destination = t
      · subst here
        simp [notCloser, notBack]
      · simp [here]

/-- One edge: every destination gets its turn once. -/
theorem grown_offers (square : table.Square) {edge : ℕ × ℕ} (ascending : edge.1 < edge.2)
    (count : ℕ) (enough : count ≤ table.size) :
    Grown table ((List.range count).foldl (offer d edge) table)
      fun u t => if t < count then offered d t u edge else [] := by
  induction count with
  | zero => simpa using Grown.refl square
  | succ count ih =>
    rw [List.range_succ, List.foldl_append, List.foldl_cons, List.foldl_nil]
    have before := ih (by omega)
    have inRange : count < ((List.range count).foldl (offer d edge) table).size :=
      before.size ▸ enough
    convert before.trans (grown_offer before.square ascending inRange) using 3 with u t
    rcases Nat.lt_trichotomy t count with below | same | above
    · simp [below, Nat.lt_succ_of_lt below, Nat.ne_of_gt below]
    · simp [same]
    · have past : ¬ t < count + 1 := by omega
      simp [past, Nat.lt_asymm above, Nat.ne_of_lt above]

theorem grown_offerAll (square : table.Square) {edge : ℕ × ℕ} (ascending : edge.1 < edge.2) :
    Grown table (offerAll d table edge)
      fun u t => if t < table.size then offered d t u edge else [] :=
  grown_offers square ascending table.size le_rfl

/-- All edges: a list collects what each edge in turn adds to it. -/
theorem grown_edges {edges : List (ℕ × ℕ)} (ascending : ∀ edge ∈ edges, edge.1 < edge.2)
    (square : table.Square) :
    Grown table (edges.foldl (offerAll d) table) fun u t =>
      if t < table.size then (Graph.farEnds u edges).filter (isCloser d t u) else [] := by
  induction edges generalizing table with
  | nil => simpa [Graph.farEnds] using Grown.refl square
  | cons edge rest ih =>
    have first := grown_offerAll (d := d) square (ascending edge List.mem_cons_self)
    have others := ih (fun other listed => ascending other (List.mem_cons_of_mem _ listed))
      first.square
    rw [List.foldl_cons]
    convert first.trans others using 3 with u t
    rw [first.size]
    split
    · rw [offered, Graph.farEnds, Graph.farEnds, Graph.farEnds, ← List.filter_append,
        ← List.filterMap_append, List.singleton_append]
    · rfl

theorem grown_fill (g : Graph) (d : Distances) :
    Grown (empty g.size) (fill g d) fun u t =>
      if t < g.size then (g.neighbors u).toList.filter (isCloser d t u) else [] := by
  have square : (empty g.size).Square := by simp [Square, empty]
  have ascending : ∀ edge ∈ g.edges, edge.1 < edge.2 := fun _ => Graph.lt_of_mem_edges
  have filled := grown_edges (d := d) ascending square
  simp only [Graph.farEnds_edges] at filled
  exact filled

theorem size_fill (g : Graph) (d : Distances) : (fill g d).size = g.size := (grown_fill g d).size

theorem entry_fill (g : Graph) (d : Distances) {u t : ℕ} (inRangeU : u < g.size)
    (inRangeT : t < g.size) :
    (fill g d).entry u t = (g.neighbors u).toList.filter (isCloser d t u) := by
  have nothing : (empty g.size).entry u t = [] := by
    simp [entry, empty, Rows.cell_lt inRangeU inRangeT]
  rw [(grown_fill g d).entry u inRangeU t inRangeT, nothing, List.nil_append, if_pos inRangeT]

/-- The list for nodes of the graph; for other ids it is empty. -/
theorem get_fill (g : Graph) (d : Distances) (u t : ℕ) :
    (fill g d).get u t =
      if u < g.size ∧ t < g.size then (g.neighbors u).toList.filter (isCloser d t u) else [] := by
  unfold get
  rw [size_fill]
  split
  · next inRange => rw [← entry_fill g d inRange.1 inRange.2, entry, size_fill]
  · rfl

/-- A table is given by its lists for nodes. -/
theorem ext_get {other : NextHops} (square : table.Square) (squareOther : other.Square)
    (size : table.size = other.size) (same : ∀ u < table.size, ∀ t < table.size,
      table.get u t = other.get u t) : table = other := by
  have length : table.lists.size = other.lists.size := by rw [square, squareOther, size]
  have lists : table.lists = other.lists := by
    refine Array.ext length fun cell inRange inRangeOther => ?_
    have inSquare : cell < table.size * table.size := square ▸ inRange
    have nonempty : 0 < table.size := Nat.pos_of_mul_pos_right (Nat.zero_lt_of_lt inSquare)
    have row : cell / table.size < table.size := Nat.div_lt_of_lt_mul inSquare
    have column : cell % table.size < table.size := Nat.mod_lt cell nonempty
    have entries := same _ row _ column
    unfold get at entries
    rw [← size, if_pos ⟨row, column⟩, if_pos ⟨row, column⟩, Nat.div_add_mod',
      Array.getElem?_eq_getElem inRange, Array.getElem?_eq_getElem inRangeOther] at entries
    exact entries
  obtain ⟨n, lists'⟩ := table
  obtain ⟨m, listsOther⟩ := other
  cases size
  cases lists
  rfl

/-! ## 2. The table over the hop distances -/

theorem isCloser_iff {g : Graph} (exactly : Distances.Exact g d) {t u v : ℕ}
    (inRangeU : u < g.size) (inRangeV : v < g.size) (inRangeT : t < g.size) :
    isCloser d t u v = true ↔
      g.simple.Reachable v t ∧ g.simple.edist u t = g.simple.edist v t + 1 := by
  have fromU := exactly.hops u inRangeU t inRangeT
  have fromV := exactly.hops v inRangeV t inRangeT
  simp only [isCloser, Bool.and_eq_true, bne_iff_ne, beq_iff_eq]
  rw [← SimpleGraph.edist_ne_top_iff_reachable, ← fromU, ← fromV]
  constructor
  · rintro ⟨⟨finiteU, finiteV⟩, closer⟩
    rw [hopCount_of_ne finiteU, hopCount_of_ne finiteV, closer]
    exact ⟨ENat.natCast_ne_top _, Nat.cast_succ _⟩
  · rintro ⟨finiteV, closer⟩
    have finiteV' : d.hops v t ≠ unreachable := fun same => finiteV (hopCount_eq_top_iff.2 same)
    rw [hopCount_of_ne finiteV'] at closer
    have finiteU' : d.hops u t ≠ unreachable := fun same => by
      rw [same, hopCount_unreachable] at closer
      exact ENat.natCast_ne_top _ ((Nat.cast_succ _).trans closer.symm)
    rw [hopCount_of_ne finiteU'] at closer
    exact ⟨⟨finiteU', finiteV'⟩, by exact_mod_cast closer⟩

theorem ofGraph_eq_ok_iff {g : Graph} {config : Config} :
    ofGraph g config = .ok table ↔ ∃ d, Distances.ofGraph g config = .ok d ∧ fill g d = table := by
  unfold ofGraph
  cases Distances.ofGraph g config with
  | error fault => exact iff_of_false nofun nofun
  | ok d => simp [Except.map]

/-- A next hop is a neighbor from which the destination is one hop closer. -/
theorem mem_get_iff {g : Graph} {config : Config} (fit : g.PathsFit)
    (built : ofGraph g config = .ok table) {t u v : ℕ} :
    v ∈ table.get u t ↔ g.simple.Adj u v ∧ g.simple.Reachable v t ∧
      g.simple.edist u t = g.simple.edist v t + 1 := by
  obtain ⟨d, computed, rfl⟩ := ofGraph_eq_ok_iff.1 built
  have exactly := Distances.exact_of_ofGraph fit computed
  rw [get_fill, Graph.adj_simple]
  constructor
  · intro listed
    split at listed
    · next inRange =>
      obtain ⟨adjacent, closer⟩ := List.mem_filter.1 listed
      have inRangeV := (Graph.lt_size_of_adj (Graph.adj_simple.2 adjacent)).2
      exact ⟨adjacent, (isCloser_iff exactly inRange.1 inRangeV inRange.2).1 closer⟩
    · cases listed
  · rintro ⟨adjacent, connected, closer⟩
    have inRange := Graph.lt_size_of_adj (Graph.adj_simple.2 adjacent)
    have inRangeT := Graph.lt_size_of_reachable connected inRange.2
    rw [if_pos ⟨inRange.1, inRangeT⟩, List.mem_filter]
    exact ⟨adjacent, (isCloser_iff exactly inRange.1 inRange.2 inRangeT).2 ⟨connected, closer⟩⟩

/-- The next hops are the neighbors in their order, the others left out. -/
theorem get_sublist {g : Graph} {config : Config} (built : ofGraph g config = .ok table) (u t : ℕ) :
    (table.get u t).Sublist (g.neighbors u).toList := by
  obtain ⟨d, -, rfl⟩ := ofGraph_eq_ok_iff.1 built
  rw [get_fill]
  split
  · exact List.filter_sublist
  · exact List.nil_sublist _

end Multipath.NextHops
