import Multipath.Proofs.Checked
import Multipath.Proofs.Graph.FarEnds
import Multipath.Proofs.Route.HopDistances

/-!
# Relaxing one array in place

A matrix of distances may be relaxed in the array that it is kept in, cell after cell, so that a
round reads cells which the same round has written. Here every read, every write and every sum of
such loops is checked. They meet no cell that is missing and no sum that leaves 32 bits, and they
end with the cells that `Distances.ofGraph` computes from one stored matrix after the other.

Results:
1. `Holds.write`, `Holds.unique`: the array as a matrix.
2. `drawnInPlace?_eq`: the loops that write the distances along edges.
3. `relaxedInPlace?_eq`: the loops of a round. The way from `k` through `k` is no shorter, so it
   does not matter whether a cell of its row was written before it is read. A cell of its column is
   read once, before anything is written to the row that it stands in.
4. `inPlace?_eq`: all loops.
-/

namespace Multipath.Distances

/-! ## 1. Arrays as matrices -/

/-- A write to a cell that is there. -/
def write? (cells : Array UInt32) (cell : ℕ) (hops : UInt32) : Option (Array UInt32) :=
  if inRange : cell < cells.size then some (cells.set cell hops) else none

/-- The array has the cells of this matrix, row after row. -/
structure Holds (size : ℕ) (hops : ℕ → ℕ → UInt32) (cells : Array UInt32) : Prop where
  sized : cells.size = size * size
  cell : ∀ a < size, ∀ b < size, cells[a * size + b]? = some (hops a b)

section

variable {size : ℕ} {hops : ℕ → ℕ → UInt32} {cells : Array UInt32}

theorem Holds.congr {other : ℕ → ℕ → UInt32} (holds : Holds size hops cells)
    (same : ∀ a < size, ∀ b < size, hops a b = other a b) : Holds size other cells where
  sized := holds.sized
  cell a inRangeA b inRangeB := same a inRangeA b inRangeB ▸ holds.cell a inRangeA b inRangeB

/-- Different rows and columns are at different positions. -/
theorem cell_eq_iff {a b u v : ℕ} (inRangeB : b < size) (inRangeV : v < size) :
    a * size + b = u * size + v ↔ u = a ∧ v = b := by
  constructor
  · intro same
    have row := congrArg (· / size) same
    have column := congrArg (· % size) same
    simp only [Rows.cell_div inRangeB, Rows.cell_div inRangeV, Rows.cell_mod inRangeB,
      Rows.cell_mod inRangeV] at row column
    exact ⟨row.symm, column.symm⟩
  · rintro ⟨rfl, rfl⟩
    rfl

theorem Holds.write (holds : Holds size hops cells) {a b : ℕ} (inRangeA : a < size)
    (inRangeB : b < size) (value : UInt32) :
    ∃ written, write? cells (a * size + b) value = some written ∧
      Holds size (fun u v => if u = a ∧ v = b then value else hops u v) written := by
  have inRange : a * size + b < cells.size := by
    rw [holds.sized]
    exact Rows.cell_lt inRangeA inRangeB
  refine ⟨_, dif_pos inRange, by rw [Array.size_set, holds.sized], fun u inRangeU v inRangeV => ?_⟩
  rw [Array.getElem?_set, holds.cell u inRangeU v inRangeV]
  simp only [cell_eq_iff inRangeB inRangeV]
  split <;> rfl

/-- An array is known by the matrix that it holds. -/
theorem Holds.unique {other : Array UInt32} (holds : Holds size hops cells)
    (holdsOther : Holds size hops other) : cells = other := by
  refine Array.ext (holds.sized.trans holdsOther.sized.symm) fun cell inRange inRangeOther => ?_
  rw [holds.sized] at inRange
  have positive : 0 < size := Nat.pos_of_mul_pos_right (Nat.zero_lt_of_lt inRange)
  have row : cell / size < size := Nat.div_lt_of_lt_mul inRange
  have column : cell % size < size := Nat.mod_lt cell positive
  have position : cell / size * size + cell % size = cell := Nat.div_add_mod' cell size
  have here := holds.cell _ row _ column
  have there := holdsOther.cell _ row _ column
  rw [position] at here there
  rw [← Option.some.injEq, ← Array.getElem?_eq_getElem, ← Array.getElem?_eq_getElem, here, there]

theorem holds_cells (d : Distances) : Holds d.size d.hops d.cells where
  sized := d.size_cells
  cell a inRangeA b inRangeB := by
    have inRange : a * d.size + b < d.cells.size := by
      rw [d.size_cells]
      exact Rows.cell_lt inRangeA inRangeB
    rw [hops_eq_getElem inRange, Array.getElem?_eq_getElem inRange]

end

/-! ## 2. The distances along edges -/

/-- Both directions of an edge get distance one. -/
def drawEdge? (size : ℕ) (cells : Array UInt32) (edge : ℕ × ℕ) : Option (Array UInt32) := do
  let cells ← write? cells (edge.1 * size + edge.2) 1
  write? cells (edge.2 * size + edge.1) 1

/-- Everything is unreachable at first, then every node reaches itself, then the edges follow. -/
def drawnInPlace? (g : Graph) : Option (Array UInt32) := do
  let cells ← (List.range g.size).foldlM (fun cells node => write? cells (node * g.size + node) 0)
    (Array.replicate (g.size * g.size) unreachable)
  g.edges.foldlM (drawEdge? g.size) cells

theorem exists_diagonal (size : ℕ) :
    ∃ cells, (List.range size).foldlM (fun cells node => write? cells (node * size + node) 0)
        (Array.replicate (size * size) unreachable) = some cells ∧
      Holds size (fun a b => if a = b then 0 else unreachable) cells := by
  have blank : Holds size (fun a b => if a = b ∧ a < 0 then 0 else unreachable)
      (Array.replicate (size * size) unreachable) := by
    refine ⟨Array.size_replicate, fun a inRangeA b inRangeB => ?_⟩
    rw [Array.getElem?_replicate, if_pos (Rows.cell_lt inRangeA inRangeB), if_neg]
    exact fun early => Nat.not_lt_zero a early.2
  obtain ⟨cells, written, holds⟩ := exists_foldlM_range (m := Option)
    (fun cells node => write? cells (node * size + node) 0)
    (fun count => Holds size fun a b => if a = b ∧ a < count then 0 else unreachable)
    blank (fun node inRange cells before => by
      obtain ⟨next, written, after⟩ := before.write inRange inRange 0
      refine ⟨next, written, after.congr fun a _ b _ => ?_⟩
      by_cases here : a = node ∧ b = node
      · obtain ⟨rfl, rfl⟩ := here
        simp
      · have earlier : a = b ∧ a < node ↔ a = b ∧ a < node + 1 := by omega
        simp only [here, if_false, earlier])
  refine ⟨cells, written, holds.congr fun a inRangeA b _ => ?_⟩
  simp only [inRangeA, and_true]

theorem exists_drawEdge {size : ℕ} {hops : ℕ → ℕ → UInt32} {cells : Array UInt32}
    (holds : Holds size hops cells) {edge : ℕ × ℕ} (inRange : edge.1 < size ∧ edge.2 < size) :
    ∃ drawn, drawEdge? size cells edge = some drawn ∧
      Holds size (fun a b => if edge = (a, b) ∨ edge = (b, a) then 1 else hops a b) drawn := by
  obtain ⟨half, writtenHalf, holdsHalf⟩ := holds.write inRange.1 inRange.2 1
  obtain ⟨drawn, written, holdsDrawn⟩ := holdsHalf.write inRange.2 inRange.1 1
  refine ⟨drawn, ?_, holdsDrawn.congr fun a _ b _ => ?_⟩
  · rw [drawEdge?, writtenHalf]
    exact written
  · obtain ⟨u, v⟩ := edge
    simp only [Prod.mk.injEq]
    by_cases back : a = v ∧ b = u
    · simp [back]
    · by_cases forth : a = u ∧ b = v
      · simp [forth]
      · have notBack : ¬ (u = b ∧ v = a) := fun same => back ⟨same.2.symm, same.1.symm⟩
        have notForth : ¬ (u = a ∧ v = b) := fun same => forth ⟨same.1.symm, same.2.symm⟩
        simp only [back, forth, notBack, notForth, or_self, if_false]

theorem exists_drawEdges {size : ℕ} {edges : List (ℕ × ℕ)}
    (inRange : ∀ edge ∈ edges, edge.1 < size ∧ edge.2 < size) {hops : ℕ → ℕ → UInt32}
    {cells : Array UInt32} (holds : Holds size hops cells) :
    ∃ drawn, edges.foldlM (drawEdge? size) cells = some drawn ∧
      Holds size (fun a b => if (a, b) ∈ edges ∨ (b, a) ∈ edges then 1 else hops a b) drawn := by
  induction edges generalizing hops cells with
  | nil => exact ⟨cells, rfl, holds.congr fun _ _ _ _ => by simp⟩
  | cons edge rest ih =>
    rw [List.forall_mem_cons] at inRange
    obtain ⟨next, drawn, holdsNext⟩ := exists_drawEdge holds inRange.1
    obtain ⟨last, drawnRest, holdsLast⟩ := ih inRange.2 holdsNext
    refine ⟨last, ?_, holdsLast.congr fun a _ b _ => ?_⟩
    · rw [List.foldlM_cons, drawn]
      exact drawnRest
    · simp only [List.mem_cons, eq_comm (b := edge)]
      by_cases later : (a, b) ∈ rest ∨ (b, a) ∈ rest
      · rw [if_pos later, if_pos]
        exact later.imp Or.inr Or.inr
      · rw [if_neg later]
        rw [not_or] at later
        simp only [later, or_false]

theorem drawnInPlace?_eq (g : Graph) : drawnInPlace? g = some (direct g).cells := by
  obtain ⟨diagonal, written, holds⟩ := exists_diagonal g.size
  obtain ⟨cells, drawn, holdsDrawn⟩ :=
    exists_drawEdges (fun edge listed => Graph.lt_size_of_mem_edges listed) holds
  have same : Holds g.size (direct g).hops cells := by
    refine holdsDrawn.congr fun a inRangeA b inRangeB => ?_
    rw [hops_direct inRangeA inRangeB]
    have listed : ((a, b) ∈ g.edges ∨ (b, a) ∈ g.edges) ↔ g.hasEdge a b = true :=
      Graph.adj_simple.trans Graph.hasEdge_iff.symm
    simp only [listed]
    by_cases itself : a = b
    · subst itself
      simp [g.hasEdge_self]
    · simp only [itself, if_false]
  rw [drawnInPlace?, written, ← same.unique (holds_cells (direct g))]
  exact drawn

/-! ## 3. Rounds -/

/-- The sum of two hop counts that fits 32 bits. -/
def sum? (first second : UInt32) : Option UInt32 :=
  if first.toNat + second.toNat < UInt32.size then some (first + second) else none

/-- The way of a node through `k` to another one, where `first` is the distance to `k`. -/
def relaxCell? (size k node : ℕ) (first : UInt32) (cells : Array UInt32) (other : ℕ) :
    Option (Array UInt32) := do
  let second ← cells[k * size + other]?
  if second = unreachable then return cells
  let way ← sum? first second
  let direct ← cells[node * size + other]?
  if way < direct then write? cells (node * size + other) way else return cells

/-- A row that does not reach `k` is left out. -/
def relaxRow? (size k : ℕ) (cells : Array UInt32) (node : ℕ) : Option (Array UInt32) := do
  let first ← cells[node * size + k]?
  if first = unreachable then return cells
  (List.range size).foldlM (relaxCell? size k node first) cells

def relaxedInPlace? (size : ℕ) (cells : Array UInt32) (k : ℕ) : Option (Array UInt32) :=
  (List.range size).foldlM (relaxRow? size k) cells

/-- The array in the middle of round `k`: the rows before `row` are done, and of `row` itself the
columns before `column`. -/
def Partly (d : Distances) (k row column : ℕ) : Array UInt32 → Prop :=
  Holds d.size fun a b =>
    if a < row ∨ a = row ∧ b < column then (d.relaxThrough k).hops a b else d.hops a b

section

variable {g : Graph} {d : Distances} {k : ℕ}

theorem Settled.hops_self (settled : Settled g k d) (inRange : k < g.size) : d.hops k k = 0 := by
  have nothing := settled.hops k inRange k inRange
  rw [Graph.distBelow_self] at nothing
  have finite : d.hops k k ≠ unreachable := fun same => by
    rw [same, hopCount_unreachable] at nothing
    exact ENat.top_ne_zero nothing
  rw [hopCount_of_ne finite, Nat.cast_eq_zero] at nothing
  exact UInt32.toNat_inj.1 nothing

/-- The way from `k` through `k` itself is no shorter. -/
theorem shorter_zero_left (hops : UInt32) : shorter hops 0 hops = hops := by
  unfold shorter
  split
  · rfl
  · rw [UInt32.zero_add, if_neg (UInt32.lt_irrefl hops)]

/-- The row of `k` is the same before and after its round. -/
theorem hops_relaxThrough_row (settled : Settled g k d) (inRange : k < g.size) {b : ℕ}
    (inRangeB : b < d.size) : (d.relaxThrough k).hops k b = d.hops k b := by
  rw [hops_relaxThrough (settled.size ▸ inRange) inRangeB, settled.hops_self inRange,
    shorter_zero_left]

/-- A step reads the cells of the row and the column of `k` as they were before the round. -/
theorem exists_relaxCell (settled : Settled g k d) (fit : g.PathsFit) (inRange : k < g.size)
    {row column : ℕ} (inRangeRow : row < d.size) (inRangeColumn : column < d.size)
    (finite : d.hops row k ≠ unreachable) {cells : Array UInt32}
    (partly : Partly d k row column cells) :
    ∃ relaxed, relaxCell? d.size k row (d.hops row k) cells column = some relaxed ∧
      Partly d k row (column + 1) relaxed := by
  have inRangeK : k < d.size := settled.size ▸ inRange
  have second : cells[k * d.size + column]? = some (d.hops k column) := by
    rw [partly.cell k inRangeK column inRangeColumn]
    split
    · rw [hops_relaxThrough_row settled inRange inRangeColumn]
    · rfl
  have direct : cells[row * d.size + column]? = some (d.hops row column) := by
    rw [partly.cell row inRangeRow column inRangeColumn, if_neg (by omega)]
  have relaxed := hops_relaxThrough (k := k) inRangeRow inRangeColumn
  -- the cells that are done, with one more of them
  have grown : ∀ {after : Array UInt32}, Holds d.size (fun a b => if a = row ∧ b = column then
      (d.relaxThrough k).hops row column else if a < row ∨ a = row ∧ b < column then
        (d.relaxThrough k).hops a b else d.hops a b) after → Partly d k row (column + 1) after := by
    intro after holds
    refine holds.congr fun a _ b _ => ?_
    by_cases here : a = row ∧ b = column
    · obtain ⟨rfl, rfl⟩ := here
      simp
    · have earlier : (a < row ∨ a = row ∧ b < column) ↔ (a < row ∨ a = row ∧ b < column + 1) := by
        omega
      simp only [here, if_false, earlier]
  have kept : (d.relaxThrough k).hops row column = d.hops row column →
      Partly d k row (column + 1) cells := by
    intro same
    refine grown (partly.congr fun a _ b _ => ?_)
    by_cases here : a = row ∧ b = column
    · obtain ⟨rfl, rfl⟩ := here
      simp [same]
    · simp only [here, if_false]
  unfold relaxCell?
  rw [second, direct]
  by_cases missing : d.hops k column = unreachable
  · refine ⟨cells, by simp [missing], kept ?_⟩
    rw [relaxed, shorter, if_pos (Or.inr missing)]
  · have sum := toNat_add_of_fit (settled.fit fit (settled.size ▸ inRangeRow) inRange)
      (settled.fit fit inRange (settled.size ▸ inRangeColumn)) finite missing
    have bounded : (d.hops row k).toNat + (d.hops k column).toNat < UInt32.size :=
      sum ▸ UInt32.toNat_lt _
    by_cases smaller : d.hops row k + d.hops k column < d.hops row column
    · obtain ⟨written, wrote, holds⟩ := Holds.write partly inRangeRow inRangeColumn
        (d.hops row k + d.hops k column)
      refine ⟨written, by simp [missing, sum?, bounded, smaller, wrote], grown ?_⟩
      rw [relaxed, shorter, if_neg (not_or.2 ⟨finite, missing⟩), if_pos smaller]
      exact holds
    · refine ⟨cells, by simp [missing, sum?, bounded, smaller], kept ?_⟩
      rw [relaxed, shorter, if_neg (not_or.2 ⟨finite, missing⟩), if_neg smaller]

theorem exists_relaxRow (settled : Settled g k d) (fit : g.PathsFit) (inRange : k < g.size)
    {row : ℕ} (inRangeRow : row < d.size) {cells : Array UInt32} (partly : Partly d k row 0 cells) :
    ∃ relaxed, relaxRow? d.size k cells row = some relaxed ∧ Partly d k (row + 1) 0 relaxed := by
  have inRangeK : k < d.size := settled.size ▸ inRange
  have first : cells[row * d.size + k]? = some (d.hops row k) := by
    rw [partly.cell row inRangeRow k inRangeK, if_neg (by omega)]
  have done : ∀ {after : Array UInt32}, Partly d k row d.size after →
      Partly d k (row + 1) 0 after := by
    refine fun holds => holds.congr fun a _ b inRangeB => ?_
    have earlier : (a < row ∨ a = row ∧ b < d.size) ↔ (a < row + 1 ∨ a = row + 1 ∧ b < 0) := by
      omega
    simp only [earlier]
  unfold relaxRow?
  rw [first]
  by_cases missing : d.hops row k = unreachable
  · refine ⟨cells, by simp [missing], done (partly.congr fun a inRangeA b inRangeB => ?_)⟩
    by_cases here : a = row
    · subst here
      rw [hops_relaxThrough inRangeA inRangeB, shorter, if_pos (Or.inl missing)]
      simp
    · simp [here]
  · obtain ⟨relaxed, looped, holds⟩ := exists_foldlM_range (m := Option)
      (relaxCell? d.size k row (d.hops row k)) (Partly d k row) partly
      fun column inRangeColumn _ before =>
        exists_relaxCell settled fit inRange inRangeRow inRangeColumn missing before
    exact ⟨relaxed, by simpa [missing] using looped, done holds⟩

/-- A round in place ends where a round over the stored matrix ends. -/
theorem relaxedInPlace?_eq (settled : Settled g k d) (fit : g.PathsFit) (inRange : k < g.size) :
    relaxedInPlace? d.size d.cells k = some (d.relaxThrough k).cells := by
  have before : Partly d k 0 0 d.cells := (holds_cells d).congr fun a _ b _ => by simp
  obtain ⟨relaxed, looped, after⟩ := exists_foldlM_range (m := Option)
    (relaxRow? d.size k) (fun row => Partly d k row 0) before
    fun row inRangeRow _ partly => exists_relaxRow settled fit inRange inRangeRow partly
  have same : Holds d.size (d.relaxThrough k).hops relaxed :=
    after.congr fun a inRangeA b _ => by simp [inRangeA]
  rw [relaxedInPlace?, looped]
  exact congrArg some (same.unique (holds_cells (d.relaxThrough k)))

end

/-! ## 4. The whole computation -/

/-- All distances of a graph, computed in one array. -/
def inPlace? (g : Graph) : Option (Array UInt32) := do
  let cells ← drawnInPlace? g
  (List.range g.size).foldlM (relaxedInPlace? g.size) cells

/-- The array and the stored matrix go through the rounds side by side. -/
theorem inPlace?_eq {g : Graph} {config : Config} {d : Distances} (fit : g.PathsFit)
    (computed : ofGraph g config = .ok d) : inPlace? g = some d.cells := by
  obtain ⟨-, rfl⟩ := ofGraph_eq_ok_iff.1 computed
  have initial : (direct g).cells = (afterRounds g 0).cells := rfl
  obtain ⟨cells, looped, same⟩ := exists_foldlM_range (m := Option) (relaxedInPlace? g.size)
    (fun k cells => cells = (afterRounds g k).cells) initial
    fun k inRange cells same => by
      subst same
      have settled := settled_afterRounds fit inRange.le
      rw [afterRounds_succ]
      exact ⟨_, settled.size ▸ relaxedInPlace?_eq settled fit inRange, rfl⟩
  rw [inPlace?, drawnInPlace?_eq, ← same]
  exact looped

theorem exists_inPlace? {g : Graph} (fit : g.PathsFit) : ∃ cells, inPlace? g = some cells := by
  have allowed : g.size ≤ ({ maxNodes := g.size } : Config).maxNodes := le_rfl
  obtain ⟨d, computed, -⟩ := ofGraph_eq_ok fit allowed
  exact ⟨d.cells, inPlace?_eq fit computed⟩

end Multipath.Distances
