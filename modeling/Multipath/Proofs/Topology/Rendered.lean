import Mathlib.Data.List.Nodup
import Multipath.Proofs.Topology.Files

/-!
# Reading a rendered blueprint

Numbers and edges are rendered without anything that the reader drops, and different ones are
rendered differently. So a rendered list is read back as it is, or refused for an entry that it
has twice, and nothing else can go wrong.

Results:
1. `plain_renderSet`, `plain_renderEdge`: what is rendered is plain.
2. `readSet_renderSet`, `readIdSet_renderSet`, `readEdges_renderSet`: lists.
3. `ofText_render`: whole blueprints.
-/

namespace Multipath.Blueprint

open Text

/-! ## 1. Plain renderings -/

theorem plain_writeNat (value : ℕ) : Plain (writeNat value) := by
  intro c present
  have digit := isDigit_of_mem_writeNat present
  refine ⟨isBlank_of_isDigit digit, ?_, ?_, ?_⟩ <;> rintro rfl <;> exact absurd digit (by decide)

theorem notMem_writeNat {c : Char} (noDigit : c.isDigit = false) (value : ℕ) :
    c ∉ writeNat value := by
  intro present
  rw [isDigit_of_mem_writeNat present] at noDigit
  cases noDigit

theorem plain_renderEdge (edge : ℕ × ℕ) : Plain (renderEdge edge) :=
  (plain_writeNat edge.1).append
    (List.forall_mem_cons.2 ⟨by decide, plain_writeNat edge.2⟩)

theorem comma_notMem_renderEdge (edge : ℕ × ℕ) : ',' ∉ renderEdge edge := by
  unfold renderEdge
  rw [List.mem_append, List.mem_cons, not_or, not_or]
  exact ⟨notMem_writeNat (by decide) _, by decide, notMem_writeNat (by decide) _⟩

/-- An entry of a set that the reader neither cuts nor changes. -/
structure Whole (entry : List Char) : Prop where
  nonempty : entry ≠ []
  plain : Plain entry
  uncut : ',' ∉ entry

theorem whole_writeNat (value : ℕ) : Whole (writeNat value) :=
  ⟨writeNat_ne_nil value, plain_writeNat value, notMem_writeNat (by decide) value⟩

theorem whole_renderEdge (edge : ℕ × ℕ) : Whole (renderEdge edge) :=
  ⟨List.append_ne_nil_of_left_ne_nil (writeNat_ne_nil _) _, plain_renderEdge edge,
    comma_notMem_renderEdge edge⟩

theorem forall_mem_map_whole {α : Type} {write : α → List Char}
    (whole : ∀ item, Whole (write item)) (items : List α) :
    ∀ entry ∈ items.map write, Whole entry :=
  List.forall_mem_map.2 fun item _ => whole item

variable {entries : List (List Char)}

theorem plain_join (whole : ∀ entry ∈ entries, Whole entry) : Plain (join ',' entries) :=
  forall_mem_join (by decide) fun entry listed => (whole entry listed).plain

theorem plain_renderSet (whole : ∀ entry ∈ entries, Whole entry) : Plain (renderSet entries) :=
  (show Plain "set(".toList by decide).append (plain_join whole) |>.append (by decide)

/-! ## 2. Lists -/

/-- The items of a rendered set, if none of them is listed twice. -/
def unlessRepeated {α : Type} [DecidableEq α] (set : List Char) (items : List α) :
    Except BlueprintError (List α) :=
  if items.Nodup then .ok items else .error (.duplicateEntry (String.ofList set))

theorem setBody?_eq_some_iff {text body : List Char} :
    setBody? text = some body ↔ text = "set(".toList ++ body ++ [')'] := by
  unfold setBody?
  split
  · next rest =>
    split
    · next closed =>
      obtain ⟨inner, rfl⟩ := List.getLast?_eq_some_iff.1 closed
      rw [List.dropLast_concat, Option.some.injEq]
      constructor
      · rintro rfl
        rfl
      · intro same
        simpa using same
    · next unclosed =>
      refine iff_of_false nofun fun same => unclosed ?_
      have closed : rest = body ++ [')'] := by simpa using same
      rw [closed, List.getLast?_concat]
  · next other =>
    refine iff_of_false nofun ?_
    rintro rfl
    exact other (body ++ [')']) rfl

theorem setBody?_renderSet (entries : List (List Char)) :
    setBody? (renderSet entries) = some (join ',' entries) :=
  setBody?_eq_some_iff.2 rfl

theorem readSet_renderSet (whole : ∀ entry ∈ entries, Whole entry) :
    readSet (String.ofList (renderSet entries)) =
      (unlessRepeated (renderSet entries) entries).map (·.map String.ofList) := by
  unfold readSet
  simp only [String.toList_ofList, (plain_renderSet whole).trim, setBody?_renderSet,
    (plain_join whole).trim, join_eq_nil_iff fun entry listed => (whole entry listed).nonempty]
  by_cases empty : entries = []
  · subst empty
    rfl
  · have trimmed : entries.map (fun entry => String.ofList (trim entry)) =
        entries.map String.ofList :=
      List.map_congr_left fun entry listed => by rw [(whole entry listed).plain.trim]
    rw [if_neg empty, pieces_join empty fun entry listed => (whole entry listed).uncut, trimmed]
    unfold unlessRepeated
    simp only [List.nodup_map_iff fun _ _ => String.ofList_injective]
    split <;> rfl

/-- A list is read back from its rendering, or refused if an item is listed twice. -/
theorem readSet_mapM_renderSet {α : Type} [DecidableEq α] {write : α → List Char}
    {read : String → Except BlueprintError α} {items : List α}
    (whole : ∀ item, Whole (write item))
    (readsBack : ∀ item ∈ items, read (String.ofList (write item)) = .ok item) :
    (readSet (String.ofList (renderSet (items.map write))) >>= fun entries => entries.mapM read) =
      unlessRepeated (renderSet (items.map write)) items := by
  -- items that are read back differently were written differently
  have apart : (items.map write).Nodup ↔ items.Nodup := by
    refine ⟨List.Nodup.of_map write, List.Nodup.map_on fun item listed other listed' same => ?_⟩
    have readSame := readsBack item listed
    rw [same, readsBack other listed'] at readSame
    exact (Except.ok.inj readSame).symm
  rw [readSet_renderSet (forall_mem_map_whole whole items)]
  unfold unlessRepeated
  simp only [apart]
  split
  · show ((items.map write).map String.ofList).mapM read = _
    rw [List.map_map]
    exact mapM_map_eq_ok readsBack
  · rfl

theorem readInteger_writeNat {value : ℕ} (small : value < Word.wordBound) :
    readInteger (String.ofList (writeNat value)) = .ok value := by
  unfold readInteger readWord?
  rw [String.toList_ofList, (plain_writeNat value).trim, readNat?_writeNat small]

theorem readEdge_renderEdge {edge : ℕ × ℕ}
    (small : edge.1 < Word.wordBound ∧ edge.2 < Word.wordBound) :
    readEdge (String.ofList (renderEdge edge)) = .ok edge := by
  have cut : pieces '-' (renderEdge edge) = [writeNat edge.1, writeNat edge.2] := by
    unfold renderEdge
    rw [pieces_append (notMem_writeNat (by decide) _),
      pieces_of_notMem (notMem_writeNat (by decide) _)]
  unfold readEdge readWord?
  rw [String.toList_ofList, cut]
  simp only [List.map_cons, List.map_nil, (plain_writeNat _).trim, readNat?_writeNat small.1,
    readNat?_writeNat small.2]

theorem readIdSet_renderSet {ids : List ℕ} (small : ∀ id ∈ ids, id < Word.wordBound) :
    readIdSet (String.ofList (renderSet (ids.map writeNat))) =
      unlessRepeated (renderSet (ids.map writeNat)) ids := by
  unfold readIdSet
  rw [← bind_assoc, readSet_mapM_renderSet whole_writeNat fun id listed =>
    readInteger_writeNat (small id listed)]
  unfold unlessRepeated
  split
  · next distinct => exact if_pos distinct
  · rfl

theorem readEdges_renderSet {edges : List (ℕ × ℕ)}
    (small : ∀ edge ∈ edges, edge.1 < Word.wordBound ∧ edge.2 < Word.wordBound) :
    readEdges (String.ofList (renderSet (edges.map renderEdge))) =
      unlessRepeated (renderSet (edges.map renderEdge)) edges :=
  readSet_mapM_renderSet whole_renderEdge fun edge listed => readEdge_renderEdge (small edge listed)

/-! ## 3. Blueprints -/

/-- All numbers of a blueprint have 64 bits. -/
structure FitsWords (b : Blueprint) : Prop where
  nodeCount : b.nodeCount < Word.wordBound
  edgeCount : b.edgeCount < Word.wordBound
  switches : ∀ id ∈ b.switches, id < Word.wordBound
  tors : ∀ id ∈ b.tors, id < Word.wordBound
  servers : ∀ id ∈ b.servers, id < Word.wordBound
  edges : ∀ edge ∈ b.edges, edge.1 < Word.wordBound ∧ edge.2 < Word.wordBound

/-- No list has an item twice. An edge and its reverse are two items. -/
structure Distinct (b : Blueprint) : Prop where
  switches : b.switches.Nodup
  tors : b.tors.Nodup
  servers : b.servers.Nodup
  edges : b.edges.Nodup

variable {b : Blueprint}

/-- The rendered lists, in the order in which they are read. -/
def renderedLists (b : Blueprint) : List (List (List Char)) :=
  [b.edges.map renderEdge, b.switches.map writeNat, b.tors.map writeNat, b.servers.map writeNat]

/-- Keys and values of a rendered blueprint. -/
def renderedEntries (b : Blueprint) : List (String × List Char) :=
  [("num_nodes", writeNat b.nodeCount),
    ("num_undirected_edges", writeNat b.edgeCount),
    ("switches", renderSet (b.switches.map writeNat)),
    ("switches_which_are_tors", renderSet (b.tors.map writeNat)),
    ("servers", renderSet (b.servers.map writeNat)),
    ("undirected_edges", renderSet (b.edges.map renderEdge))]

theorem render_eq_renderEntries (b : Blueprint) :
    b.render = String.ofList (Properties.renderEntries b.renderedEntries) := by
  unfold render Properties.renderEntries renderedEntries
  simp only [List.flatMap_cons, List.flatMap_nil, List.append_nil, List.append_assoc]

theorem plainEntries_renderedEntries (b : Blueprint) :
    Properties.PlainEntries b.renderedEntries := by
  unfold Properties.PlainEntries renderedEntries
  simp only [List.forall_mem_cons, List.not_mem_nil, false_implies, implies_true, and_true]
  have plainIds (ids : List ℕ) : Plain (renderSet (ids.map writeNat)) :=
    plain_renderSet (forall_mem_map_whole whole_writeNat ids)
  have plainEdges : Plain (renderSet (b.edges.map renderEdge)) :=
    plain_renderSet (forall_mem_map_whole whole_renderEdge b.edges)
  exact ⟨⟨by decide, by decide, plain_writeNat _⟩, ⟨by decide, by decide, plain_writeNat _⟩,
    ⟨by decide, by decide, plainIds _⟩, ⟨by decide, by decide, plainIds _⟩,
    ⟨by decide, by decide, plainIds _⟩, ⟨by decide, by decide, plainEdges⟩⟩

theorem nodup_keys_renderedEntries (b : Blueprint) : (b.renderedEntries.map Prod.fst).Nodup := by
  unfold renderedEntries
  simp only [List.map_cons, List.map_nil]
  decide

/-- A rendered file is read, and has the rendered entries. -/
theorem read_render (b : Blueprint) : ∃ known, Properties.read b.render = .ok known ∧
    ∀ entry ∈ b.renderedEntries, known.require entry.1 = .ok (String.ofList entry.2) := by
  refine ⟨Properties.ofEntries b.renderedEntries, ?_, fun _ listed =>
    Properties.require_of_mem (nodup_keys_renderedEntries b) listed⟩
  unfold Properties.read
  rw [mapError_eq_ok_iff, render_eq_renderEntries]
  exact Properties.ofText_renderEntries (plainEntries_renderedEntries b)

/-- Only repetitions are left to be found. -/
theorem ofText_render_eq (fits : b.FitsWords) :
    ofText b.render = do
      let edges ← unlessRepeated (renderSet (b.edges.map renderEdge)) b.edges
      let switches ← unlessRepeated (renderSet (b.switches.map writeNat)) b.switches
      let tors ← unlessRepeated (renderSet (b.tors.map writeNat)) b.tors
      let servers ← unlessRepeated (renderSet (b.servers.map writeNat)) b.servers
      return { b with switches, tors, servers, edges } := by
  obtain ⟨known, read, found⟩ := read_render b
  unfold renderedEntries at found
  simp only [List.forall_mem_cons] at found
  obtain ⟨nodeCount, edgeCount, switches, tors, servers, edges, -⟩ := found
  unfold ofText ofProperties
  simp only [read, edges, nodeCount, edgeCount, switches, tors, servers, ok_bind,
    readEdges_renderSet fits.edges, readInteger_writeNat fits.nodeCount,
    readInteger_writeNat fits.edgeCount, readIdSet_renderSet fits.switches,
    readIdSet_renderSet fits.tors, readIdSet_renderSet fits.servers]

theorem ofText_render_of_distinct (fits : b.FitsWords) (distinct : b.Distinct) :
    ofText b.render = .ok b := by
  rw [ofText_render_eq fits]
  unfold unlessRepeated
  rw [if_pos distinct.edges, if_pos distinct.switches, if_pos distinct.tors,
    if_pos distinct.servers]
  rfl

theorem ofText_render_of_not_distinct (fits : b.FitsWords) (repeats : ¬ b.Distinct) :
    ∃ entries ∈ b.renderedLists, ¬ entries.Nodup ∧
      ofText b.render = .error (.duplicateEntry (String.ofList (renderSet entries))) := by
  unfold renderedLists
  rw [ofText_render_eq fits]
  unfold unlessRepeated
  -- the first list with a repetition, in the order of reading, is the one that is refused
  by_cases edges : b.edges.Nodup
  case neg =>
    refine ⟨b.edges.map renderEdge, by simp, mt (List.Nodup.of_map _) edges, ?_⟩
    rw [if_neg edges]
    rfl
  rw [if_pos edges, ok_bind]
  by_cases switches : b.switches.Nodup
  case neg =>
    refine ⟨b.switches.map writeNat, by simp, mt (List.Nodup.of_map _) switches, ?_⟩
    rw [if_neg switches]
    rfl
  rw [if_pos switches, ok_bind]
  by_cases tors : b.tors.Nodup
  case neg =>
    refine ⟨b.tors.map writeNat, by simp, mt (List.Nodup.of_map _) tors, ?_⟩
    rw [if_neg tors]
    rfl
  rw [if_pos tors, ok_bind]
  by_cases servers : b.servers.Nodup
  case neg =>
    refine ⟨b.servers.map writeNat, by simp, mt (List.Nodup.of_map _) servers, ?_⟩
    rw [if_neg servers]
    rfl
  exact absurd ⟨switches, tors, servers, edges⟩ repeats

/-- A blueprint is read back from its rendering, order and orientation included, exactly when no
list has an item twice. Otherwise such a list is refused, and no other fault is found. -/
theorem ofText_render (fits : b.FitsWords) :
    (ofText b.render = .ok b ↔ b.Distinct) ∧
      (¬ b.Distinct → ∃ entries ∈ b.renderedLists, ¬ entries.Nodup ∧
        ofText b.render = .error (.duplicateEntry (String.ofList (renderSet entries)))) := by
  refine ⟨⟨fun readBack => ?_, ofText_render_of_distinct fits⟩, ofText_render_of_not_distinct fits⟩
  by_contra repeats
  obtain ⟨_, -, -, refused⟩ := ofText_render_of_not_distinct fits repeats
  rw [readBack] at refused
  cases refused

/-- An edge in both directions, an id in two lists and the largest number. -/
def twoWay : Blueprint where
  nodeCount := 18446744073709551615
  edgeCount := 0
  switches := [5, 3]
  tors := []
  servers := [5]
  edges := [(2, 1), (1, 2)]

theorem render_twoWay :
    twoWay.FitsWords ∧ ofText twoWay.render = .ok twoWay ∧
      ∃ entries, ofText { twoWay with servers := [5, 7, 5] }.render =
        .error (.duplicateEntry (String.ofList (renderSet entries))) := by
  have fits : twoWay.FitsWords := by constructor <;> decide
  have fitsRepeated : { twoWay with servers := [5, 7, 5] }.FitsWords := by constructor <;> decide
  have repeats : ¬ { twoWay with servers := [5, 7, 5] }.Distinct := fun distinct =>
    absurd distinct.servers (by decide)
  obtain ⟨entries, -, -, refused⟩ := (ofText_render fitsRepeated).2 repeats
  exact ⟨fits, (ofText_render fits).1.2 (by constructor <;> decide), entries, refused⟩

end Multipath.Blueprint
