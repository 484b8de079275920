import Multipath.Proofs.Checked
import Multipath.Proofs.Text.Lined
import Multipath.Proofs.Text.Trimmed
import Multipath.Topology.Properties

/-!
# Lines of key-value files

A line that is neither blank nor a comment has to have exactly one equals sign. It is trimmed before
it is cut there and its two pieces are trimmed again, which `Assigns` does not mention: the outer
trimming changes nothing. Blanks inside quotes survive because quotes are dropped last.

Results:
1. `ofChars_eq_entry_iff`, `ofChars_eq_illFormed_iff`: what a line assigns, from its characters.
2. `foldlM_readLine_eq_ok_iff`: a file is read when all its lines are well-formed, and then its
   entries are recorded one after the other.
3. `getElem?_foldl_record`: the last entry for a key counts.
4. `ofText_exact`: which texts are read, what is recorded, and what is wrong with other texts.
-/

namespace Multipath

open Text

/-! ## 1. What a line says -/

namespace PropertyLine

/-- The line is neither blank nor a comment. -/
def Speaks (line : List Char) : Prop := trim line ≠ [] ∧ (trim line).head? ≠ some '#'

instance (line : List Char) : Decidable (Speaks line) :=
  inferInstanceAs (Decidable (trim line ≠ [] ∧ (trim line).head? ≠ some '#'))

/-- The line assigns the value to the key. -/
structure Assigns (line : List Char) (key value : String) : Prop where
  speaks : Speaks line
  parts : ∃ before after, (line = before ++ '=' :: after ∧ '=' ∉ before ∧ '=' ∉ after) ∧
    String.ofList (trim before) = key ∧ String.ofList ((trim after).filter (· ≠ '"')) = value

def WellFormed (line : List Char) : Prop := Speaks line → line.count '=' = 1

instance (line : List Char) : Decidable (WellFormed line) :=
  inferInstanceAs (Decidable (Speaks line → line.count '=' = 1))

variable {line before after : List Char} {key value : String}

theorem ofChars_of_not_speaks (quiet : ¬ Speaks line) : ofChars line = .silent := by
  refine if_pos ?_
  by_contra loud
  rw [not_or] at loud
  exact quiet loud

theorem ofChars_of_pieces (speaks : Speaks line) (cut : pieces '=' line = [before, after]) :
    ofChars line = .entry (String.ofList (trim before))
      (String.ofList ((trim after).filter (· ≠ '"'))) := by
  obtain ⟨key, value, cutTrimmed, sameKey, sameValue⟩ := exists_pieces_trim (by decide) cut
  unfold ofChars
  dsimp only
  rw [if_neg (not_or.2 speaks), cutTrimmed]
  dsimp only
  rw [sameKey, sameValue]

theorem ofChars_of_count_ne (speaks : Speaks line) (several : line.count '=' ≠ 1) :
    ofChars line = .illFormed := by
  have solid : isBlank '=' = false := by decide
  unfold ofChars
  dsimp only
  rw [if_neg (not_or.2 speaks)]
  split
  · next key value cut =>
    have once := exists_pair_iff_count.1 ⟨key, value, cut⟩
    rw [count_trim solid] at once
    exact absurd once several
  · rfl

/-- A line is a blank or a comment, an entry, or ill-formed, and it is read as what it is. -/
theorem ofChars_cases (line : List Char) :
    (¬ Speaks line ∧ ofChars line = .silent) ∨
      (∃ before after, Speaks line ∧ pieces '=' line = [before, after] ∧
        ofChars line = .entry (String.ofList (trim before))
          (String.ofList ((trim after).filter (· ≠ '"')))) ∨
      ¬ WellFormed line ∧ ofChars line = .illFormed := by
  by_cases speaks : Speaks line
  · by_cases once : line.count '=' = 1
    · obtain ⟨before, after, cut⟩ := exists_pair_iff_count.2 once
      exact Or.inr (Or.inl ⟨before, after, speaks, cut, ofChars_of_pieces speaks cut⟩)
    · exact Or.inr (Or.inr ⟨fun wellFormed => once (wellFormed speaks),
        ofChars_of_count_ne speaks once⟩)
  · exact Or.inl ⟨speaks, ofChars_of_not_speaks speaks⟩

theorem ofChars_eq_entry_iff : ofChars line = .entry key value ↔ Assigns line key value := by
  constructor
  · intro read
    rcases ofChars_cases line with
      ⟨-, silent⟩ | ⟨before, after, speaks, cut, entry⟩ | ⟨-, illFormed⟩
    · cases silent.symm.trans read
    · cases entry.symm.trans read
      exact ⟨speaks, before, after, pieces_eq_pair_iff.1 cut, rfl, rfl⟩
    · cases illFormed.symm.trans read
  · rintro ⟨speaks, before, after, cut, rfl, rfl⟩
    exact ofChars_of_pieces speaks (pieces_eq_pair_iff.2 cut)

theorem ofChars_eq_illFormed_iff : ofChars line = .illFormed ↔ ¬ WellFormed line := by
  constructor
  · intro read
    rcases ofChars_cases line with ⟨-, silent⟩ | ⟨before, after, -, -, entry⟩ | ⟨illFormed, -⟩
    · cases silent.symm.trans read
    · cases entry.symm.trans read
    · exact illFormed
  · intro illFormed
    unfold WellFormed at illFormed
    rw [Classical.not_imp] at illFormed
    exact ofChars_of_count_ne illFormed.1 illFormed.2

theorem Assigns.wellFormed (assigns : Assigns line key value) : WellFormed line := by
  by_contra illFormed
  cases (ofChars_eq_entry_iff.2 assigns).symm.trans (ofChars_eq_illFormed_iff.2 illFormed)

/-- A line has one key. -/
theorem Assigns.key_eq {other further : String} (assigns : Assigns line key value)
    (assignsOther : Assigns line other further) : key = other := by
  rw [← ofChars_eq_entry_iff] at assigns assignsOther
  cases assigns.symm.trans assignsOther
  rfl

end PropertyLine

/-! ## 2. Reading line by line -/

namespace Properties

open PropertyLine

/-- What is known after a line. -/
def record (known : Properties) (line : List Char) : Properties :=
  match ofChars line with
  | .entry key value => known.insert key value
  | _ => known

/-- The line is ill-formed, and the fault names it. Lines are counted from one, the silent ones
among them, and the line is shown untrimmed. -/
def IllFormedAt (earlier : List (List Char)) (line : List Char) (fault : IllFormedLine) : Prop :=
  ¬ WellFormed line ∧ fault = ⟨earlier.length + 1, String.ofList line⟩

variable {known result : Properties} {line : List Char} {cut : List (List Char)} {number : ℕ}
  {key value : String} {text : String} {fault : IllFormedLine}

theorem readLine_eq_ok_iff :
    readLine known (line, number) = .ok result ↔ WellFormed line ∧ record known line = result := by
  have formed : ofChars line ≠ .illFormed ↔ WellFormed line := by
    rw [Ne, ofChars_eq_illFormed_iff, not_not]
  rw [← formed]
  unfold readLine record
  cases ofChars line with
  | silent => simp
  | entry key value => simp
  | illFormed => simp

theorem readLine_eq_error_iff :
    readLine known (line, number) = .error fault ↔
      ¬ WellFormed line ∧ fault = ⟨number, String.ofList line⟩ := by
  rw [← ofChars_eq_illFormed_iff]
  unfold readLine
  cases ofChars line with
  | silent => simp
  | entry key value => simp
  | illFormed => simp [eq_comm]

theorem foldlM_readLine_eq_ok_iff :
    (cut.zipIdx number).foldlM readLine known = .ok result ↔
      (∀ line ∈ cut, WellFormed line) ∧ cut.foldl record known = result := by
  induction cut generalizing known number with
  | nil =>
    rw [List.zipIdx_nil, List.foldlM_nil, List.foldl_nil]
    exact ⟨fun done => ⟨nofun, Except.ok.inj done⟩, fun done => congrArg Except.ok done.2⟩
  | cons line rest ih =>
    rw [List.zipIdx_cons, List.foldlM_cons, bind_eq_ok_iff, List.forall_mem_cons, List.foldl_cons]
    simp only [readLine_eq_ok_iff, ih]
    constructor
    · rintro ⟨_, ⟨wellFormed, rfl⟩, others, recorded⟩
      exact ⟨⟨wellFormed, others⟩, recorded⟩
    · rintro ⟨⟨wellFormed, others⟩, recorded⟩
      exact ⟨_, ⟨wellFormed, rfl⟩, others, recorded⟩

theorem ofText_eq_ok_iff :
    ofText text = .ok known ↔
      (∀ line ∈ lines text.toList, WellFormed line) ∧
        (lines text.toList).foldl record ∅ = known :=
  foldlM_readLine_eq_ok_iff

/-- The number of the faulty line is one more than that of the lines before it. -/
theorem ofText_eq_error_iff :
    ofText text = .error fault ↔
      FirstBad (∀ line ∈ ·, WellFormed line) IllFormedAt (lines text.toList) fault := by
  unfold ofText
  rw [foldlM_eq_error_iff]
  constructor
  · rintro ⟨numbered, ⟨line, number⟩, later, state, split, looped, failed⟩
    obtain ⟨earlier, rest, cut, rfl, splitRest⟩ := List.zipIdx_eq_append_iff.1 split
    obtain ⟨_, others, rfl, same, -⟩ := List.zipIdx_eq_cons_iff.1 splitRest.symm
    cases same
    obtain ⟨illFormed, rfl⟩ := readLine_eq_error_iff.1 failed
    refine ⟨earlier, line, others, cut, (foldlM_readLine_eq_ok_iff.1 looped).1, illFormed, ?_⟩
    rw [Nat.add_comm]
  · rintro ⟨earlier, line, later, cut, wellFormed, illFormed, rfl⟩
    refine ⟨earlier.zipIdx 1, (line, earlier.length + 1), later.zipIdx (earlier.length + 2), _, ?_,
      foldlM_readLine_eq_ok_iff.2 ⟨wellFormed, rfl⟩, readLine_eq_error_iff.2 ⟨illFormed, rfl⟩⟩
    rw [cut, List.zipIdx_append, List.zipIdx_cons, Nat.add_comm 1]

/-! ## 3. What is recorded -/

/-- Of the lines with this key the last one has this value. -/
def LastAssigns (cut : List (List Char)) (key value : String) : Prop :=
  ∃ earlier line later, cut = earlier ++ line :: later ∧ Assigns line key value ∧
    ∀ other ∈ later, ∀ further, ¬ Assigns other key further

theorem getElem?_record :
    (record known line)[key]? = some value ↔
      Assigns line key value ∨ (∀ other, ¬ Assigns line key other) ∧ known[key]? = some value := by
  simp only [← ofChars_eq_entry_iff]
  unfold record
  cases ofChars line with
  | silent => simp
  | illFormed => simp
  | entry other given =>
    dsimp only
    rw [Std.ExtTreeMap.getElem?_insert]
    by_cases same : other = key
    · subst same
      simp
    · simp [same]

theorem lastAssigns_cons :
    LastAssigns (line :: cut) key value ↔ LastAssigns cut key value ∨
      Assigns line key value ∧ ∀ other ∈ cut, ∀ further, ¬ Assigns other key further := by
  constructor
  · rintro ⟨earlier, last, later, split, assigns, others⟩
    cases earlier with
    | nil =>
      cases split
      exact Or.inr ⟨assigns, others⟩
    | cons first rest =>
      cases split
      exact Or.inl ⟨rest, last, later, rfl, assigns, others⟩
  · rintro (⟨earlier, last, later, rfl, assigns, others⟩ | ⟨assigns, others⟩)
    · exact ⟨line :: earlier, last, later, rfl, assigns, others⟩
    · exact ⟨[], line, cut, rfl, assigns, others⟩

theorem exists_lastAssigns_iff :
    (∃ value, LastAssigns cut key value) ↔ ∃ line ∈ cut, ∃ value, Assigns line key value := by
  constructor
  · rintro ⟨value, earlier, line, later, rfl, assigns, -⟩
    exact ⟨line, List.mem_append_right _ List.mem_cons_self, value, assigns⟩
  · intro said
    induction cut with
    | nil =>
      obtain ⟨line, listed, -⟩ := said
      exact absurd listed List.not_mem_nil
    | cons line rest ih =>
      simp only [lastAssigns_cons]
      by_cases later : ∃ other ∈ rest, ∃ value, Assigns other key value
      · obtain ⟨value, last⟩ := ih later
        exact ⟨value, Or.inl last⟩
      · obtain ⟨_, listed, value, assigns⟩ := said
        have others : ∀ other ∈ rest, ∀ further, ¬ Assigns other key further :=
          fun other inRest further assignsOther => later ⟨other, inRest, further, assignsOther⟩
        cases List.mem_cons.1 listed with
        | inl same => exact ⟨value, Or.inr ⟨same ▸ assigns, others⟩⟩
        | inr inRest => exact absurd assigns (others _ inRest value)

theorem getElem?_foldl_record :
    (cut.foldl record known)[key]? = some value ↔ LastAssigns cut key value ∨
      (∀ line ∈ cut, ∀ other, ¬ Assigns line key other) ∧ known[key]? = some value := by
  induction cut generalizing known with
  | nil =>
    have unsaid : ¬ LastAssigns [] key value := by
      rintro ⟨earlier, line, later, split, -⟩
      exact absurd split (by simp)
    simp [unsaid]
  | cons line rest ih =>
    rw [List.foldl_cons, ih, getElem?_record, lastAssigns_cons, List.forall_mem_cons]
    tauto

theorem getElem?_foldl_record_empty :
    (cut.foldl record ∅)[key]? = some value ↔ LastAssigns cut key value := by
  rw [getElem?_foldl_record]
  simp

/-! ## 4. Whole texts -/

/-- A text is read when each of its lines that is neither blank nor a comment has exactly one equals
sign. Its keys are those of these lines, and the last value for a key is recorded. Otherwise the
first line that is ill-formed is reported, under its number and as it stands in the text. -/
theorem ofText_exact (divided : Lined text.toList cut) :
    ((∃ known, ofText text = .ok known) ↔ ∀ line ∈ cut, Speaks line → line.count '=' = 1) ∧
    (∀ known, ofText text = .ok known →
      (∀ key, key ∈ known ↔ ∃ line ∈ cut, ∃ value, Assigns line key value) ∧
      ∀ key value, known[key]? = some value ↔ LastAssigns cut key value) ∧
    ∀ fault, ofText text = .error fault ↔
      FirstBad (∀ line ∈ ·, WellFormed line) IllFormedAt cut fault := by
  obtain rfl := lined_iff.1 divided
  refine ⟨⟨?_, fun wellFormed => ⟨_, ofText_eq_ok_iff.2 ⟨wellFormed, rfl⟩⟩⟩, ?_,
    fun fault => ofText_eq_error_iff⟩
  · rintro ⟨known, read⟩
    exact (ofText_eq_ok_iff.1 read).1
  · rintro known read
    obtain ⟨-, rfl⟩ := ofText_eq_ok_iff.1 read
    refine ⟨fun key => ?_, fun key value => getElem?_foldl_record_empty⟩
    rw [Std.ExtTreeMap.mem_iff_isSome_getElem?, Option.isSome_iff_exists, ← exists_lastAssigns_iff]
    exact exists_congr fun value => getElem?_foldl_record_empty

/-- Equals signs in a comment, a blank line, both line endings, quotes, and a key given twice. -/
def remarkedText : String :=
  "# limit=3=4\r\n\n \u3000name = \" a \" \nlimit=\"1\"\r\nlimit= 2\"\"0\r"

def remarkedLines : List (List Char) :=
  ["# limit=3=4", "", " \u3000name = \" a \" ", "limit=\"1\"", "limit= 2\"\"0\r"].map String.toList

def brokenText : String := "# limit=3=4\r\n\nname\t=\n limit=\"=\"\r\nlimit"

def brokenLines : List (List Char) :=
  ["# limit=3=4", "", "name\t=", " limit=\"=\"", "limit"].map String.toList

/-- Blanks between the quotes are kept, the comment has no key, and the later limit counts. With
another equals sign in its fourth line the text is refused. -/
theorem remarkedText_recorded : Lined remarkedText.toList remarkedLines ∧
    (∃ known, ofText remarkedText = .ok known ∧ known["name"]? = some " a " ∧
      known["limit"]? = some "20" ∧ "# limit" ∉ known) ∧
    ofText brokenText = .error ⟨4, " limit=\"=\""⟩ := by
  have divided : Lined remarkedText.toList remarkedLines := lined_iff.2 (by decide +kernel)
  have broken : Lined brokenText.toList brokenLines := lined_iff.2 (by decide +kernel)
  obtain ⟨accepted, recorded, -⟩ := ofText_exact divided
  obtain ⟨-, -, refused⟩ := ofText_exact broken
  obtain ⟨known, read⟩ := accepted.2 (by decide +kernel)
  obtain ⟨keys, values⟩ := recorded known read
  refine ⟨divided, ⟨known, read, (values _ _).2 ?_, (values _ _).2 ?_, fun listed => ?_⟩,
    (refused _).2 ⟨brokenLines.take 3, _, _, rfl, by decide +kernel, by decide +kernel, rfl⟩⟩
  · exact getElem?_foldl_record_empty.1 (by decide +kernel)
  · exact getElem?_foldl_record_empty.1 (by decide +kernel)
  · obtain ⟨value, last⟩ := exists_lastAssigns_iff.2 ((keys _).1 listed)
    have unrecorded : (remarkedLines.foldl record ∅)["# limit"]? = none := by decide +kernel
    cases unrecorded.symm.trans (getElem?_foldl_record_empty.2 last)

end Properties

end Multipath
