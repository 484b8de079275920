import Mathlib.Data.List.TakeWhile
import Multipath.Proofs.Text.Rejoined

/-!
# Trimmed and cut texts

Trimming is done from both ends, one after the other. What comes out is given by its two ends alone:
blanks may have been dropped there, and none is left.

Results:
1. `trim_eq_iff`: what a trimmed text is.
2. `trim_append_blanks`, `Padded.trim_eq`, `count_trim`: blanks around a text do not matter, and
   characters that are no blanks are kept.
3. `pieces_eq_pair_iff`, `exists_pair_iff_count`: a text in two pieces has the separator once.
4. `exists_pieces_trim`: when a text is cut in two and its pieces are trimmed, it does not matter
   whether it was trimmed before.
-/

namespace Multipath.Text

/-! ## 1. Trimmed texts -/

/-- The text consists of blanks. -/
def Blanks (text : List Char) : Prop := ∀ c ∈ text, isBlank c = true

instance (text : List Char) : Decidable (Blanks text) :=
  List.decidableBAll _ text

/-- `core` is the text without the blanks at its ends. -/
structure Trims (text core : List Char) : Prop where
  inside : ∃ before after, text = before ++ core ++ after ∧ Blanks before ∧ Blanks after
  first : ∀ c, core.head? = some c → isBlank c = false
  last : ∀ c, core.getLast? = some c → isBlank c = false

variable {text core before after : List Char}

theorem blanks_nil : Blanks [] := fun _ present => absurd present List.not_mem_nil

theorem trimStart_append (blanks : Blanks before) (text : List Char) :
    trimStart (before ++ text) = trimStart text :=
  List.dropWhile_append_of_pos blanks

theorem trimEnd_append (blanks : Blanks after) (text : List Char) :
    trimEnd (text ++ after) = trimEnd text := by
  have turned : Blanks after.reverse := fun c present => blanks c (List.mem_reverse.1 present)
  unfold trimEnd
  rw [List.reverse_append, List.dropWhile_append_of_pos turned]

theorem isBlank_eq_false_of_head?_dropWhile {c : Char}
    (first : (text.dropWhile isBlank).head? = some c) : isBlank c = false := by
  have kept := List.head?_dropWhile_not isBlank text
  rw [first] at kept
  exact kept

theorem exists_trimStart (text : List Char) :
    ∃ before, text = before ++ trimStart text ∧ Blanks before :=
  ⟨text.takeWhile isBlank, List.takeWhile_append_dropWhile.symm, fun _ => List.mem_takeWhile_imp⟩

theorem exists_trimEnd (text : List Char) :
    ∃ after, text = trimEnd text ++ after ∧ Blanks after := by
  obtain ⟨before, split, blanks⟩ := exists_trimStart text.reverse
  refine ⟨before.reverse, ?_, fun c present => blanks c (List.mem_reverse.1 present)⟩
  rw [trimEnd, ← List.reverse_append]
  exact List.reverse_eq_iff.1 split

theorem trims_trim (text : List Char) : Trims text (trim text) := by
  obtain ⟨before, cutFront, blanksBefore⟩ := exists_trimStart text
  obtain ⟨after, cutBack, blanksAfter⟩ := exists_trimEnd (trimStart text)
  refine ⟨⟨before, after, ?_, blanksBefore, blanksAfter⟩, fun c first => ?_, fun c last => ?_⟩
  · rw [List.append_assoc, trim, ← cutBack, ← cutFront]
  · -- the first character that is left at the end was the first one before
    have front : (trimStart text).head? = some c := by
      rw [cutBack, List.head?_append]
      exact Option.or_eq_some_iff.2 (Or.inl first)
    exact isBlank_eq_false_of_head?_dropWhile front
  · rw [trim, trimEnd, List.getLast?_reverse] at last
    exact isBlank_eq_false_of_head?_dropWhile last

theorem Trims.trim_eq (trims : Trims text core) : trim text = core := by
  obtain ⟨⟨before, after, rfl, blanksBefore, blanksAfter⟩, first, last⟩ := trims
  rw [trim, List.append_assoc, trimStart_append blanksBefore]
  cases core with
  | nil =>
    have nothing : trimStart after = [] := List.dropWhile_eq_nil_iff.2 blanksAfter
    rw [List.nil_append, nothing]
    rfl
  | cons c rest =>
    have started : trimStart (c :: rest ++ after) = c :: rest ++ after :=
      List.dropWhile_cons_of_neg (by simp [first c rfl])
    rw [started, trimEnd_append blanksAfter, trimEnd]
    cases turned : (c :: rest).reverse with
    | nil => exact absurd turned (by simp)
    | cons d others =>
      have ends : (c :: rest).getLast? = some d := by
        rw [← List.head?_reverse, turned, List.head?_cons]
      rw [List.dropWhile_cons_of_neg (by simp [last d ends]), ← turned, List.reverse_reverse]

theorem trim_eq_iff : trim text = core ↔ Trims text core := by
  constructor
  · rintro rfl
    exact trims_trim text
  · exact Trims.trim_eq

theorem trim_eq_self (solid : ∀ c ∈ text, isBlank c = false) : trim text = text := by
  refine trim_eq_iff.2 ⟨⟨[], [], ?_, blanks_nil, blanks_nil⟩, fun c first => ?_, fun c last => ?_⟩
  · rw [List.nil_append, List.append_nil]
  · exact solid c (List.mem_of_head? first)
  · exact solid c (List.mem_of_getLast? last)

theorem trim_trim (text : List Char) : trim (trim text) = trim text := by
  have trims := trims_trim text
  refine trim_eq_iff.2 ⟨⟨[], [], ?_, blanks_nil, blanks_nil⟩, trims.first, trims.last⟩
  rw [List.nil_append, List.append_nil]

theorem mem_of_mem_trim {c : Char} (present : c ∈ trim text) : c ∈ text := by
  obtain ⟨⟨before, after, split, -, -⟩, -, -⟩ := trims_trim text
  rw [split]
  exact List.mem_append_left _ (List.mem_append_right _ present)

theorem trim_eq_nil_iff : trim text = [] ↔ Blanks text := by
  rw [trim_eq_iff]
  constructor
  · rintro ⟨⟨before, after, rfl, blanksBefore, blanksAfter⟩, -, -⟩
    exact List.forall_mem_append.2
      ⟨List.forall_mem_append.2 ⟨blanksBefore, blanks_nil⟩, blanksAfter⟩
  · intro blanks
    exact ⟨⟨text, [], by rw [List.append_nil, List.append_nil], blanks, blanks_nil⟩, nofun, nofun⟩

/-! ## 2. Blanks that do not matter -/

/-- The text is `core` with any blanks around it. -/
def Padded (core text : List Char) : Prop :=
  ∃ before after, text = before ++ core ++ after ∧ Blanks before ∧ Blanks after

theorem Padded.refl (core : List Char) : Padded core core :=
  ⟨[], [], by rw [List.nil_append, List.append_nil], blanks_nil, blanks_nil⟩

/-- Blanks around a text are trimmed away, whatever they are. -/
theorem trim_append_blanks (blanksBefore : Blanks before) (blanksAfter : Blanks after)
    (text : List Char) : trim (before ++ text ++ after) = trim text := by
  obtain ⟨⟨front, back, split, blanksFront, blanksBack⟩, first, last⟩ := trims_trim text
  refine trim_eq_iff.2 ⟨⟨before ++ front, back ++ after, ?_, ?_, ?_⟩, first, last⟩
  · nth_rewrite 1 [split]
    simp only [List.append_assoc]
  · exact List.forall_mem_append.2 ⟨blanksBefore, blanksFront⟩
  · exact List.forall_mem_append.2 ⟨blanksBack, blanksAfter⟩

theorem Padded.trim_eq (padded : Padded core text) : trim text = trim core := by
  obtain ⟨before, after, rfl, blanksBefore, blanksAfter⟩ := padded
  exact trim_append_blanks blanksBefore blanksAfter core

theorem Blanks.notMem {c : Char} (blanks : Blanks text) (solid : isBlank c = false) : c ∉ text :=
  fun present => Bool.false_ne_true (solid.symm.trans (blanks c present))

theorem Padded.notMem {c : Char} (padded : Padded core text) (solid : isBlank c = false)
    (absent : c ∉ core) : c ∉ text := by
  obtain ⟨before, after, rfl, blanksBefore, blanksAfter⟩ := padded
  rw [List.mem_append, List.mem_append, not_or, not_or]
  exact ⟨⟨blanksBefore.notMem solid, absent⟩, blanksAfter.notMem solid⟩

theorem count_trim {c : Char} (solid : isBlank c = false) (text : List Char) :
    (trim text).count c = text.count c := by
  obtain ⟨⟨before, after, split, blanksBefore, blanksAfter⟩, -, -⟩ := trims_trim text
  nth_rewrite 2 [split]
  rw [List.count_append, List.count_append, List.count_eq_zero.2 (blanksBefore.notMem solid),
    List.count_eq_zero.2 (blanksAfter.notMem solid), Nat.zero_add, Nat.add_zero]

/-! ## 3. Two pieces -/

section

variable {separator : Char} {line key value : List Char}

theorem notMem_of_mem_pieces {piece : List Char} (listed : piece ∈ pieces separator text) :
    separator ∉ piece := by
  induction text generalizing piece with
  | nil =>
    rw [pieces_nil, List.mem_singleton] at listed
    subst listed
    exact List.not_mem_nil
  | cons c rest ih =>
    by_cases same : c = separator
    · subst same
      rw [pieces_cons_separator, List.mem_cons] at listed
      cases listed with
      | inl empty => exact empty ▸ List.not_mem_nil
      | inr later => exact ih later
    · obtain ⟨head, others, cut⟩ := List.exists_cons_of_ne_nil (pieces_ne_nil separator rest)
      rw [pieces_cons_other same cut, List.mem_cons] at listed
      cases listed with
      | inl first =>
        rw [first, List.mem_cons, not_or]
        exact ⟨Ne.symm same, ih (cut ▸ List.mem_cons_self)⟩
      | inr later => exact ih (cut ▸ List.mem_cons_of_mem _ later)

theorem pieces_eq_pair_iff :
    pieces separator text = [key, value] ↔
      text = key ++ separator :: value ∧ separator ∉ key ∧ separator ∉ value := by
  constructor
  · intro cut
    have joined := join_pieces separator text
    rw [cut] at joined
    exact ⟨joined.symm, notMem_of_mem_pieces (by rw [cut]; simp),
      notMem_of_mem_pieces (by rw [cut]; simp)⟩
  · rintro ⟨rfl, absentKey, absentValue⟩
    rw [pieces_append absentKey, pieces_of_notMem absentValue]

theorem exists_pair_iff_count :
    (∃ key value, pieces separator text = [key, value]) ↔ text.count separator = 1 := by
  rw [← List.length_eq_two, length_pieces, Nat.add_right_cancel_iff]

/-! ## 4. Trimming and cutting -/

theorem exists_pieces_of_trim (solid : isBlank separator = false)
    (cut : pieces separator (trim line) = [key, value]) : ∃ before after,
      pieces separator line = [before, after] ∧
        trim before = trim key ∧ trim after = trim value := by
  obtain ⟨content, absentKey, absentValue⟩ := pieces_eq_pair_iff.1 cut
  obtain ⟨⟨front, back, split, blanksFront, blanksBack⟩, -, -⟩ := trims_trim line
  refine ⟨front ++ key, value ++ back, pieces_eq_pair_iff.2 ⟨?_, ?_, ?_⟩, ?_, ?_⟩
  · rw [split, content]
    simp only [List.append_assoc, List.cons_append]
  · rw [List.mem_append, not_or]
    exact ⟨blanksFront.notMem solid, absentKey⟩
  · rw [List.mem_append, not_or]
    exact ⟨absentValue, blanksBack.notMem solid⟩
  · simpa using trim_append_blanks blanksFront blanks_nil key
  · simpa using trim_append_blanks blanks_nil blanksBack value

/-- The text may be trimmed before it is cut. -/
theorem exists_pieces_trim (solid : isBlank separator = false)
    (cut : pieces separator line = [before, after]) : ∃ key value,
      pieces separator (trim line) = [key, value] ∧
        trim key = trim before ∧ trim value = trim after := by
  have once := exists_pair_iff_count.1 ⟨before, after, cut⟩
  obtain ⟨key, value, cutTrimmed⟩ := exists_pair_iff_count.2 ((count_trim solid line).trans once)
  obtain ⟨before', after', cut', sameKey, sameValue⟩ := exists_pieces_of_trim solid cutTrimmed
  obtain ⟨rfl, rfl⟩ : before' = before ∧ after' = after := by simpa [cut] using cut'.symm
  exact ⟨key, value, cutTrimmed, sameKey.symm, sameValue.symm⟩

end

end Multipath.Text
