import Multipath.Proofs.Text.Rejoined

/-!
# Texts and their lines

`Lined` says where a text is divided into lines. A line feed ends a line, together with a carriage
return directly before it. What follows the last line feed is a line only if there is something.

Results:
1. `lined_iff`: `lines` divides a text this way, and there is no other way.
2. `lines_append`: two texts are divided one after the other when the first is ended.
-/

namespace Multipath.Text

/-- The lines of a text in their order, without their endings. -/
inductive Lined : List Char → List (List Char) → Prop
  | nil : Lined [] []
  | unended {line : List Char} (nonempty : line ≠ []) (unbroken : '\n' ∉ line) : Lined line [line]
  | lineFeed {line rest : List Char} {others : List (List Char)} (unbroken : '\n' ∉ line)
      (unreturned : line.getLast? ≠ some '\r') (further : Lined rest others) :
      Lined (line ++ '\n' :: rest) (line :: others)
  | returned {line rest : List Char} {others : List (List Char)} (unbroken : '\n' ∉ line)
      (further : Lined rest others) : Lined (line ++ '\r' :: '\n' :: rest) (line :: others)

variable {text rest line : List Char} {cut : List (List Char)}

/-! ## 1. The lines of a text -/

theorem lines_of_notMem (nonempty : line ≠ []) (unbroken : '\n' ∉ line) : lines line = [line] := by
  unfold lines
  rw [pieces_of_notMem unbroken]
  cases line with
  | nil => exact absurd rfl nonempty
  | cons c others => rfl

/-- A line reaches to the next line feed. -/
theorem lines_cons_of_notMem (unbroken : '\n' ∉ line) (rest : List Char) :
    lines (line ++ '\n' :: rest) = dropReturn line :: lines rest := by
  unfold lines
  obtain ⟨next, others, split⟩ := List.exists_cons_of_ne_nil (pieces_ne_nil '\n' rest)
  rw [pieces_append unbroken, split]
  dsimp only
  rw [List.dropLast_cons_cons, List.map_cons, List.getLast?_cons_cons]
  cases (next :: others).getLast? with
  | none => rfl
  | some last => cases last <;> rfl

theorem dropReturn_append_return (line : List Char) : dropReturn (line ++ ['\r']) = line := by
  unfold dropReturn
  rw [List.getLast?_concat, if_pos rfl, List.dropLast_concat]

theorem Lined.lines_eq (lined : Lined text cut) : lines text = cut := by
  induction lined with
  | nil => rfl
  | unended nonempty unbroken => exact lines_of_notMem nonempty unbroken
  | lineFeed unbroken unreturned _ ih =>
    rw [lines_cons_of_notMem unbroken, dropReturn, if_neg unreturned, ih]
  | @returned line rest others unbroken _ ih =>
    have unbrokenReturn : '\n' ∉ line ++ ['\r'] := by simpa using unbroken
    rw [List.append_cons, lines_cons_of_notMem unbrokenReturn, dropReturn_append_return, ih]

theorem lined_cons (unbroken : '\n' ∉ line) (further : Lined rest cut) :
    Lined (line ++ '\n' :: rest) (dropReturn line :: cut) := by
  unfold dropReturn
  split
  · next ending =>
    obtain ⟨front, rfl⟩ := List.getLast?_eq_some_iff.1 ending
    rw [List.dropLast_concat, List.append_assoc]
    rw [List.mem_append, not_or] at unbroken
    exact .returned unbroken.1 further
  · next unreturned => exact .lineFeed unbroken unreturned further

theorem lined_lines (text : List Char) : Lined text (lines text) := by
  by_cases broken : '\n' ∈ text
  · obtain ⟨line, rest, rfl, unbroken⟩ := List.eq_append_cons_of_mem broken
    rw [lines_cons_of_notMem unbroken]
    exact lined_cons unbroken (lined_lines rest)
  · cases text with
    | nil => exact .nil
    | cons c others =>
      rw [lines_of_notMem (List.cons_ne_nil c others) broken]
      exact .unended (List.cons_ne_nil c others) broken
termination_by text.length
decreasing_by
  subst_vars
  simp only [List.length_append, List.length_cons]
  omega

theorem lined_iff : Lined text cut ↔ lines text = cut := by
  constructor
  · exact Lined.lines_eq
  · rintro rfl
    exact lined_lines text

/-- Lines that are written one after the other, each with a line feed, are found again. -/
theorem lined_flatMap (unbroken : ∀ line ∈ cut, '\n' ∉ line)
    (unreturned : ∀ line ∈ cut, line.getLast? ≠ some '\r') :
    Lined (cut.flatMap fun line => line ++ ['\n']) cut := by
  induction cut with
  | nil => exact .nil
  | cons line others ih =>
    rw [List.forall_mem_cons] at unbroken unreturned
    rw [List.flatMap_cons, List.append_assoc, List.singleton_append]
    exact .lineFeed unbroken.1 unreturned.1 (ih unbroken.2 unreturned.2)

/-! ## 2. Two texts in a row -/

/-- No line of the text is left without its line feed. -/
def Ended (text : List Char) : Prop := text = [] ∨ text.getLast? = some '\n'

instance (text : List Char) : Decidable (Ended text) :=
  inferInstanceAs (Decidable (text = [] ∨ text.getLast? = some '\n'))

theorem Ended.of_append (ended : Ended (line ++ '\n' :: rest)) : Ended rest := by
  cases rest with
  | nil => exact Or.inl rfl
  | cons c others =>
    cases ended with
    | inl empty => exact absurd empty (by simp)
    | inr last =>
      refine Or.inr ?_
      simpa [List.getLast?_append] using last

theorem Lined.append {others : List (List Char)} (lined : Lined text cut) (ended : Ended text)
    (linedRest : Lined rest others) : Lined (text ++ rest) (cut ++ others) := by
  induction lined with
  | nil => exact linedRest
  | unended nonempty unbroken =>
    cases ended with
    | inl empty => exact absurd empty nonempty
    | inr last => exact absurd (List.mem_of_getLast? last) unbroken
  | lineFeed unbroken unreturned _ ih =>
    rw [List.append_assoc, List.cons_append, List.cons_append]
    exact .lineFeed unbroken unreturned (ih ended.of_append)
  | returned unbroken _ ih =>
    rw [List.append_cons] at ended
    rw [List.append_assoc, List.cons_append, List.cons_append, List.cons_append]
    exact .returned unbroken (ih ended.of_append)

theorem lines_append (ended : Ended text) (rest : List Char) :
    lines (text ++ rest) = lines text ++ lines rest :=
  ((lined_lines text).append ended (lined_lines rest)).lines_eq

end Multipath.Text
