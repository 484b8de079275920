import Mathlib.Tactic.MkIffOfInductiveProp
import Multipath.Proofs.Text.Numerals
import Multipath.Proofs.Topology.Rendered

/-!
# Numbers and edges in a file

A number is a numeral of 64 bits, with blanks around it or not. An edge is two numbers with a dash
between them. A second dash makes it none, so the dash is never the sign of a number.

Results:
1. `readWord?_eq_some_iff`, `readInteger_eq_ok_iff`, `readWord?_eq_some_iff_spells`: what is read as
   a number.
2. `readEdge_eq_ok_iff`, `readEdge_eq_error_iff`: what is read as an edge, and what is refused.
3. `readEdge_exact`: this together with the spellings of a number, rendered edges and negative ends.
-/

namespace Multipath.Blueprint

open Text

/-! ## 1. Numbers -/

/-- The text is a numeral of this value with blanks around it or not, and the value has 64 bits. -/
@[mk_iff]
structure SpellsWord (text : List Char) (value : ℕ) : Prop where
  spelled : ∃ numeral, Numeral numeral value ∧ Padded numeral text
  small : value < Word.wordBound

theorem readWord?_eq_some_iff {text : List Char} {number : ℕ} :
    readWord? text = some number ↔ Numeral (trim text) number ∧ number < Word.wordBound :=
  readNat?_eq_some_iff

theorem readWord?_eq_some_iff_spells {text : List Char} {number : ℕ} :
    readWord? text = some number ↔ SpellsWord text number := by
  rw [readWord?_eq_some_iff, numeral_trim_iff, spellsWord_iff]

theorem readInteger_eq_ok_iff {item : String} {id : ℕ} :
    readInteger item = .ok id ↔ Numeral (trim item.toList) id ∧ id < Word.wordBound := by
  rw [← readWord?_eq_some_iff]
  unfold readInteger
  cases readWord? item.toList with
  | none => exact iff_of_false nofun nofun
  | some number => rw [Except.ok.injEq, Option.some.injEq]

theorem lt_of_readInteger {numeral : String} {value : ℕ} (read : readInteger numeral = .ok value) :
    value < Word.wordBound :=
  (readInteger_eq_ok_iff.1 read).2

/-! ## 2. Edges -/

/-- The token has one dash, and what stands on either side of it spells that end of the edge. -/
structure SpellsEdge (token : List Char) (edge : ℕ × ℕ) : Prop where
  oneDash : token.count '-' = 1
  ends : ∃ left right, token = left ++ '-' :: right ∧
    SpellsWord left edge.1 ∧ SpellsWord right edge.2

/-- A numeral with a minus sign, with blanks around it or not. -/
def Negative (text : List Char) : Prop := ∃ digits, Digits digits ∧ Padded ('-' :: digits) text

variable {token : String} {edge : ℕ × ℕ} {error : BlueprintError} {left right text : List Char}

theorem Negative.dash_mem (negative : Negative text) : '-' ∈ text := by
  obtain ⟨digits, -, before, after, rfl, -, -⟩ := negative
  simp

theorem dash_notMem_of_count (oneDash : (left ++ '-' :: right).count '-' = 1) :
    '-' ∉ left ∧ '-' ∉ right := by
  rw [List.count_append, List.count_cons_self] at oneDash
  exact ⟨List.count_eq_zero.1 (by omega), List.count_eq_zero.1 (by omega)⟩

theorem readEdge_eq_ok_iff_pieces :
    readEdge token = .ok edge ↔ ∃ left right, pieces '-' token.toList = [left, right] ∧
      readWord? left = some edge.1 ∧ readWord? right = some edge.2 := by
  unfold readEdge
  constructor
  · intro read
    split at read
    · next a b ends =>
      cases read
      obtain ⟨left, others, cut, first, further⟩ := List.map_eq_cons_iff.1 ends
      obtain ⟨right, rfl, second⟩ := List.map_eq_singleton_iff.1 further
      exact ⟨left, right, cut, first, second⟩
    · cases read
  · rintro ⟨left, right, cut, first, second⟩
    rw [cut, List.map_cons, List.map_singleton, first, second]

theorem readEdge_eq_ok_iff : readEdge token = .ok edge ↔ SpellsEdge token.toList edge := by
  simp only [readEdge_eq_ok_iff_pieces, readWord?_eq_some_iff_spells]
  constructor
  · rintro ⟨left, right, cut, first, second⟩
    exact ⟨exists_pair_iff_count.1 ⟨left, right, cut⟩, left, right, (pieces_eq_pair_iff.1 cut).1,
      first, second⟩
  · rintro ⟨oneDash, left, right, split, first, second⟩
    rw [split] at oneDash ⊢
    exact ⟨left, right, pieces_eq_pair_iff.2 ⟨rfl, dash_notMem_of_count oneDash⟩, first, second⟩

theorem lt_of_readEdge (read : readEdge token = .ok edge) :
    edge.1 < Word.wordBound ∧ edge.2 < Word.wordBound := by
  obtain ⟨-, left, right, -, first, second⟩ := readEdge_eq_ok_iff.1 read
  exact ⟨first.small, second.small⟩

/-- Whatever is wrong with a token, it is named as a whole. -/
theorem eq_invalidEdge_of_readEdge (failed : readEdge token = .error error) :
    error = .invalidEdge token := by
  unfold readEdge at failed
  split at failed
  · cases failed
  · cases failed
    rfl

theorem readEdge_eq_error_iff :
    readEdge token = .error error ↔
      error = .invalidEdge token ∧ ∀ edge, ¬ SpellsEdge token.toList edge := by
  simp only [← readEdge_eq_ok_iff]
  cases read : readEdge token with
  | ok edge => exact iff_of_false nofun fun refused => refused.2 edge rfl
  | error found =>
    rw [eq_invalidEdge_of_readEdge read, Except.error.injEq]
    exact ⟨fun same => ⟨same.symm, nofun⟩, fun refused => refused.1.symm⟩

theorem not_spellsEdge_of_negative (negative : Negative left ∨ Negative right) (edge : ℕ × ℕ) :
    ¬ SpellsEdge (left ++ '-' :: right) edge := by
  intro spells
  obtain ⟨absentLeft, absentRight⟩ := dash_notMem_of_count spells.oneDash
  cases negative with
  | inl onLeft => exact absentLeft onLeft.dash_mem
  | inr onRight => exact absentRight onRight.dash_mem

/-! ## 3. All tokens -/

/-- What is read as an edge is one dash between two numbers, and the ends keep their order. A number
is what is written for its value, and may have zeros, a plus sign and blanks in front and blanks
behind. Any other token is refused and named as it stands. So every rendered edge is read back, and
no token with a negative end is taken. -/
theorem readEdge_exact :
    (∀ token edge, readEdge token = .ok edge ↔ SpellsEdge token.toList edge) ∧
    (∀ token error, readEdge token = .error error ↔
      error = .invalidEdge token ∧ ∀ edge, ¬ SpellsEdge token.toList edge) ∧
    (∀ text value, Numeral text value ↔
      ∃ zeros, text = List.replicate zeros '0' ++ writeNat value ∨
        text = '+' :: (List.replicate zeros '0' ++ writeNat value)) ∧
    (∀ a b, a < Word.wordBound → b < Word.wordBound →
      readEdge (String.ofList (renderEdge (a, b))) = .ok (a, b)) ∧
    ∀ left right token, Negative left ∨ Negative right → token.toList = left ++ '-' :: right →
      readEdge token = .error (.invalidEdge token) := by
  refine ⟨fun token edge => readEdge_eq_ok_iff, fun token error => readEdge_eq_error_iff,
    fun text value => numeral_iff_written, fun a b smallA smallB => ?_,
    fun left right token negative split => ?_⟩
  · exact readEdge_renderEdge ⟨smallA, smallB⟩
  · refine readEdge_eq_error_iff.2 ⟨rfl, ?_⟩
    rw [split]
    exact not_spellsEdge_of_negative negative

/-- The largest number is read with zeros in front of it and the one after it is not. A minus sign
before a zero is refused as well. -/
theorem readEdge_largest :
    readEdge "\u2003+007 -\t0018446744073709551615" = .ok (7, 18446744073709551615) ∧
    readEdge "18446744073709551615-0" = .ok (18446744073709551615, 0) ∧
    readEdge "1-0018446744073709551616" = .error (.invalidEdge "1-0018446744073709551616") ∧
    readEdge " -0 -3" = .error (.invalidEdge " -0 -3") := by
  obtain ⟨-, -, -, rendered, refused⟩ := readEdge_exact
  have negative : Negative " -0 ".toList :=
    ⟨['0'], ⟨by decide, List.all_eq_true.1 (by decide)⟩, [' '], [' '], rfl, by decide, by decide⟩
  refine ⟨by decide +kernel, ?_, by decide +kernel, refused _ ['3'] _ (Or.inl negative) rfl⟩
  exact rendered 18446744073709551615 0 (by decide) (by decide)

end Multipath.Blueprint
