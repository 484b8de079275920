import Mathlib.Data.List.Basic
import Multipath.Text.Blank
import Multipath.Text.Numeral
import Multipath.Text.Pieces

/-!
# Texts that are put together and cut again

Cutting undoes joining as long as no piece contains the separator.

Results:
1. `pieces_join`, `join_inj`: what is cut is what was joined.
2. `isDigit_of_mem_writeNat`, `writeNat_injective`, `writeNat_eq_zero_of_head?`: numerals consist of
   digits, each number has its own, and none has zeros in front.
-/

namespace Multipath.Text

/-! ## 1. Cutting -/

variable {separator : Char} {piece : List Char} {cut : List (List Char)}

theorem pieces_of_notMem (absent : separator ∉ piece) : pieces separator piece = [piece] := by
  induction piece with
  | nil => rfl
  | cons c rest ih =>
    rw [List.mem_cons, not_or] at absent
    exact pieces_cons_other (Ne.symm absent.1) (ih absent.2)

/-- A piece reaches to the next separator. -/
theorem pieces_append (absent : separator ∉ piece) (rest : List Char) :
    pieces separator (piece ++ separator :: rest) = piece :: pieces separator rest := by
  induction piece with
  | nil => exact pieces_cons_separator separator rest
  | cons c others ih =>
    rw [List.mem_cons, not_or] at absent
    exact pieces_cons_other (Ne.symm absent.1) (ih absent.2)

theorem pieces_join (nonempty : cut ≠ []) (absent : ∀ piece ∈ cut, separator ∉ piece) :
    pieces separator (join separator cut) = cut := by
  induction cut with
  | nil => exact absurd rfl nonempty
  | cons piece others ih =>
    rw [List.forall_mem_cons] at absent
    cases others with
    | nil => exact pieces_of_notMem absent.1
    | cons next others =>
      rw [join_cons_cons, pieces_append absent.1, ih (List.cons_ne_nil _ _) absent.2]

theorem join_eq_nil_iff (nonempty : ∀ piece ∈ cut, piece ≠ []) :
    join separator cut = [] ↔ cut = [] := by
  cases cut with
  | nil => exact iff_of_true rfl rfl
  | cons piece others =>
    refine iff_of_false (fun empty => ?_) (List.cons_ne_nil _ _)
    have first := nonempty piece List.mem_cons_self
    cases others with
    | nil => exact first empty
    | cons next others =>
      rw [join_cons_cons] at empty
      exact first (List.append_eq_nil_iff.1 empty).1

/-- Without empty pieces the empty text is the join of no pieces only. -/
theorem join_inj {other : List (List Char)} (whole : ∀ piece ∈ cut, piece ≠ [] ∧ separator ∉ piece)
    (wholeOther : ∀ piece ∈ other, piece ≠ [] ∧ separator ∉ piece) :
    join separator cut = join separator other ↔ cut = other := by
  refine ⟨fun same => ?_, congrArg _⟩
  have empty : cut = [] ↔ other = [] := by
    rw [← join_eq_nil_iff fun piece listed => (whole piece listed).1, same,
      join_eq_nil_iff fun piece listed => (wholeOther piece listed).1]
  by_cases nothing : cut = []
  · rw [nothing, empty.1 nothing]
  · rw [← pieces_join nothing fun piece listed => (whole piece listed).2, same,
      pieces_join (mt empty.2 nothing) fun piece listed => (wholeOther piece listed).2]

theorem forall_mem_join {holds : Char → Prop} (atSeparator : holds separator)
    (inPieces : ∀ piece ∈ cut, ∀ c ∈ piece, holds c) : ∀ c ∈ join separator cut, holds c := by
  induction cut with
  | nil => nofun
  | cons piece others ih =>
    rw [List.forall_mem_cons] at inPieces
    cases others with
    | nil => exact inPieces.1
    | cons next others =>
      rw [join_cons_cons]
      exact List.forall_mem_append.2
        ⟨inPieces.1, List.forall_mem_cons.2 ⟨atSeparator, ih inPieces.2⟩⟩

/-! ## 2. Numerals -/

theorem isDigit_of_mem_writeNat {value : ℕ} {c : Char} (present : c ∈ writeNat value) :
    c.isDigit = true :=
  Nat.isDigit_of_mem_toDigits (by decide) (by decide) present

theorem toNat_bounds_of_isDigit {c : Char} (digit : c.isDigit = true) :
    48 ≤ c.toNat ∧ c.toNat ≤ 57 := by
  simpa [Char.isDigit, UInt32.le_iff_toNat_le] using digit

theorem isBlank_of_isDigit {c : Char} (digit : c.isDigit = true) : isBlank c = false := by
  have bounds := toNat_bounds_of_isDigit digit
  simp only [isBlank, blankRanges, List.any_cons, List.any_nil, Bool.or_false, Bool.or_eq_false_iff,
    Bool.and_eq_false_iff, decide_eq_false_iff_not]
  omega

theorem writeNat_ne_nil (value : ℕ) : writeNat value ≠ [] := Nat.toDigits_ne_nil

theorem writeNat_injective : Function.Injective writeNat := fun value other same => by
  have read := congrArg (Nat.ofDigitChars 10 · 0) same
  simpa only [writeNat, Nat.ofDigitChars_ten_toDigits] using read

/-- Only the numeral of zero starts with a zero. -/
theorem writeNat_eq_zero_of_head? {number : ℕ} (leading : (writeNat number).head? = some '0') :
    writeNat number = ['0'] := by
  induction number using Nat.strongRecOn with
  | ind number ih =>
    unfold writeNat at leading ih ⊢
    by_cases small : number < 10
    · rw [Nat.toDigits_of_lt_base small, List.head?_singleton, Option.some.injEq] at leading
      rw [Nat.toDigits_of_lt_base small, leading]
    · have large : 10 ≤ number := Nat.not_lt.1 small
      obtain ⟨first, others, front⟩ :=
        List.exists_cons_of_ne_nil (Nat.toDigits_ne_nil (n := number / 10) (b := 10))
      rw [Nat.toDigits_of_base_le (by decide) large, front] at leading
      -- the front digits would be those of zero
      have zero := ih (number / 10) (by omega) (by rw [front]; exact leading)
      have same : number / 10 = 0 := writeNat_injective zero
      omega

end Multipath.Text
