import Mathlib.Data.List.Induction
import Multipath.Proofs.Text.Trimmed

/-!
# The grammar of numerals

A numeral has digits, at least one and any number of zeros in front, and may have a plus sign before
them. No other sign is one.

Results:
1. `readNat?_eq_some_iff`: exactly the numerals of small values are read, and as these values.
2. `numeral_iff_written`: apart from the sign and the zeros, a value has one numeral, which is the
   one that is written.
3. `numeral_trim_iff`: blanks around a numeral may be dropped.
-/

namespace Multipath.Text

def Digits (digits : List Char) : Prop := digits ≠ [] ∧ ∀ c ∈ digits, c.isDigit = true

/-- The text is a numeral of this value. -/
inductive Numeral : List Char → ℕ → Prop
  | unsigned {digits : List Char} (isDigits : Digits digits) :
      Numeral digits (Nat.ofDigitChars 10 digits 0)
  | plus {digits : List Char} (isDigits : Digits digits) :
      Numeral ('+' :: digits) (Nat.ofDigitChars 10 digits 0)

variable {bound value : ℕ} {digits text : List Char}

/-! ## 1. Numerals that are read -/

theorem readDigits?_eq_some_iff :
    readDigits? bound digits = some value ↔
      Digits digits ∧ value < bound ∧ value = Nat.ofDigitChars 10 digits 0 := by
  unfold readDigits? Digits
  rw [← List.all_eq_true]
  split
  · next isDigits =>
    rw [and_iff_right isDigits]
    dsimp only
    split
    · next small =>
      rw [Option.some.injEq]
      constructor
      · rintro rfl
        exact ⟨small, rfl⟩
      · rintro ⟨-, rfl⟩
        rfl
    · next large =>
      refine iff_of_false nofun ?_
      rintro ⟨small, rfl⟩
      exact large small
  · next other => exact iff_of_false nofun fun read => other read.1

theorem readNat?_eq_some_iff :
    readNat? bound text = some value ↔ Numeral text value ∧ value < bound := by
  unfold readNat?
  split
  · next digits =>
    rw [readDigits?_eq_some_iff]
    constructor
    · rintro ⟨isDigits, small, rfl⟩
      exact ⟨.plus isDigits, small⟩
    · rintro ⟨numeral, small⟩
      cases numeral with
      | unsigned isDigits => exact absurd (isDigits.2 '+' List.mem_cons_self) (by decide)
      | plus isDigits => exact ⟨isDigits, small, rfl⟩
  · next unsigned =>
    rw [readDigits?_eq_some_iff]
    constructor
    · rintro ⟨isDigits, small, rfl⟩
      exact ⟨.unsigned isDigits, small⟩
    · rintro ⟨numeral, small⟩
      cases numeral with
      | unsigned isDigits => exact ⟨isDigits, small, rfl⟩
      | plus isDigits => exact absurd rfl (unsigned _)

/-! ## 2. Numerals and what is written -/

theorem exists_digitChar {c : Char} (digit : c.isDigit = true) :
    ∃ d < 10, c = Nat.digitChar d := by
  have bounds := toNat_bounds_of_isDigit digit
  refine ⟨c.toNat - 48, by omega, Char.toNat_inj.1 ?_⟩
  rw [Nat.toNat_digitChar_of_lt_ten (by omega)]
  omega

theorem ofDigitChars_concat (front : List Char) {d : ℕ} (small : d < 10) :
    Nat.ofDigitChars 10 (front ++ [Nat.digitChar d]) 0 =
      10 * Nat.ofDigitChars 10 front 0 + d := by
  rw [Nat.ofDigitChars_append, Nat.ofDigitChars_cons_digitChar_of_lt_ten small,
    Nat.ofDigitChars_nil]

theorem writeNat_digit {d : ℕ} (small : d < 10) : writeNat d = [Nat.digitChar d] :=
  Nat.toDigits_of_lt_base small

theorem writeNat_concat {d : ℕ} (positive : 0 < value) (small : d < 10) :
    writeNat (10 * value + d) = writeNat value ++ [Nat.digitChar d] := by
  rw [← writeNat_digit small]
  exact (Nat.toDigits_append_toDigits (by decide) positive small).symm

/-- Behind zeros there is what is written for the value. -/
theorem Digits.exists_zeros (isDigits : Digits digits) :
    ∃ zeros, digits = List.replicate zeros '0' ++ writeNat (Nat.ofDigitChars 10 digits 0) := by
  obtain ⟨nonempty, allDigits⟩ := isDigits
  -- from the back, as the last digit is the one that is written last
  induction digits using List.reverseRecOn with
  | nil => exact absurd rfl nonempty
  | append_singleton front c ih =>
    rw [List.forall_mem_append] at allDigits
    obtain ⟨d, small, rfl⟩ := exists_digitChar (allDigits.2 c List.mem_cons_self)
    rw [ofDigitChars_concat front small]
    by_cases alone : front = []
    · subst alone
      refine ⟨0, ?_⟩
      rw [Nat.ofDigitChars_nil, Nat.mul_zero, Nat.zero_add, writeNat_digit small]
      rfl
    obtain ⟨zeros, split⟩ := ih alone allDigits.1
    generalize Nat.ofDigitChars 10 front 0 = value at split ⊢
    subst split
    cases value with
    | zero =>
      -- the written zero is one more of the zeros in front
      refine ⟨zeros + 1, ?_⟩
      rw [Nat.mul_zero, Nat.zero_add, List.replicate_succ', writeNat_digit small,
        writeNat_digit (by decide)]
      rfl
    | succ value =>
      refine ⟨zeros, ?_⟩
      rw [writeNat_concat (Nat.succ_pos _) small, List.append_assoc]

theorem digits_zeros (zeros value : ℕ) :
    Digits (List.replicate zeros '0' ++ writeNat value) := by
  refine ⟨List.append_ne_nil_of_right_ne_nil _ (writeNat_ne_nil value), ?_⟩
  refine List.forall_mem_append.2 ⟨fun c present => ?_, fun c => isDigit_of_mem_writeNat⟩
  rw [List.eq_of_mem_replicate present]
  decide

theorem ofDigitChars_zeros (zeros value : ℕ) :
    Nat.ofDigitChars 10 (List.replicate zeros '0' ++ writeNat value) 0 = value := by
  rw [Nat.ofDigitChars_append, Nat.ofDigitChars_replicate_zero, Nat.mul_zero, writeNat,
    Nat.ofDigitChars_ten_toDigits]

theorem numeral_iff_written : Numeral text value ↔
    ∃ zeros, text = List.replicate zeros '0' ++ writeNat value ∨
      text = '+' :: (List.replicate zeros '0' ++ writeNat value) := by
  constructor
  · intro numeral
    cases numeral with
    | unsigned isDigits =>
      obtain ⟨zeros, split⟩ := isDigits.exists_zeros
      exact ⟨zeros, Or.inl split⟩
    | plus isDigits =>
      obtain ⟨zeros, split⟩ := isDigits.exists_zeros
      exact ⟨zeros, Or.inr (congrArg _ split)⟩
  · rintro ⟨zeros, rfl | rfl⟩
    · have numeral := Numeral.unsigned (digits_zeros zeros value)
      rwa [ofDigitChars_zeros] at numeral
    · have numeral := Numeral.plus (digits_zeros zeros value)
      rwa [ofDigitChars_zeros] at numeral

/-! ## 3. Numerals with blanks around them -/

theorem Digits.isBlank_eq_false (isDigits : Digits digits) : ∀ c ∈ digits, isBlank c = false :=
  fun c present => isBlank_of_isDigit (isDigits.2 c present)

theorem Numeral.isBlank_eq_false (numeral : Numeral text value) :
    ∀ c ∈ text, isBlank c = false := by
  cases numeral with
  | unsigned isDigits => exact isDigits.isBlank_eq_false
  | plus isDigits => exact List.forall_mem_cons.2 ⟨by decide, isDigits.isBlank_eq_false⟩

theorem numeral_trim_iff :
    Numeral (trim text) value ↔ ∃ numeral, Numeral numeral value ∧ Padded numeral text := by
  constructor
  · intro numeral
    exact ⟨trim text, numeral, (trims_trim text).inside⟩
  · rintro ⟨numeral, spelled, padded⟩
    rwa [padded.trim_eq, trim_eq_self spelled.isBlank_eq_false]

end Multipath.Text
