/-!
# Decimal numerals

A natural number is read from decimal digits, with any number of leading zeros
and an optional plus sign before them, and only below a given bound. It is
written with the fewest digits and no sign.
-/

namespace Multipath.Text

def readDigits? (bound : Nat) (digits : List Char) : Option Nat :=
  if digits ≠ [] ∧ digits.all Char.isDigit then
    let value := Nat.ofDigitChars 10 digits 0
    if value < bound then some value else none
  else none

def readNat? (bound : Nat) (numeral : List Char) : Option Nat :=
  match numeral with
  | '+' :: digits => readDigits? bound digits
  | digits => readDigits? bound digits

def writeNat (value : Nat) : List Char :=
  Nat.toDigits 10 value

/-- What is written reads back. -/
theorem readNat?_writeNat {bound value : Nat} (small : value < bound) :
    readNat? bound (writeNat value) = some value := by
  have digits : (writeNat value).all Char.isDigit := by
    simp only [writeNat, List.all_eq_true]
    exact fun c present => Nat.isDigit_of_mem_toDigits (by decide) (by decide) present
  have nonempty : writeNat value ≠ [] := Nat.toDigits_ne_nil
  have unsigned : readNat? bound (writeNat value) = readDigits? bound (writeNat value) := by
    unfold readNat?
    split
    · rename_i rest cut
      simp [cut] at digits
    · rfl
  rw [unsigned, readDigits?, if_pos ⟨nonempty, digits⟩]
  simp [writeNat, Nat.ofDigitChars_ten_toDigits, small]

end Multipath.Text
