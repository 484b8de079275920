/-!
# Counts of 64 bits

Node ids and counts are natural numbers below `wordBound`. `add?` and `mul?` have no
result where a count would leave that range.
-/

namespace Multipath.Word

def wordBound : Nat := UInt64.size

def fit? (value : Nat) : Option Nat :=
  if value < wordBound then some value else none

def add? (a b : Nat) : Option Nat := fit? (a + b)

def mul? (a b : Nat) : Option Nat := fit? (a * b)

theorem fit?_eq_some_iff {value result : Nat} :
    fit? value = some result ↔ value < wordBound ∧ result = value := by
  simp [fit?, eq_comm]

end Multipath.Word
