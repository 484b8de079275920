import Mathlib.Data.List.Basic

/-!
# Rows of equal length

A table with two indices is kept in one list, row after row. The cell of a row and a column is at
position `row * size + column`.

Results:
1. `cell_lt`, `cell_div`, `cell_mod`: a position inside the table has one row and one column.
2. `getElem?_flatMap_range`: what is at a position of a table that is listed row by row.
-/

namespace Multipath.Rows

variable {rows size row column : ℕ}

theorem cell_lt (inRows : row < rows) (inRow : column < size) :
    row * size + column < rows * size := by
  have behind : (row + 1) * size ≤ rows * size := Nat.mul_le_mul_right size inRows
  rw [Nat.add_mul, Nat.one_mul] at behind
  omega

theorem cell_div (inRow : column < size) : (row * size + column) / size = row := by
  rw [Nat.mul_comm, Nat.mul_add_div (by omega), Nat.div_eq_of_lt inRow, Nat.add_zero]

theorem cell_mod (inRow : column < size) : (row * size + column) % size = column := by
  rw [Nat.mul_comm, Nat.mul_add_mod, Nat.mod_eq_of_lt inRow]

/-- Each entry of a list fills a row. -/
theorem getElem?_flatMap_range {α β : Type} {entries : List α} {cell : α → ℕ → β}
    (inRow : column < size) :
    (entries.flatMap fun entry => (List.range size).map (cell entry))[row * size + column]? =
      entries[row]?.map fun entry => cell entry column := by
  induction entries generalizing row with
  | nil => simp
  | cons entry rest ih =>
    rw [List.flatMap_cons]
    cases row with
    | zero => simp [List.getElem?_append_left, inRow]
    | succ row =>
      have behind : (row + 1) * size + column = size + (row * size + column) := by
        rw [Nat.add_mul, Nat.one_mul]
        omega
      rw [List.getElem?_append_right (by simp [behind]), behind]
      simp [ih]

end Multipath.Rows
