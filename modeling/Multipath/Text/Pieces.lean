/-!
# Pieces and lines of a text

* `pieces` cuts a text at every occurrence of a separator. There is always one
  piece more than there are separators, so the empty text is one empty piece.
* `join` puts the separator between pieces, which undoes `pieces`.
* `lines` cuts at line feeds. A line feed ends its line, so a final one opens no
  further line, and a carriage return directly before it belongs to the ending.
  The last line keeps its carriage return when no line feed follows.
-/

namespace Multipath.Text

def pieces (separator : Char) (text : List Char) : List (List Char) :=
  text.foldr
    (fun c cut =>
      if c = separator then [] :: cut
      else match cut with
        | [] => [[c]]
        | piece :: others => (c :: piece) :: others)
    [[]]

def join (separator : Char) : List (List Char) → List Char
  | [] => []
  | [piece] => piece
  | piece :: others => piece ++ separator :: join separator others

def dropReturn (line : List Char) : List Char :=
  if line.getLast? = some '\r' then line.dropLast else line

def lines (text : List Char) : List (List Char) :=
  let cut := pieces '\n' text
  let ended := cut.dropLast.map dropReturn
  match cut.getLast? with
  | none | some [] => ended
  | some unended => ended ++ [unended]

theorem pieces_nil (separator : Char) : pieces separator [] = [[]] := rfl

theorem pieces_cons_separator (separator : Char) (text : List Char) :
    pieces separator (separator :: text) = [] :: pieces separator text := by
  simp [pieces]

theorem pieces_ne_nil (separator : Char) (text : List Char) : pieces separator text ≠ [] := by
  cases text with
  | nil => simp [pieces]
  | cons c rest =>
      simp only [pieces, List.foldr_cons]
      split
      · simp
      · split <;> simp

theorem pieces_cons_other {separator c : Char} {text piece : List Char}
    {others : List (List Char)} (other : c ≠ separator)
    (cut : pieces separator text = piece :: others) :
    pieces separator (c :: text) = (c :: piece) :: others := by
  simp only [pieces, List.foldr_cons] at cut ⊢
  simp [other, cut]

/-- There is one piece more than there are separators. -/
theorem length_pieces (separator : Char) (text : List Char) :
    (pieces separator text).length = text.count separator + 1 := by
  induction text with
  | nil => rfl
  | cons c rest ih =>
      by_cases same : c = separator
      · simp [same, pieces_cons_separator, ih]
      · obtain ⟨piece, others, cut⟩ := List.exists_cons_of_ne_nil (pieces_ne_nil separator rest)
        rw [pieces_cons_other same cut]
        rw [cut] at ih
        simp [same, ← ih]

theorem join_cons_cons (separator : Char) (piece next : List Char) (others : List (List Char)) :
    join separator (piece :: next :: others) =
      piece ++ separator :: join separator (next :: others) := rfl

/-- Cutting loses nothing. -/
theorem join_pieces (separator : Char) (text : List Char) :
    join separator (pieces separator text) = text := by
  induction text with
  | nil => rfl
  | cons c rest ih =>
      obtain ⟨piece, others, cut⟩ := List.exists_cons_of_ne_nil (pieces_ne_nil separator rest)
      by_cases same : c = separator
      · subst same
        rw [pieces_cons_separator, cut, join_cons_cons, ← cut, ih]
        rfl
      · rw [pieces_cons_other same cut]
        rw [cut] at ih
        cases others with
        | nil => simpa [join] using ih
        | cons next others =>
            rw [join_cons_cons] at ih ⊢
            rw [List.cons_append, ih]

end Multipath.Text
