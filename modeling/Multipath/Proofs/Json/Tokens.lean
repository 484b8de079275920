import Mathlib.Data.List.Basic
import Multipath.Json.Token

/-!
# How tokens are written

White space may stand before and after every token. It is needed only between two words, since a
word goes on until white space, a quote or a sign. A character of a string is written as itself or by
an escape, which may be a letter or four hexadecimal digits.

Results:
1. `read?_body`: what a string holds.
2. `read?_word`, `read?_endsWord`: a word is taken whole, whatever ends it.
3. `ofChars?_of_written`: the tokens that are written in a text are read from it.
-/

namespace Multipath.Json

/-! ## 1. Strings -/

/-- The character stands for itself in a string. -/
def Plain (c : Char) : Prop := c ≠ '"' ∧ c ≠ '\\' ∧ 0x20 ≤ c.toNat

instance : DecidablePred Plain := fun c =>
  inferInstanceAs (Decidable (c ≠ '"' ∧ c ≠ '\\' ∧ 0x20 ≤ c.toNat))

/-- What stands between the quotes of a string, and the parts that are meant by it. -/
inductive StringBody : List Char → List StringPart → Prop
  | nil : StringBody [] []
  | plain {c : Char} {body : List Char} {parts : List StringPart} :
      Plain c → StringBody body parts → StringBody (c :: body) (.char c :: parts)
  | escape {mark meant : Char} {body : List Char} {parts : List StringPart} :
      escaped? mark = some meant → StringBody body parts →
      StringBody ('\\' :: mark :: body) (.char meant :: parts)
  | unit {a b c d : Char} {w x y z : ℕ} {body : List Char} {parts : List StringPart} :
      hexDigit? a = some w → hexDigit? b = some x → hexDigit? c = some y → hexDigit? d = some z →
      StringBody body parts →
      StringBody ('\\' :: 'u' :: a :: b :: c :: d :: body)
        (.unit (((w * 16 + x) * 16 + y) * 16 + z) :: parts)

/-- The tokens that a text is read as from here on, with those that are already there. -/
def Scan.read? (s : Scan) (text : List Char) : Option (List Token) :=
  text.foldlM Scan.step s >>= Scan.finish?

variable {c : Char} {body chars rest text : List Char} {parts : List StringPart}
  {token : Token} {tokens : List Token} {s t : Scan}

theorem read?_cons (stepped : s.step c = some t) (rest : List Char) :
    s.read? (c :: rest) = t.read? rest := by
  rw [Scan.read?, List.foldlM_cons, stepped]
  rfl

theorem step_hex {digit : Char} {value : ℕ} (valued : hexDigit? digit = some value)
    (done : List Token) (before : List StringPart) (missing code : ℕ) :
    Scan.step ⟨done, .hex before (missing + 1) code⟩ digit =
      some ⟨done, .hex before missing (code * 16 + value)⟩ := by
  simp only [Scan.step, valued, Option.map_some]

theorem read?_body (isBody : StringBody body parts) (done : List Token)
    (before : List StringPart) (rest : List Char) :
    Scan.read? ⟨done, .string before⟩ (body ++ rest) =
      Scan.read? ⟨done, .string (parts.reverse ++ before)⟩ rest := by
  induction isBody generalizing before with
  | nil => rfl
  | @plain c body parts isPlain _ ih =>
    obtain ⟨unquoted, unescaped, printed⟩ := isPlain
    have stepped : Scan.step ⟨done, .string before⟩ c =
        some ⟨done, .string (.char c :: before)⟩ := by
      simp only [Scan.step, if_neg unquoted, if_neg unescaped, if_neg (Nat.not_lt.2 printed)]
    rw [List.cons_append, read?_cons stepped, ih, List.reverse_cons, List.append_assoc]
    rfl
  | @escape mark meant body parts means _ ih =>
    have other : mark ≠ 'u' := by
      rintro rfl
      cases means
    have stepped : Scan.step ⟨done, .escape before⟩ mark =
        some ⟨done, .string (.char meant :: before)⟩ := by
      simp only [Scan.step, if_neg other, means, Option.map_some]
    rw [List.cons_append, List.cons_append, read?_cons (t := ⟨done, .escape before⟩) rfl,
      read?_cons stepped, ih, List.reverse_cons, List.append_assoc]
    rfl
  | @unit a b c d w x y z body parts first second third fourth _ ih =>
    have last : Scan.step ⟨done, .hex before 0 (((0 * 16 + w) * 16 + x) * 16 + y)⟩ d =
        some ⟨done, .string (.unit (((w * 16 + x) * 16 + y) * 16 + z) :: before)⟩ := by
      simp only [Scan.step, fourth, Option.map_some, Nat.zero_mul, Nat.zero_add]
    simp only [List.cons_append]
    rw [read?_cons (t := ⟨done, .escape before⟩) rfl,
      read?_cons (t := ⟨done, .hex before 3 0⟩) rfl, read?_cons (step_hex first _ _ _ _),
      read?_cons (step_hex second _ _ _ _), read?_cons (step_hex third _ _ _ _), read?_cons last,
      ih, List.reverse_cons, List.append_assoc]
    rfl

theorem stringBody_plain (plain : ∀ c ∈ text, Plain c) :
    StringBody text (text.map StringPart.char) := by
  induction text with
  | nil => exact .nil
  | cons c rest ih =>
    rw [List.forall_mem_cons] at plain
    exact .plain plain.1 (ih plain.2)

theorem joinFrom?_chars (done text : List Char) :
    StringPart.joinFrom? done (text.map StringPart.char) =
      some (String.ofList (done.reverse ++ text)) := by
  induction text generalizing done with
  | nil =>
    rw [List.append_nil]
    rfl
  | cons c rest ih =>
    rw [List.map_cons, StringPart.joinFrom?, ih, List.reverse_cons, List.append_assoc]
    rfl

/-! ## 2. Words -/

theorem begin_endsWord_false (solid : endsWord c = false) (done : List Token) :
    Scan.begin done c = ⟨done, .word [c]⟩ := by
  simp only [endsWord, Bool.or_eq_false_iff, decide_eq_false_iff_not, Option.isSome_eq_false_iff,
    Option.isNone_iff_eq_none] at solid
  obtain ⟨⟨unspaced, unquoted⟩, unsigned⟩ := solid
  simp only [Scan.begin, unspaced, Bool.false_eq_true, if_false, if_neg unquoted, unsigned]

theorem read?_word (solid : ∀ c ∈ chars, endsWord c = false) (done : List Token)
    (before rest : List Char) :
    Scan.read? ⟨done, .word before⟩ (chars ++ rest) =
      Scan.read? ⟨done, .word (chars.reverse ++ before)⟩ rest := by
  induction chars generalizing before with
  | nil => rfl
  | cons c chars ih =>
    rw [List.forall_mem_cons] at solid
    have stepped : Scan.step ⟨done, .word before⟩ c = some ⟨done, .word (c :: before)⟩ := by
      simp only [Scan.step, solid.1, Bool.false_eq_true, if_false]
    rw [List.cons_append, read?_cons stepped, ih solid.2, List.reverse_cons, List.append_assoc]
    rfl

/-- What ends a word is then read as if no word had been before it. -/
theorem read?_endsWord (ends : ∀ c, rest.head? = some c → endsWord c = true) (done : List Token)
    (chars : List Char) :
    Scan.read? ⟨done, .word chars⟩ rest =
      Scan.read? ⟨.word chars.reverse :: done, .nothing⟩ rest := by
  cases rest with
  | nil => rfl
  | cons c rest =>
    have stepped : Scan.step ⟨done, .word chars⟩ c =
        some (.begin (.word chars.reverse :: done) c) := by
      simp only [Scan.step, ends c rfl, if_true]
    rw [read?_cons stepped, read?_cons rfl]

/-! ## 3. Texts -/

/-- The tokens are written in the text, with white space where it may be. -/
inductive Written : List Token → List Char → Prop
  | nil : Written [] []
  | space {c : Char} {tokens : List Token} {rest : List Char} :
      isSpace c = true → Written tokens rest → Written tokens (c :: rest)
  | sign {c : Char} {token : Token} {tokens : List Token} {rest : List Char} :
      sign? c = some token → Written tokens rest → Written (token :: tokens) (c :: rest)
  | string {body : List Char} {parts : List StringPart} {tokens : List Token} {rest : List Char} :
      StringBody body parts → Written tokens rest →
      Written (.string (StringPart.join? parts) :: tokens) ('"' :: body ++ '"' :: rest)
  | word {chars : List Char} {tokens : List Token} {rest : List Char} :
      chars ≠ [] → (∀ c ∈ chars, endsWord c = false) →
      (∀ c, rest.head? = some c → endsWord c = true) → Written tokens rest →
      Written (.word chars :: tokens) (chars ++ rest)

theorem begin_sign (isSign : sign? c = some token) (done : List Token) :
    Scan.begin done c = ⟨token :: done, .nothing⟩ := by
  have unspaced : isSpace c = false := by
    unfold sign? at isSign
    split at isSign <;> first | rfl | cases isSign
  have unquoted : c ≠ '"' := by
    rintro rfl
    cases isSign
  simp only [Scan.begin, unspaced, Bool.false_eq_true, if_false, if_neg unquoted, isSign]

theorem read?_written (written : Written tokens text) (done : List Token) :
    Scan.read? ⟨done, .nothing⟩ text = some (done.reverse ++ tokens) := by
  induction written generalizing done with
  | nil =>
    rw [List.append_nil]
    rfl
  | @space c tokens rest isSpace _ ih =>
    have begun : Scan.begin done c = ⟨done, .nothing⟩ := if_pos isSpace
    rw [read?_cons rfl, begun, ih]
  | sign isSign _ ih =>
    rw [read?_cons rfl, begin_sign isSign, ih, List.reverse_cons, List.append_assoc]
    rfl
  | @string body parts tokens rest isBody _ ih =>
    have closed : Scan.step ⟨done, .string (parts.reverse ++ [])⟩ '"' =
        some ⟨.string (StringPart.join? parts) :: done, .nothing⟩ := by
      simp only [Scan.step, if_true, List.append_nil, List.reverse_reverse]
    rw [List.cons_append, read?_cons (t := ⟨done, .string []⟩) rfl, read?_body isBody,
      read?_cons closed, ih, List.reverse_cons, List.append_assoc]
    rfl
  | @word chars tokens rest nonempty solid ends _ ih =>
    obtain ⟨c, more, rfl⟩ := List.exists_cons_of_ne_nil nonempty
    rw [List.forall_mem_cons] at solid
    rw [List.cons_append, read?_cons rfl, begin_endsWord_false solid.1, read?_word solid.2,
      read?_endsWord ends, ih, ← List.reverse_cons, List.reverse_reverse, List.reverse_cons,
      List.append_assoc]
    rfl

theorem ofChars?_of_written (written : Written tokens text) :
    Token.ofChars? text = some tokens :=
  read?_written written []

end Multipath.Json
