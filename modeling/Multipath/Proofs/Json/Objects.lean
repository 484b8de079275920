import Mathlib.Data.Int.Notation
import Mathlib.Data.List.TakeWhile
import Multipath.Json.Reader
import Multipath.Proofs.Json.Tokens
import Multipath.Proofs.Text.Rejoined

/-!
# Objects of integers

An integer is a word of digits without zeros in front, with a minus sign before them when it is
negative. Between the brackets of an object stand its members, with commas between them, and each of
them is its key, a colon and its value.

Results:
1. `ofWord?_integerText`: how integers are read. Only those that are not negative have their value.
2. `ofTokens?_objectTokens`: the members of an object are read in their order.
3. `written_compact`: an object may be written without any white space.
-/

namespace Multipath.Json

open Text

/-! ## 1. Integers -/

def integerText : ℤ → List Char
  | .ofNat number => writeNat number
  | .negSucc number => '-' :: writeNat (number + 1)

def integerValue : ℤ → Value
  | .ofNat number => .natural number
  | .negSucc number => .numeral ('-' :: writeNat (number + 1))

theorem integerValue_injective : Function.Injective integerValue := by
  intro integer other same
  cases integer with
  | ofNat number =>
    cases other with
    | ofNat otherNumber =>
      injection same with same
      rw [same]
    | negSucc otherNumber => cases same
  | negSucc number =>
    cases other with
    | ofNat otherNumber => cases same
    | negSucc otherNumber =>
      injection same with same
      rw [Nat.succ.inj (writeNat_injective (List.cons.inj same).2)]

theorem integerText_ne_nil (integer : ℤ) : integerText integer ≠ [] := by
  cases integer with
  | ofNat number => exact writeNat_ne_nil number
  | negSucc number => exact List.cons_ne_nil _ _

theorem endsWord_of_isDigit {c : Char} (digit : c.isDigit = true) : endsWord c = false := by
  refine Bool.eq_false_iff.2 fun ends => ?_
  rw [endsWord, Bool.or_eq_true, Bool.or_eq_true, decide_eq_true_eq] at ends
  rcases ends with (space | rfl) | isSign
  · simp only [isSpace, Bool.or_eq_true, decide_eq_true_eq] at space
    rcases space with ((rfl | rfl) | rfl) | rfl <;> cases digit
  · cases digit
  · unfold sign? at isSign
    split at isSign <;> first | cases digit | cases isSign

theorem endsWord_of_mem_integerText {integer : ℤ} {c : Char} (present : c ∈ integerText integer) :
    endsWord c = false := by
  cases integer with
  | ofNat number => exact endsWord_of_isDigit (isDigit_of_mem_writeNat present)
  | negSucc number =>
    cases present with
    | head => rfl
    | tail _ inDigits => exact endsWord_of_isDigit (isDigit_of_mem_writeNat inDigits)

theorem allDigits_writeNat (number : ℕ) : allDigits (writeNat number) = true := by
  unfold allDigits
  rw [Bool.and_eq_true, Bool.not_eq_true', List.isEmpty_eq_false_iff, List.all_eq_true]
  exact ⟨writeNat_ne_nil number, fun _ => isDigit_of_mem_writeNat⟩

theorem isWhole_writeNat (number : ℕ) : isWhole (writeNat number) = true := by
  unfold isWhole
  rw [allDigits_writeNat, Bool.true_and, Bool.or_eq_true, beq_iff_eq, bne_iff_ne]
  by_cases leading : (writeNat number).head? = some '0'
  · exact Or.inl (writeNat_eq_zero_of_head? leading)
  · exact Or.inr leading

theorem isNumeral_negative (number : ℕ) : isNumeral ('-' :: writeNat number) = true := by
  have digits : ∀ c ∈ writeNat number, c.isDigit = true := fun _ => isDigit_of_mem_writeNat
  simp only [isNumeral, List.head?_cons, if_true, List.tail_cons]
  rw [List.takeWhile_eq_self_iff.2 digits, List.dropWhile_eq_nil_iff.2 digits, isWhole_writeNat]
  rfl

theorem ofWord?_integerText (integer : ℤ) :
    Value.ofWord? (integerText integer) = some (integerValue integer) := by
  unfold Value.ofWord?
  cases integer with
  | ofNat number =>
    have whole := isWhole_writeNat number
    have other (word : List Char) (unlike : isWhole word = false) : writeNat number ≠ word := by
      rintro rfl
      exact Bool.false_ne_true (unlike.symm.trans whole)
    rw [integerText, if_neg (other _ (by decide)), if_neg (other _ (by decide)),
      if_neg (other _ (by decide)), if_pos whole, writeNat, Nat.ofDigitChars_ten_toDigits]
    rfl
  | negSucc number =>
    have other (word : List Char) (unlike : word.head? ≠ some '-') :
        '-' :: writeNat (number + 1) ≠ word := by
      rintro rfl
      exact unlike rfl
    have signed : isWhole ('-' :: writeNat (number + 1)) = false := rfl
    rw [integerText, if_neg (other _ (by decide)), if_neg (other _ (by decide)),
      if_neg (other _ (by decide)), signed, if_neg Bool.false_ne_true,
      if_pos (isNumeral_negative _)]
    rfl

/-! ## 2. Members -/

def memberTokens (member : String × ℤ) : List Token :=
  [.string (some member.1), .colon, .word (integerText member.2)]

def objectTokens (members : List (String × ℤ)) : List Token :=
  .openObject :: [Token.comma].intercalate (members.map memberTokens) ++ [.closeObject]

def memberValue (member : String × ℤ) : Option String × Value :=
  (some member.1, integerValue member.2)

variable {members : List (String × ℤ)}

theorem foldlM_memberTokens (member : String × ℤ) (outer : List Container)
    (before : List (Option String × Value)) :
    (memberTokens member).foldlM Reading.step (.awaitKey outer before) =
      some (.complete (.object before (some member.1) :: outer) (integerValue member.2)) := by
  simp only [memberTokens, List.foldlM_cons, List.foldlM_nil, Reading.step, Reading.readKey,
    Reading.beginValue, ofWord?_integerText, Option.map_some, Option.bind_eq_bind, Option.bind_some]
  rfl

theorem foldlM_objectTokens (nonempty : members ≠ []) (outer : List Container)
    (before : List (Option String × Value)) :
    ([Token.comma].intercalate (members.map memberTokens) ++ [Token.closeObject]).foldlM
        Reading.step (.awaitKey outer before) =
      some (.complete outer (.object (before.reverse ++ members.map memberValue))) := by
  induction members generalizing before with
  | nil => exact absurd rfl nonempty
  | cons member rest ih =>
    rw [List.map_cons, List.map_cons]
    cases rest with
    | nil =>
      rw [List.map_nil, List.intercalate_singleton, List.foldlM_append, foldlM_memberTokens]
      show some (Reading.complete outer (.object (memberValue member :: before).reverse)) = _
      rw [List.reverse_cons]
      rfl
    | cons next rest =>
      rw [List.map_cons, List.intercalate_cons_cons, List.append_assoc, List.append_assoc,
        List.foldlM_append, foldlM_memberTokens, ← List.map_cons]
      have further := ih (List.cons_ne_nil _ _) (memberValue member :: before)
      rw [List.reverse_cons, List.append_assoc] at further
      exact further

theorem ofTokens?_objectTokens (members : List (String × ℤ)) :
    Value.ofTokens? (objectTokens members) = some (.object (members.map memberValue)) := by
  unfold Value.ofTokens? objectTokens
  cases members with
  | nil => rfl
  | cons member rest =>
    have read : ((Token.openObject :: [Token.comma].intercalate ((member :: rest).map memberTokens)
        ++ [Token.closeObject]).foldlM Reading.step (.awaitValue [])) =
          some (.complete [] (.object ((member :: rest).map memberValue))) :=
      foldlM_objectTokens (List.cons_ne_nil _ _) [] []
    rw [read]

theorem ofText?_of_written {text : String} (written : Written (objectTokens members) text.toList) :
    Value.ofText? text = some (.object (members.map memberValue)) := by
  rw [Value.ofText?, ofChars?_of_written written]
  exact ofTokens?_objectTokens members

/-! ## 3. Compact texts -/

def compactMember (member : String × ℤ) : List Char :=
  '"' :: member.1.toList ++ '"' :: ':' :: integerText member.2

theorem written_member {member : String × ℤ} {tokens : List Token} {rest : List Char}
    (plain : ∀ c ∈ member.1.toList, Plain c)
    (ends : ∀ c, rest.head? = some c → endsWord c = true) (later : Written tokens rest) :
    Written (memberTokens member ++ tokens) (compactMember member ++ rest) := by
  have key : StringPart.join? (member.1.toList.map StringPart.char) = some member.1 := by
    rw [StringPart.join?, joinFrom?_chars, List.reverse_nil, List.nil_append, String.ofList_toList]
  have written := Written.string (stringBody_plain plain) <| Written.sign (c := ':') rfl <|
    Written.word (integerText_ne_nil member.2) (fun _ => endsWord_of_mem_integerText) ends later
  rw [key] at written
  simpa only [compactMember, memberTokens, List.cons_append, List.append_assoc, List.nil_append]
    using written

theorem written_members (plain : ∀ member ∈ members, ∀ c ∈ member.1.toList, Plain c) :
    Written ([Token.comma].intercalate (members.map memberTokens) ++ [.closeObject])
      ([','].intercalate (members.map compactMember) ++ ['}']) := by
  have closed : Written [.closeObject] ['}'] := .sign rfl .nil
  induction members with
  | nil => exact closed
  | cons member rest ih =>
    rw [List.forall_mem_cons] at plain
    cases rest with
    | nil =>
      rw [List.map_singleton, List.map_singleton, List.intercalate_singleton,
        List.intercalate_singleton]
      refine written_member plain.1 (fun c first => ?_) closed
      cases first
      rfl
    | cons next rest =>
      simp only [List.map_cons, List.intercalate_cons_cons, List.append_assoc]
      refine written_member plain.1 (fun c first => ?_) (.sign rfl (ih plain.2))
      cases first
      rfl

theorem written_compact (plain : ∀ member ∈ members, ∀ c ∈ member.1.toList, Plain c) :
    Written (objectTokens members)
      (['{'] ++ [','].intercalate (members.map compactMember) ++ ['}']) :=
  .sign rfl (written_members plain)

end Multipath.Json
