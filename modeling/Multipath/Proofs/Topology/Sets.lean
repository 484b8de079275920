import Multipath.Proofs.Topology.Rejected
import Multipath.Proofs.Topology.Respelled

/-!
# Sets in a file

A set is written as its items between brackets, with commas between them, and blanks may stand
around it and around each item. What is read are texts without blanks at their ends, which may
have anything in them but a comma. The one list that cannot be written is that of an empty text
alone, since brackets with nothing between them have no item.

Results:
1. `readSet_eq_ok_iff`: what is read as a set.
2. `setItems_of_readSet`, `readSet_padded`: which lists are read, and from which texts.
3. `readIdSet_eq_ok_iff`: sets of ids.
4. `readSet_exact`: all of this together, and that no list of ids in a file repeats one.
-/

namespace Multipath.Blueprint

open Text

/-! ## 1. Brackets and items -/

/-- The items between the brackets, where there is anything but blanks. -/
def itemsOf (body : List Char) : List String :=
  (pieces ',' body).map fun piece => String.ofList (trim piece)

variable {value : String} {items : List String}

theorem readSet_eq_ok_iff :
    readSet value = .ok items ↔ ∃ body, trim value.toList = "set(".toList ++ body ++ [')'] ∧
      (Blanks body ∧ items = [] ∨ ¬ Blanks body ∧ items = itemsOf body ∧ items.Nodup) := by
  simp only [← setBody?_eq_some_iff]
  unfold readSet
  dsimp only
  cases setBody? (trim value.toList) with
  | none => exact iff_of_false nofun fun ⟨_, bracketed, _⟩ => nomatch bracketed
  | some body =>
    simp only [Option.some.injEq, exists_eq_left']
    split
    · next nothing =>
      have blank : Blanks body := trim_eq_nil_iff.1 nothing
      simp [blank, eq_comm]
    · next something =>
      have solid : ¬ Blanks body := mt trim_eq_nil_iff.2 something
      simp only [solid, false_and, false_or, not_false_eq_true, true_and, itemsOf]
      split
      · next distinct =>
        rw [Except.ok.injEq]
        constructor
        · rintro rfl
          exact ⟨rfl, distinct⟩
        · rintro ⟨rfl, -⟩
          rfl
      · next repeated =>
        refine iff_of_false nofun ?_
        rintro ⟨rfl, distinct⟩
        exact repeated distinct

/-! ## 2. Lists that are read -/

/-- The texts are the items of a set. If the only one were empty, its brackets would hold nothing. -/
structure SetItems (items : List String) : Prop where
  distinct : items.Nodup
  uncut : ∀ item ∈ items, ',' ∉ item.toList
  trimmed : ∀ item ∈ items, trim item.toList = item.toList
  written : items ≠ [""]

theorem setItems_of_readSet (read : readSet value = .ok items) : SetItems items := by
  obtain ⟨body, -, ⟨-, rfl⟩ | ⟨solid, rfl, distinct⟩⟩ := readSet_eq_ok_iff.1 read
  · exact ⟨List.nodup_nil, nofun, nofun, nofun⟩
  · refine ⟨distinct, fun item listed => ?_, fun item listed => ?_, fun alone => ?_⟩
    · obtain ⟨piece, isPiece, rfl⟩ := List.mem_map.1 listed
      rw [String.toList_ofList]
      exact fun present => notMem_of_mem_pieces isPiece (mem_of_mem_trim present)
    · obtain ⟨piece, -, rfl⟩ := List.mem_map.1 listed
      rw [String.toList_ofList, trim_trim]
    · -- an empty item alone would be the whole body, and that is not blank
      obtain ⟨piece, cut, empty⟩ := List.map_eq_singleton_iff.1 alone
      have joined := join_pieces ',' body
      rw [cut] at joined
      have whole : piece = body := joined
      refine solid (trim_eq_nil_iff.1 ?_)
      rw [← whole, ← String.toList_ofList (l := trim piece), empty]
      rfl

theorem trim_brackets (body : List Char) :
    trim ("set(".toList ++ body ++ [')']) = "set(".toList ++ body ++ [')'] := by
  refine trim_eq_iff.2 ⟨Padded.refl _, fun c first => ?_, fun c last => ?_⟩
  · cases first
    decide
  · rw [List.getLast?_concat] at last
    cases last
    decide

/-- Each text is its item with blanks around it. -/
def PaddedItems (items : List String) (padded : List (List Char)) : Prop :=
  List.Forall₂ (fun item text => Padded item.toList text) items padded

theorem PaddedItems.uncut {padded : List (List Char)} (around : PaddedItems items padded)
    (uncut : ∀ item ∈ items, ',' ∉ item.toList) : ∀ text ∈ padded, ',' ∉ text := by
  induction around with
  | nil => nofun
  | cons first _ ih =>
    rw [List.forall_mem_cons] at uncut ⊢
    exact ⟨first.notMem (by decide) uncut.1, ih uncut.2⟩

theorem PaddedItems.map_trim {padded : List (List Char)} (around : PaddedItems items padded)
    (trimmed : ∀ item ∈ items, trim item.toList = item.toList) :
    padded.map (fun text => String.ofList (trim text)) = items := by
  induction around with
  | nil => rfl
  | cons first _ ih =>
    rw [List.forall_mem_cons] at trimmed
    rw [List.map_cons, ih trimmed.2, first.trim_eq, trimmed.1, String.ofList_toList]

theorem SetItems.itemsOf_join {padded : List (List Char)} (found : SetItems items)
    (around : PaddedItems items padded) (nonempty : padded ≠ []) :
    itemsOf (join ',' padded) = items := by
  unfold itemsOf
  rw [pieces_join nonempty (around.uncut found.uncut), around.map_trim found.trimmed]

/-- Blanks around a set and around its items are dropped. -/
theorem readSet_padded {padded : List (List Char)} (found : SetItems items)
    (around : PaddedItems items padded) (aroundSet : Padded (renderSet padded) value.toList) :
    readSet value = .ok items := by
  refine readSet_eq_ok_iff.2 ⟨join ',' padded, ?_, ?_⟩
  · rw [aroundSet.trim_eq]
    exact trim_brackets _
  · by_cases nothing : padded = []
    · subst nothing
      cases around
      exact Or.inl ⟨blanks_nil, rfl⟩
    · have read := found.itemsOf_join around nothing
      refine Or.inr ⟨fun blank => found.written ?_, read.symm, found.distinct⟩
      -- a blank body has no comma, so its only item is empty
      have uncut : ',' ∉ join ',' padded := blank.notMem (by decide)
      rw [← read, itemsOf, pieces_of_notMem uncut, List.map_singleton, trim_eq_nil_iff.2 blank]

theorem readSet_renderSet_items (found : SetItems items) :
    readSet (String.ofList (renderSet (items.map String.toList))) = .ok items := by
  refine readSet_padded found ?_ (by rw [String.toList_ofList]; exact Padded.refl _)
  unfold PaddedItems
  rw [List.forall₂_map_right_iff, List.forall₂_same]
  exact fun item _ => Padded.refl _

/-! ## 3. Sets of ids -/

/-- The item is a numeral of this value, which has 64 bits. -/
def Spells (item : String) (id : ℕ) : Prop := Numeral item.toList id ∧ id < Word.wordBound

/-- Ids are read in the order of the items. -/
theorem readIdSet_eq_ok_iff {ids : List ℕ} :
    readIdSet value = .ok ids ↔
      ∃ items, readSet value = .ok items ∧ List.Forall₂ Spells items ids ∧ ids.Nodup := by
  unfold readIdSet
  rw [bind_eq_ok_iff]
  refine exists_congr fun items => and_congr_right fun read => ?_
  have spelled {numbers : List ℕ} : items.mapM readInteger = .ok numbers ↔
      List.Forall₂ Spells items numbers := by
    refine mapM_eq_ok_iff_forall₂ fun item listed id => ?_
    rw [readInteger_eq_ok_iff, (setItems_of_readSet read).trimmed item listed, Spells]
  simp only [bind_eq_ok_iff, spelled]
  constructor
  · rintro ⟨numbers, spell, checked⟩
    split at checked
    · next distinct =>
      cases checked
      exact ⟨spell, distinct⟩
    · cases checked
  · rintro ⟨spell, distinct⟩
    exact ⟨ids, spell, if_pos distinct⟩

/-! ## 4. Files -/

/-- Ids that two spellings have in common are found while a list is read, so none is left for the
check of the roles. -/
theorem ofText_ne_repeated (text : String) (role : Role) (node : ℕ) :
    Topology.ofText text ≠ .error (.repeated role node) := by
  intro failed
  unfold Topology.ofText at failed
  rcases bind_eq_error_iff.1 failed with unread | ⟨b, read, rejected⟩
  · obtain ⟨cause, -, other⟩ := mapError_eq_error_iff.1 unread
    cases other
  · have distinct := nodup_of_ofText (mapError_eq_ok_iff.1 read)
    cases (Topology.ofBlueprint_eq_error_iff.1 rejected).violates with
    | repeated twice =>
      refine List.nodup_iff_forall_not_duplicate.1 (distinct _ ?_) node twice
      cases role <;> simp [listOf]

/-- What is read as a set is a list of distinct texts without commas and without blanks at their
ends, and it is read again from its rendering. Every such list but that of an empty text alone is
read, whatever blanks stand around it and around its items. Of these, the lists of numerals with
distinct values are sets of ids, in their order, and so no file lists an id twice for one role. -/
theorem readSet_exact :
    (∀ value items, readSet value = .ok items → SetItems items ∧
      readSet (String.ofList (renderSet (items.map String.toList))) = .ok items) ∧
    (∀ items padded value, SetItems items → PaddedItems items padded →
      Padded (renderSet padded) value.toList → readSet value = .ok items) ∧
    (∀ value ids, readIdSet value = .ok ids ↔
      ∃ items, readSet value = .ok items ∧ List.Forall₂ Spells items ids ∧ ids.Nodup) ∧
    ∀ text role node, Topology.ofText text ≠ .error (.repeated role node) := by
  refine ⟨fun value items read => ?_, fun items padded value found around aroundSet => ?_,
    fun value ids => readIdSet_eq_ok_iff, ofText_ne_repeated⟩
  · have found := setItems_of_readSet read
    exact ⟨found, readSet_renderSet_items found⟩
  · exact readSet_padded found around aroundSet

/-- Items may have brackets, inner blanks or nothing in them, and a line separator is a blank. One
id in two spellings makes two items and no set of ids. -/
theorem readSet_nested :
    readSet " set( a(b c) ,,set(d\u2028)\u00a0" = .ok ["a(b c)", "", "set(d"] ∧
    readSet "set(a(b c),,set(d)" = .ok ["a(b c)", "", "set(d"] ∧
    readIdSet "set(+07,\t12)" = .ok [7, 12] ∧
    readSet "set(+07,7)" = .ok ["+07", "7"] ∧
    readIdSet "set(+07,7)" = .error (.duplicateEntry "set(+07,7)") := by
  have blanks (text : List Char) (isBlanks : text.all isBlank = true) : Blanks text :=
    List.all_eq_true.1 isBlanks
  have found : SetItems ["a(b c)", "", "set(d"] :=
    ⟨by decide, by decide, by decide +kernel, by decide⟩
  have padded := readSet_exact.2.1 ["a(b c)", "", "set(d"]
    [" a(b c) ".toList, [], "set(d\u2028".toList] " set( a(b c) ,,set(d\u2028)\u00a0" found
    (.cons ⟨[' '], [' '], rfl, blanks _ (by decide), blanks _ (by decide)⟩
      (.cons (Padded.refl _)
        (.cons ⟨[], ['\u2028'], rfl, blanks_nil, blanks _ (by decide)⟩ .nil)))
    ⟨[' '], ['\u00a0'], rfl, blanks _ (by decide), blanks _ (by decide)⟩
  have spelled : List.Forall₂ Spells ["+07", "12"] [7, 12] :=
    .cons ⟨.plus ⟨by decide, List.all_eq_true.1 (by decide)⟩, by decide⟩
      (.cons ⟨.unsigned ⟨by decide, List.all_eq_true.1 (by decide)⟩, by decide⟩ .nil)
  refine ⟨padded, (readSet_exact.1 _ _ padded).2, ?_, by decide +kernel, by decide +kernel⟩
  exact (readSet_exact.2.2.1 _ _).2 ⟨["+07", "12"], by decide +kernel, spelled, by decide⟩

end Multipath.Blueprint
