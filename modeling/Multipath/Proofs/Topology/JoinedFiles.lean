import Multipath.Proofs.Topology.PropertyLines
import Multipath.Topology.Blueprint

/-!
# Files in parts

A file may be read in parts, provided that it is cut behind a line feed. The later part overrides
the earlier one key by key, and its lines are numbered on. So lines that say nothing may stand
anywhere, and lines change places freely unless they have one key.

Results:
1. `ofText_append_of_error`, `ofText_append_of_later_error`, `ofText_append_of_ok`: two parts.
2. `Reordered.ofText_eq_ok_iff`: silent lines do not matter, nor does the order of the others unless
   they have one key.
3. `ofText_joined`: both, and the blueprints that are read from such files.
-/

namespace Multipath

open Text

namespace Properties

open PropertyLine

variable {first second text other : String} {known further : Properties} {fault : IllFormedLine}
  {cut others : List (List Char)} {line next : List Char}

/-! ## 1. Two parts -/

theorem lines_toList_append (ended : Ended first.toList) :
    lines (first ++ second).toList = lines first.toList ++ lines second.toList := by
  rw [String.toList_append, lines_append ended]

theorem ofText_append_of_error (ended : Ended first.toList)
    (refused : ofText first = .error fault) : ofText (first ++ second) = .error fault := by
  rw [ofText_eq_error_iff] at refused ⊢
  obtain ⟨earlier, line, later, split, wellFormed, illFormed⟩ := refused
  refine ⟨earlier, line, later ++ lines second.toList, ?_, wellFormed, illFormed⟩
  rw [lines_toList_append ended, split, List.append_assoc, List.cons_append]

/-- The lines of the first part are counted as well. -/
theorem ofText_append_of_later_error (ended : Ended first.toList) (read : ofText first = .ok known)
    (refused : ofText second = .error fault) :
    ofText (first ++ second) =
      .error ⟨fault.number + (lines first.toList).length, fault.content⟩ := by
  rw [ofText_eq_error_iff] at refused ⊢
  obtain ⟨earlier, line, later, split, wellFormed, illFormed, rfl⟩ := refused
  refine ⟨lines first.toList ++ earlier, line, later, ?_, ?_, illFormed, ?_⟩
  · rw [lines_toList_append ended, split, List.append_assoc]
  · exact List.forall_mem_append.2 ⟨(ofText_eq_ok_iff.1 read).1, wellFormed⟩
  · dsimp only
    rw [List.length_append, Nat.add_right_comm, Nat.add_comm earlier.length]

theorem getElem?_foldl_record_known (key : String) :
    (cut.foldl record known)[key]? = ((cut.foldl record ∅)[key]?).or known[key]? := by
  refine Option.ext fun value => ?_
  have absent : (cut.foldl record ∅)[key]? = none ↔
      ∀ line ∈ cut, ∀ value, ¬ Assigns line key value := by
    rw [Option.eq_none_iff_forall_ne_some]
    simp only [Ne, getElem?_foldl_record_empty, ← not_exists, exists_lastAssigns_iff]
    simp only [not_exists, not_and]
  rw [getElem?_foldl_record, Option.or_eq_some_iff, getElem?_foldl_record_empty, absent]

theorem ofText_append_of_ok (ended : Ended first.toList) (read : ofText first = .ok known)
    (readFurther : ofText second = .ok further) :
    ∃ joined, ofText (first ++ second) = .ok joined ∧
      ∀ key : String, joined[key]? = further[key]?.or known[key]? := by
  obtain ⟨wellFormed, rfl⟩ := ofText_eq_ok_iff.1 read
  obtain ⟨wellFormedFurther, rfl⟩ := ofText_eq_ok_iff.1 readFurther
  refine ⟨_, ofText_eq_ok_iff.2 ⟨?_, rfl⟩, fun key => ?_⟩
  · rw [lines_toList_append ended]
    exact List.forall_mem_append.2 ⟨wellFormed, wellFormedFurther⟩
  · rw [lines_toList_append ended, List.foldl_append, getElem?_foldl_record_known]

/-! ## 2. Lines in another order -/

/-- The lines are those of the other file, with silent lines put in and lines that have no key in
common interchanged. What stands around a line is no part of it. -/
inductive Reordered : List (List Char) → List (List Char) → Prop
  | refl (cut : List (List Char)) : Reordered cut cut
  | retrim {line other : List Char} (same : trim line = trim other)
      (before after : List (List Char)) :
      Reordered (before ++ line :: after) (before ++ other :: after)
  | insert {line : List Char} (quiet : ¬ Speaks line) (before after : List (List Char)) :
      Reordered (before ++ after) (before ++ line :: after)
  | swap {line next : List Char}
      (apart : ∀ key value further, ¬ (Assigns line key value ∧ Assigns next key further))
      (before after : List (List Char)) :
      Reordered (before ++ line :: next :: after) (before ++ next :: line :: after)
  | trans {cut middle others : List (List Char)} (first : Reordered cut middle)
      (further : Reordered middle others) : Reordered cut others

theorem record_of_not_speaks (quiet : ¬ Speaks line) : record known line = known := by
  unfold record
  rw [ofChars_of_not_speaks quiet]

theorem record_comm
    (apart : ∀ key value further, ¬ (Assigns line key value ∧ Assigns next key further)) :
    record (record known line) next = record (record known next) line := by
  simp only [← ofChars_eq_entry_iff] at apart
  unfold record
  cases read : ofChars line with
  | silent => rfl
  | illFormed => rfl
  | entry key value =>
    cases readNext : ofChars next with
    | silent => rfl
    | illFormed => rfl
    | entry keyNext valueNext =>
      have different : key ≠ keyNext := by
        rintro rfl
        exact apart key value valueNext ⟨read, readNext⟩
      dsimp only
      refine Std.ExtTreeMap.ext_getElem? fun asked => ?_
      simp only [Std.ExtTreeMap.getElem?_insert, Std.LawfulEqCmp.compare_eq_iff_eq]
      split
      · next here =>
        rw [if_neg fun same => different (same.trans here.symm)]
      · rfl

/-- Neither what is ill-formed nor what is recorded depends on the order. -/
theorem Reordered.recorded (reordered : Reordered cut others) :
    ((∀ line ∈ cut, WellFormed line) ↔ ∀ line ∈ others, WellFormed line) ∧
      cut.foldl record ∅ = others.foldl record ∅ := by
  induction reordered with
  | refl cut => exact ⟨Iff.rfl, rfl⟩
  | @retrim line other same before after =>
    have read : ofChars line = ofChars other := by
      unfold ofChars
      rw [same]
    have formed : WellFormed line ↔ WellFormed other := by
      rw [← not_iff_not, ← ofChars_eq_illFormed_iff, ← ofChars_eq_illFormed_iff, read]
    have recorded (known : Properties) : record known line = record known other := by
      unfold record
      rw [read]
    simp only [List.forall_mem_append, List.forall_mem_cons, formed, List.foldl_append,
      List.foldl_cons, recorded, and_self]
  | @insert line quiet before after =>
    have formed : WellFormed line := fun speaks => absurd speaks quiet
    simp only [List.forall_mem_append, List.forall_mem_cons, formed, true_and, List.foldl_append,
      List.foldl_cons, record_of_not_speaks quiet, and_self]
  | swap apart before after =>
    simp only [List.forall_mem_append, List.forall_mem_cons, List.foldl_append, List.foldl_cons,
      record_comm apart, and_true]
    exact and_congr_right fun _ => and_left_comm
  | trans _ _ ihFirst ihFurther =>
    exact ⟨ihFirst.1.trans ihFurther.1, ihFirst.2.trans ihFurther.2⟩

theorem Reordered.ofText_eq_ok_iff
    (reordered : Reordered (lines text.toList) (lines other.toList)) :
    ofText text = .ok known ↔ ofText other = .ok known := by
  rw [Properties.ofText_eq_ok_iff, Properties.ofText_eq_ok_iff, reordered.recorded.1,
    reordered.recorded.2]

/-! ## 3. Both -/

/-- Two texts one after the other are read as one, key by key and line by line, if the first is
ended. And where a text is read, silent lines and another order of lines with different keys change
neither what is recorded nor the blueprint, or the error, that comes of it. -/
theorem ofText_joined :
    (∀ first second : String, Ended first.toList →
      (∀ fault, ofText first = .error fault → ofText (first ++ second) = .error fault) ∧
      (∀ known fault, ofText first = .ok known → ofText second = .error fault →
        ofText (first ++ second) =
          .error ⟨fault.number + (lines first.toList).length, fault.content⟩) ∧
      ∀ known further, ofText first = .ok known → ofText second = .ok further →
        ∃ joined, ofText (first ++ second) = .ok joined ∧
          ∀ key : String, joined[key]? = further[key]?.or known[key]?) ∧
    ∀ (text other : String) (known : Properties),
      Reordered (lines text.toList) (lines other.toList) → ofText text = .ok known →
        ofText other = .ok known ∧ Blueprint.ofText other = Blueprint.ofText text := by
  refine ⟨fun first second ended => ⟨fun fault => ofText_append_of_error ended,
    fun known fault => ofText_append_of_later_error ended,
    fun known further => ofText_append_of_ok ended⟩, fun text other known reordered read => ?_⟩
  have readOther := reordered.ofText_eq_ok_iff.1 read
  refine ⟨readOther, ?_⟩
  unfold Blueprint.ofText Properties.read
  rw [read, readOther]

def countsText : String := "num_nodes = 3\r\n\nservers=set(2)\n"

def moreCountsText : String := "# one more\nnum_nodes=\"4\""

def brokenCountsText : String := "# one more\r\n num_nodes 4\n"

def shuffledText : String := "# counts = 2\n\nservers=set(2)\r\nnum_nodes = 3\r"

/-- The later number of nodes counts, and the ill-formed line is the fifth one of both texts. In the
shuffled text the two entries have changed places, and the last line has no ending. -/
theorem countsText_joined :
    (∃ joined, ofText (countsText ++ moreCountsText) = .ok joined ∧
      joined["num_nodes"]? = some "4" ∧ joined["servers"]? = some "set(2)") ∧
    ofText (countsText ++ brokenCountsText) = .error ⟨5, " num_nodes 4"⟩ ∧
    ofText (brokenCountsText ++ countsText) = .error ⟨2, " num_nodes 4"⟩ ∧
    ∃ known, ofText countsText = .ok known ∧ ofText shuffledText = .ok known ∧
      Blueprint.ofText shuffledText = Blueprint.ofText countsText := by
  obtain ⟨joins, reorders⟩ := ofText_joined
  have ended : Ended countsText.toList := by decide +kernel
  have endedBroken : Ended brokenCountsText.toList := by decide +kernel
  have refused : ofText brokenCountsText = .error ⟨2, " num_nodes 4"⟩ :=
    ofText_eq_error_iff.2
      ⟨["# one more".toList], _, [], by decide +kernel, by decide +kernel, by decide +kernel, rfl⟩
  have read : ofText countsText = .ok ((lines countsText.toList).foldl record ∅) :=
    ofText_eq_ok_iff.2 ⟨by decide +kernel, rfl⟩
  have readMore : ofText moreCountsText = .ok ((lines moreCountsText.toList).foldl record ∅) :=
    ofText_eq_ok_iff.2 ⟨by decide +kernel, rfl⟩
  obtain ⟨-, ofLaterError, -⟩ := joins countsText brokenCountsText ended
  obtain ⟨joined, readJoined, values⟩ :=
    (joins countsText moreCountsText ended).2.2 _ _ read readMore
  have reordered : Reordered (lines countsText.toList) (lines shuffledText.toList) := by
    have cut : lines countsText.toList =
        ["num_nodes = 3".toList, [], "servers=set(2)".toList] := by decide +kernel
    have shuffled : lines shuffledText.toList =
        ["# counts = 2".toList, [], "servers=set(2)".toList, "num_nodes = 3\r".toList] := by
      decide +kernel
    have nodes : Assigns "num_nodes = 3".toList "num_nodes" "3" :=
      ofChars_eq_entry_iff.1 (by decide +kernel)
    have servers : Assigns "servers=set(2)".toList "servers" "set(2)" :=
      ofChars_eq_entry_iff.1 (by decide +kernel)
    rw [cut, shuffled]
    refine (Reordered.swap ?_ [] _).trans <| (Reordered.swap ?_ [[]] []).trans <|
      (Reordered.retrim ?_ [[], _] []).trans (Reordered.insert ?_ [] _)
    · rintro key value further ⟨-, empty⟩
      exact absurd empty.speaks (by decide +kernel)
    · rintro key value further ⟨first, second⟩
      have same := (first.key_eq nodes).symm.trans (second.key_eq servers)
      exact absurd same (by decide)
    · decide +kernel
    · decide +kernel
  refine ⟨⟨joined, readJoined, ?_, ?_⟩, ofLaterError _ _ read refused,
    (joins brokenCountsText countsText endedBroken).1 _ refused,
    _, read, reorders _ _ _ reordered read⟩
  · rw [values]
    decide +kernel
  · rw [values]
    decide +kernel

end Properties

end Multipath
