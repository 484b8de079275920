import Multipath.Proofs.Topology.PropertyLines
import Multipath.Topology.Blueprint

/-!
# Files of plain entries

The reader of a properties file drops blanks and quotes, skips comments and cuts at line feeds and
equals signs. `Plain` text has nothing of all that, so entries of plain text are read as written.

Results:
1. `assigns_of_plain`: a line.
2. `ofText_renderEntries`, `require_of_mem`: a file, and its entries one by one.
-/

namespace Multipath

/-- Text in which the reader finds nothing to drop, to skip or to cut at. -/
def Text.Plain (text : List Char) : Prop :=
  ∀ c ∈ text, isBlank c = false ∧ c ≠ '=' ∧ c ≠ '"' ∧ c ≠ '#'

instance (text : List Char) : Decidable (Text.Plain text) :=
  List.decidableBAll _ text

namespace Text.Plain

variable {text other : List Char}

theorem append (plain : Plain text) (plainOther : Plain other) : Plain (text ++ other) :=
  List.forall_mem_append.2 ⟨plain, plainOther⟩

theorem trim (plain : Plain text) : trim text = text := trim_eq_self fun c present =>
  (plain c present).1

/-- A line with a key and a value has no blank. -/
theorem solid_line (plainKey : Plain text) (plainValue : Plain other) :
    ∀ c ∈ text ++ '=' :: other, isBlank c = false :=
  List.forall_mem_append.2 ⟨fun c present => (plainKey c present).1,
    List.forall_mem_cons.2 ⟨by decide, fun c present => (plainValue c present).1⟩⟩

end Text.Plain

/-! ## 1. Lines -/

open Text

theorem PropertyLine.assigns_of_plain {key value : List Char} (plainKey : Plain key)
    (plainValue : Plain value) (named : key ≠ []) :
    Assigns (key ++ '=' :: value) (String.ofList key) (String.ofList value) := by
  have solid : Text.trim (key ++ '=' :: value) = key ++ '=' :: value :=
    trim_eq_self (plainKey.solid_line plainValue)
  have speaks : Speaks (key ++ '=' :: value) := by
    obtain ⟨first, rest, rfl⟩ := List.exists_cons_of_ne_nil named
    unfold Speaks
    rw [solid]
    simpa using (plainKey first List.mem_cons_self).2.2.2
  have unquoted : value.filter (· ≠ '"') = value :=
    List.filter_eq_self.2 fun c present => by simpa using (plainValue c present).2.2.1
  refine ⟨speaks, key, value, ⟨rfl, ?_, ?_⟩, ?_, ?_⟩
  · exact fun present => (plainKey _ present).2.1 rfl
  · exact fun present => (plainValue _ present).2.1 rfl
  · rw [plainKey.trim]
  · rw [plainValue.trim, unquoted]

/-! ## 2. Files -/

namespace Properties

/-- The text of a file with these entries, a line each. -/
def renderEntries (entries : List (String × List Char)) : List Char :=
  entries.flatMap fun entry => Blueprint.renderEntry entry.1 entry.2

def entryOf (entry : String × List Char) : String × String := (entry.1, String.ofList entry.2)

/-- The properties with these entries, of which the last for a key counts. -/
def ofEntries (entries : List (String × List Char)) : Properties :=
  (∅ : Properties).insertMany (entries.map entryOf)

/-- The entries have names and are plain. -/
def PlainEntries (entries : List (String × List Char)) : Prop :=
  ∀ entry ∈ entries, entry.1.toList ≠ [] ∧ Plain entry.1.toList ∧ Plain entry.2

variable {entries : List (String × List Char)}

/-- The line of an entry. -/
def lineOf (entry : String × List Char) : List Char := entry.1.toList ++ '=' :: entry.2

theorem PlainEntries.assigns (plain : PlainEntries entries) {entry : String × List Char}
    (listed : entry ∈ entries) :
    PropertyLine.Assigns (lineOf entry) (entryOf entry).1 (entryOf entry).2 := by
  obtain ⟨named, plainKey, plainValue⟩ := plain entry listed
  have assigns := PropertyLine.assigns_of_plain plainKey plainValue named
  rwa [String.ofList_toList] at assigns

theorem foldl_record_map_lineOf (plain : PlainEntries entries) (known : Properties) :
    (entries.map lineOf).foldl record known = known.insertMany (entries.map entryOf) := by
  -- what is known grows along the file, so anything may be known before
  induction entries generalizing known with
  | nil => simp
  | cons entry rest ih =>
    have read := PropertyLine.ofChars_eq_entry_iff.2 (plain.assigns List.mem_cons_self)
    have recorded : record known (lineOf entry) =
        known.insert (entryOf entry).1 (entryOf entry).2 := by
      unfold record
      rw [read]
    rw [List.map_cons, List.foldl_cons, recorded, List.map_cons, Std.ExtTreeMap.insertMany_cons]
    exact ih (fun other listed => plain other (List.mem_cons_of_mem _ listed)) _

theorem lined_renderEntries (plain : PlainEntries entries) :
    Lined (renderEntries entries) (entries.map lineOf) := by
  have solid : ∀ line ∈ entries.map lineOf, ∀ c ∈ line, isBlank c = false := by
    intro line listed
    obtain ⟨entry, inEntries, rfl⟩ := List.mem_map.1 listed
    obtain ⟨-, plainKey, plainValue⟩ := plain entry inEntries
    exact plainKey.solid_line plainValue
  have written : renderEntries entries = (entries.map lineOf).flatMap (· ++ ['\n']) := by
    unfold renderEntries Blueprint.renderEntry lineOf
    rw [List.flatMap_map]
  rw [written]
  refine lined_flatMap ?_ ?_
  · intro line listed present
    exact absurd (solid line listed _ present) (by decide)
  · intro line listed ending
    exact absurd (solid line listed _ (List.mem_of_getLast? ending)) (by decide)

theorem ofText_renderEntries (plain : PlainEntries entries) :
    ofText (String.ofList (renderEntries entries)) = .ok (ofEntries entries) := by
  refine ofText_eq_ok_iff.2 ?_
  rw [String.toList_ofList, (lined_renderEntries plain).lines_eq]
  refine ⟨fun line listed => ?_, foldl_record_map_lineOf plain ∅⟩
  obtain ⟨entry, inEntries, rfl⟩ := List.mem_map.1 listed
  exact (plain.assigns inEntries).wellFormed

/-- Entries with different keys are all found. -/
theorem require_of_mem (distinct : (entries.map Prod.fst).Nodup) {key : String} {value : List Char}
    (listed : (key, value) ∈ entries) :
    (ofEntries entries).require key = .ok (String.ofList value) := by
  have apart : (entries.map entryOf).Pairwise fun a b => ¬ compare a.1 b.1 = .eq := by
    rw [List.pairwise_map]
    exact (List.pairwise_map.1 distinct).imp fun different same =>
      different (Std.LawfulEqCmp.eq_of_compare same)
  have found : (ofEntries entries)[key]? = some (String.ofList value) :=
    Std.ExtTreeMap.getElem?_insertMany_list_of_mem Std.ReflCmp.compare_self apart
      (List.mem_map_of_mem listed)
  unfold require
  rw [found]

end Properties

end Multipath
