import Mathlib.Data.List.TakeDrop
import Multipath.Flow.Hash

/-!
# Keys in a buffer

A key may be written field by field into a buffer that is not allowed to grow. Every byte of it is
checked here, so a key that is too long for the buffer is not written at all.

Results:
1. `map_written_putAll?`: bytes go behind the ones already written, or do not fit.
2. `foldlM_putField?`: fields are written as their bytes, with a bar in front of each.
3. `keyIn?_eq`: the buffer ends with the key exactly if it has room for the whole of it.
-/

namespace Multipath

/-- A buffer of so many bytes, the first of which are written. -/
structure KeyBuffer (capacity : ℕ) where
  cells : Vector UInt8 capacity
  used : ℕ
  used_le : used ≤ capacity

namespace KeyBuffer

variable {capacity : ℕ} {b b' : KeyBuffer capacity}

def empty (capacity : ℕ) : KeyBuffer capacity :=
  ⟨Vector.replicate capacity 0, 0, Nat.zero_le capacity⟩

def written (b : KeyBuffer capacity) : List UInt8 := b.cells.toList.take b.used

/-- Writes to the next cell, if there is one. -/
def put? (b : KeyBuffer capacity) (byte : UInt8) : Option (KeyBuffer capacity) :=
  if room : b.used < capacity then some ⟨b.cells.set b.used byte, b.used + 1, room⟩ else none

def putAll? (b : KeyBuffer capacity) (bytes : List UInt8) : Option (KeyBuffer capacity) :=
  bytes.foldlM put? b

/-- Only the first field has no bar in front of it. -/
def putField? (b : KeyBuffer capacity) (field : List UInt8) : Option (KeyBuffer capacity) :=
  b.putAll? (if 0 < b.used then Flow.fieldSeparator :: field else field)

/-! ## 1. Bytes -/

theorem used_of_put? {byte : UInt8} (put : b.put? byte = some b') : b'.used = b.used + 1 := by
  unfold put? at put
  split at put
  · cases put
    rfl
  · cases put

theorem written_of_put? {byte : UInt8} (put : b.put? byte = some b') :
    b'.written = b.written ++ [byte] := by
  unfold put? at put
  split at put
  · next room =>
    cases put
    have inRange : b.used < b.cells.toList.length := by rwa [Vector.length_toList]
    rw [written, written, Vector.toList_set, List.take_succ_eq_append_getElem (by simpa using room),
      List.take_set_of_le (Nat.le_refl _), List.getElem_set_self]
  · cases put

theorem used_of_putAll? {bytes : List UInt8} (put : b.putAll? bytes = some b') :
    b'.used = b.used + bytes.length := by
  induction bytes generalizing b with
  | nil =>
    cases put
    rfl
  | cons byte rest ih =>
    rw [putAll?, List.foldlM_cons] at put
    obtain ⟨further, first, others⟩ := Option.bind_eq_some_iff.1 put
    rw [ih others, used_of_put? first, List.length_cons, Nat.add_right_comm, Nat.add_assoc]

theorem map_written_putAll? (b : KeyBuffer capacity) (bytes : List UInt8) :
    (b.putAll? bytes).map written =
      if b.used + bytes.length ≤ capacity then some (b.written ++ bytes) else none := by
  induction bytes generalizing b with
  | nil => simp [putAll?, b.used_le]
  | cons byte rest ih =>
    rw [putAll?, List.foldlM_cons]
    cases put : b.put? byte with
    | none =>
      have full : ¬ b.used < capacity := by
        intro room
        rw [put?, dif_pos room] at put
        cases put
      rw [if_neg (by rw [List.length_cons]; omega)]
      rfl
    | some further =>
      have others := ih further
      rw [used_of_put? put, written_of_put? put, List.append_assoc] at others
      rw [List.length_cons, Nat.add_comm rest.length, ← Nat.add_assoc]
      exact others

/-! ## 2. Fields -/

theorem foldlM_putField? (started : 0 < b.used) (fields : List (List UInt8)) :
    fields.foldlM putField? b = b.putAll? (fields.flatMap (Flow.fieldSeparator :: ·)) := by
  induction fields generalizing b with
  | nil => rfl
  | cons field rest ih =>
    rw [List.foldlM_cons, List.flatMap_cons, putAll?, List.foldlM_append, putField?, if_pos started]
    refine Option.bind_congr fun further put => ih ?_
    rw [used_of_putAll? put]
    exact Nat.add_pos_left started _

theorem intercalate_cons (separator field : List UInt8) (rest : List (List UInt8)) :
    separator.intercalate (field :: rest) = field ++ rest.flatMap (separator ++ ·) := by
  induction rest generalizing field with
  | nil => simp [List.intercalate]
  | cons next rest ih =>
    rw [List.intercalate_cons_cons, ih, List.flatMap_cons, List.append_assoc, List.append_assoc]

/-- A first field of some bytes is what keeps the bars between the fields. -/
theorem foldlM_putField?_empty {first : List UInt8} (nonempty : first ≠ [])
    (rest : List (List UInt8)) :
    (first :: rest).foldlM putField? (empty capacity) =
      (empty capacity).putAll? ([Flow.fieldSeparator].intercalate (first :: rest)) := by
  rw [List.foldlM_cons, intercalate_cons, putAll?, List.foldlM_append]
  refine Option.bind_congr fun further put => foldlM_putField? ?_ rest
  rw [used_of_putAll? put]
  exact Nat.add_pos_right _ (List.length_pos_iff.2 nonempty)

end KeyBuffer

/-! ## 3. Keys -/

namespace Flow

/-- The key as it stands in a buffer of this capacity. -/
def keyIn? (capacity : ℕ) (node : UInt64) (flow : Flow) : Option (List UInt8) :=
  ((flow.keyFields node).foldlM KeyBuffer.putField? (.empty capacity)).map KeyBuffer.written

theorem keyIn?_eq (capacity : ℕ) (node : UInt64) (flow : Flow) :
    flow.keyIn? capacity node =
      if (flow.key node).length ≤ capacity then some (flow.key node) else none := by
  have fields : (flow.keyFields node).foldlM KeyBuffer.putField? (.empty capacity) =
      (KeyBuffer.empty capacity).putAll? (flow.key node) :=
    KeyBuffer.foldlM_putField?_empty (List.cons_ne_nil _ _) _
  rw [keyIn?, fields, KeyBuffer.map_written_putAll?]
  simp [KeyBuffer.empty, KeyBuffer.written]

end Flow

end Multipath
