import Mathlib.Data.FinEnum
import Mathlib.Data.Nat.Digits.Defs
import Mathlib.Data.UInt
import Multipath.Flow.Murmur

/-!
# What the hash keeps apart

Every step of the hash is undone by another one: an odd factor has an inverse, a rotation can be
turned back, and a word is found again from its exclusive or with a shifted copy of itself. So no
step merges two states or two blocks.

Results:
1. `scramble_injective`, `mixBlock_injective_state`, `mixBlock_injective_block`,
   `spread_injective`: the steps.
2. `hash_bijective`: for fixed bytes the hash is a permutation of the seeds.
3. `hash_inj_of_sameOutsideBlock`: for a fixed seed two byte strings that differ in one block
   only have different hashes.
4. `hash_separates`: seeds, full blocks and tails that the hash never confuses.
-/

namespace Multipath.Murmur

/-! ## 1. Steps -/

theorem rotateLeft_rotateLeft {width steps : ℕ} (positive : 0 < steps) (inWord : steps < width)
    (word : BitVec width) : (word.rotateLeft steps).rotateLeft (width - steps) = word := by
  have rest : width - steps < width := Nat.sub_lt (positive.trans inWord) positive
  ext i inRange
  simp only [BitVec.getElem_rotateLeft, Nat.mod_eq_of_lt inWord, Nat.mod_eq_of_lt rest]
  split
  · rw [dif_neg (by omega)]
    congr 1
    omega
  · rw [dif_pos (by omega)]
    congr 1
    omega

section

variable {amount : UInt32} (positive : 0 < amount.toNat) (inWord : amount.toNat < 32)
include positive inWord

theorem toBitVec_rotateLeft (word : UInt32) :
    (rotateLeft word amount).toBitVec = word.toBitVec.rotateLeft amount.toNat := by
  have rest : (32 - amount).toNat % 32 = 32 - amount.toNat % 32 := by
    rw [UInt32.toNat_sub_of_le _ _ (UInt32.le_iff_toNat_le.2 inWord.le)]
    change (32 - amount.toNat) % 32 = _
    omega
  rw [rotateLeft, BitVec.rotateLeft_def, UInt32.toBitVec_or, UInt32.toBitVec_shiftLeft,
    UInt32.toBitVec_shiftRight, BitVec.shiftLeft_eq', BitVec.ushiftRight_eq', BitVec.toNat_umod,
    BitVec.toNat_umod]
  exact congrArg (fun steps => _ ||| word.toBitVec >>> steps) rest

theorem rotateLeft_injective : Function.Injective (rotateLeft · amount) := by
  intro word other same
  have turned := congrArg UInt32.toBitVec same
  rw [toBitVec_rotateLeft positive inWord, toBitVec_rotateLeft positive inWord] at turned
  have back := congrArg (BitVec.rotateLeft · (32 - amount.toNat)) turned
  simp only [rotateLeft_rotateLeft positive inWord] at back
  exact UInt32.toBitVec_inj.1 back

/-- What two words differ in would be its own shift, and only zero is that. -/
theorem xorShift_injective : Function.Injective fun word => word ^^^ (word >>> amount) := by
  intro word other same
  have moved : (word ^^^ other) >>> amount = word ^^^ other := by
    rw [UInt32.shiftRight_xor]
    calc word >>> amount ^^^ other >>> amount
        = word ^^^ (word ^^^ word >>> amount) ^^^ other >>> amount := by
          rw [← UInt32.xor_assoc, UInt32.xor_self, UInt32.zero_xor]
      _ = word ^^^ (other ^^^ other >>> amount) ^^^ other >>> amount :=
          congrArg (word ^^^ · ^^^ _) same
      _ = word ^^^ other := by
          rw [UInt32.xor_assoc, UInt32.xor_assoc, UInt32.xor_self, UInt32.xor_zero]
  have value := congrArg UInt32.toNat moved
  rw [UInt32.toNat_shiftRight, Nat.mod_eq_of_lt inWord, Nat.shiftRight_eq_div_pow] at value
  have zero : (word ^^^ other).toNat = 0 := by
    by_contra some
    exact (Nat.div_lt_self (Nat.pos_of_ne_zero some) (Nat.one_lt_two_pow positive.ne')).ne value
  exact UInt32.xor_eq_zero_iff.1 (UInt32.toNat_inj.1 zero)

end

theorem mul_injective {factor inverse : UInt32} (unit : factor * inverse = 1) :
    Function.Injective (· * factor) := by
  intro word other same
  calc word = word * factor * inverse := by rw [UInt32.mul_assoc, unit, UInt32.mul_one]
    _ = other * factor * inverse := congrArg (· * inverse) same
    _ = other := by rw [UInt32.mul_assoc, unit, UInt32.mul_one]

theorem scramble_injective : Function.Injective scramble := by
  have first := mul_injective (show (0xcc9e2d51 : UInt32) * 0xdee13bb1 = 1 by decide)
  have second := mul_injective (show (0x1b873593 : UInt32) * 0x56ed309b = 1 by decide)
  have turn := @rotateLeft_injective 15 (by decide) (by decide)
  exact second.comp (turn.comp first)

/-- What a block step does behind the exclusive or of state and block. -/
theorem stir_injective : Function.Injective fun word => rotateLeft word 13 * 5 + 0xe6546b64 := by
  have fivefold := mul_injective (show (5 : UInt32) * 0xcccccccd = 1 by decide)
  have turn := @rotateLeft_injective 13 (by decide) (by decide)
  exact fun _ _ same => turn (fivefold ((UInt32.add_left_inj _).1 same))

theorem mixBlock_injective_state (block : UInt32) : Function.Injective (mixBlock · block) :=
  fun _ _ same => (UInt32.xor_left_inj _).1 (stir_injective same)

theorem mixBlock_injective_block (state : UInt32) : Function.Injective (mixBlock state) :=
  fun _ _ same => scramble_injective ((UInt32.xor_right_inj _).1 (stir_injective same))

theorem spread_injective : Function.Injective spread := by
  have first := mul_injective (show (0x85ebca6b : UInt32) * 0xa5cb9243 = 1 by decide)
  have second := mul_injective (show (0xc2b2ae35 : UInt32) * 0x7ed1b41d = 1 by decide)
  have fold16 := @xorShift_injective 16 (by decide) (by decide)
  have fold13 := @xorShift_injective 13 (by decide) (by decide)
  exact fold16.comp (second.comp (fold13.comp (first.comp fold16)))

/-! ## 2. Seeds -/

theorem absorb_block (state : UInt32) (a b c d : UInt8) (rest : List UInt8) :
    absorb state (a :: b :: c :: d :: rest) =
      absorb (mixBlock state (wordOfBytes [a, b, c, d])) rest := by
  rw [absorb.eq_def]

theorem absorb_tail {tail : List UInt8} (short : tail.length < 4) (state : UInt32) :
    absorb state tail = state ^^^ scramble (wordOfBytes tail) := by
  rw [absorb.eq_def]
  split
  · simp only [List.length_cons] at short
    omega
  · rfl

theorem exists_block {bytes : List UInt8} (full : 4 ≤ bytes.length) :
    ∃ a b c d rest, bytes = a :: b :: c :: d :: rest := by
  match bytes with
  | a :: b :: c :: d :: rest => exact ⟨a, b, c, d, rest, rfl⟩
  | [] | [_] | [_, _] | [_, _, _] => simp at full

theorem absorb_injective (bytes : List UInt8) : Function.Injective (absorb · bytes) := by
  intro state other same
  change absorb state bytes = absorb other bytes at same
  by_cases full : 4 ≤ bytes.length
  · obtain ⟨a, b, c, d, rest, rfl⟩ := exists_block full
    rw [absorb_block, absorb_block] at same
    exact mixBlock_injective_state _ (absorb_injective rest same)
  · have short := Nat.lt_of_not_le full
    rw [absorb_tail short, absorb_tail short] at same
    exact (UInt32.xor_left_inj _).1 same
termination_by bytes.length

theorem hash_injective (bytes : List UInt8) : Function.Injective (hash · bytes) :=
  fun _ _ same => absorb_injective bytes ((UInt32.xor_left_inj _).1 (spread_injective same))

theorem hash_bijective (bytes : List UInt8) : Function.Bijective (hash · bytes) :=
  (hash_injective bytes).bijective_of_finite

/-! ## 3. Blocks -/

theorem forall_mem_map_toNat (bytes : List UInt8) :
    ∀ digit ∈ bytes.map UInt8.toNat, digit < 256 := by
  intro digit listed
  obtain ⟨byte, -, rfl⟩ := List.mem_map.1 listed
  exact byte.toNat_lt

/-- The bytes of a word are its digits to the base 256. -/
theorem toNat_wordOfBytes {bytes : List UInt8} (short : bytes.length ≤ 4) :
    (wordOfBytes bytes).toNat = Nat.ofDigits 256 (bytes.map UInt8.toNat) := by
  induction bytes with
  | nil => rfl
  | cons byte rest ih =>
    have shortRest : rest.length ≤ 3 := Nat.le_of_succ_le_succ short
    have value := ih (shortRest.trans (by decide))
    have small : (wordOfBytes rest).toNat < 256 ^ 3 := by
      have bound := Nat.ofDigits_lt_base_pow_length (by decide) (forall_mem_map_toNat rest)
      rw [← value, List.length_map] at bound
      exact bound.trans_le (Nat.pow_le_pow_right (by decide) shortRest)
    have shifted : (wordOfBytes rest <<< 8).toNat = (wordOfBytes rest).toNat <<< 8 := by
      rw [UInt32.toNat_shiftLeft]
      change (wordOfBytes rest).toNat <<< 8 % 2 ^ 32 = _
      rw [Nat.shiftLeft_eq]
      omega
    rw [List.map_cons, Nat.ofDigits_cons, ← value, wordOfBytes, List.foldr_cons, ← wordOfBytes,
      UInt32.toNat_or, shifted, UInt8.toNat_toUInt32,
      ← Nat.shiftLeft_add_eq_or_of_lt byte.toNat_lt, Nat.shiftLeft_eq]
    omega

theorem wordOfBytes_inj {bytes other : List UInt8} (short : bytes.length ≤ 4)
    (sameLength : bytes.length = other.length) (same : wordOfBytes bytes = wordOfBytes other) :
    bytes = other := by
  have values := congrArg UInt32.toNat same
  rw [toNat_wordOfBytes short, toNat_wordOfBytes (sameLength ▸ short)] at values
  have digits := Nat.ofDigits_inj_of_len_eq (by decide) (by simpa using sameLength)
    (forall_mem_map_toNat bytes) (forall_mem_map_toNat other) values
  exact List.map_injective_iff.2 (fun _ _ => UInt8.toNat_inj.1) digits

/-- Two byte strings of one length that differ in one block at most. The bytes behind the last
full block are a block as well. -/
structure SameOutsideBlock (index : ℕ) (bytes other : List UInt8) : Prop where
  length : bytes.length = other.length
  before : bytes.take (4 * index) = other.take (4 * index)
  after : bytes.drop (4 * index + 4) = other.drop (4 * index + 4)

theorem absorb_tail_inj {bytes other : List UInt8} (short : bytes.length < 4)
    (sameLength : bytes.length = other.length) {state : UInt32}
    (same : absorb state bytes = absorb state other) : bytes = other := by
  rw [absorb_tail short, absorb_tail (sameLength ▸ short)] at same
  exact wordOfBytes_inj short.le sameLength (scramble_injective ((UInt32.xor_right_inj _).1 same))

/-- Blocks that are the same lead from one state to one state. The block that differs leads to
two states, and whatever follows keeps them apart. -/
theorem SameOutsideBlock.absorb_inj {index : ℕ} {bytes other : List UInt8}
    (outside : SameOutsideBlock index bytes other) {state : UInt32}
    (same : absorb state bytes = absorb state other) : bytes = other := by
  induction index generalizing state bytes other with
  | zero =>
    by_cases short : bytes.length < 4
    · exact absorb_tail_inj short outside.length same
    obtain ⟨a, b, c, d, rest, rfl⟩ := exists_block (Nat.le_of_not_lt short)
    obtain ⟨a', b', c', d', rest', rfl⟩ := exists_block (outside.length ▸ Nat.le_of_not_lt short)
    obtain rfl : rest = rest' := outside.after
    rw [absorb_block, absorb_block] at same
    have words := mixBlock_injective_block _ (absorb_injective _ same)
    have block : [a, b, c, d] = [a', b', c', d'] := wordOfBytes_inj (Nat.le_refl 4) rfl words
    exact congrArg (· ++ rest) block
  | succ index ih =>
    by_cases short : bytes.length < 4
    · exact absorb_tail_inj short outside.length same
    obtain ⟨a, b, c, d, rest, rfl⟩ := exists_block (Nat.le_of_not_lt short)
    obtain ⟨a', b', c', d', rest', rfl⟩ := exists_block (outside.length ▸ Nat.le_of_not_lt short)
    have front : a :: b :: c :: d :: rest.take (4 * index) =
        a' :: b' :: c' :: d' :: rest'.take (4 * index) := outside.before
    simp only [List.cons.injEq] at front
    obtain ⟨rfl, rfl, rfl, rfl, before⟩ := front
    rw [absorb_block, absorb_block] at same
    rw [ih ⟨by simpa using outside.length, before, outside.after⟩ same]

theorem hash_inj_of_sameOutsideBlock {index : ℕ} {bytes other : List UInt8}
    (outside : SameOutsideBlock index bytes other) {seed : UInt32}
    (same : hash seed bytes = hash seed other) : bytes = other := by
  have absorbed := spread_injective same
  rw [outside.length] at absorbed
  exact outside.absorb_inj ((UInt32.xor_left_inj _).1 absorbed)

/-! ## 4. Seeds, blocks and tails -/

/-- Behind full blocks a new one starts. It ends with the bytes, or four bytes later. -/
theorem sameOutsideBlock_append {front block other back : List UInt8} (aligned : 4 ∣ front.length)
    (sameLength : block.length = other.length)
    (whole : block.length = 4 ∨ block.length < 4 ∧ back = []) :
    SameOutsideBlock (front.length / 4) (front ++ (block ++ back)) (front ++ (other ++ back)) := by
  have start : 4 * (front.length / 4) = front.length := Nat.mul_div_cancel' aligned
  refine ⟨by simp only [List.length_append, sameLength], ?_, ?_⟩
  · rw [start, List.take_left, List.take_left]
  · rw [start, List.drop_length_add_append, List.drop_length_add_append]
    rcases whole with full | ⟨short, rfl⟩
    · rw [List.drop_left' full, List.drop_left' (sameLength ▸ full)]
    · rw [List.append_nil, List.append_nil, List.drop_eq_nil_of_le short.le,
        List.drop_eq_nil_of_le (sameLength ▸ short.le)]

/-- Under two seeds no byte string has one hash. Under one seed the hash changes with any change
inside one of the full blocks, wherever it is, and with any change inside the one to three bytes
behind the last of them. -/
theorem hash_separates :
    (∀ (bytes : List UInt8) (seed other : UInt32), seed ≠ other →
      hash seed bytes ≠ hash other bytes) ∧
    (∀ (seed : UInt32) (front block other back : List UInt8), 4 ∣ front.length →
      block.length = 4 → other.length = 4 → block ≠ other →
      hash seed (front ++ (block ++ back)) ≠ hash seed (front ++ (other ++ back))) ∧
    ∀ (seed : UInt32) (front tail other : List UInt8), 4 ∣ front.length → tail.length < 4 →
      tail.length = other.length → tail ≠ other →
      hash seed (front ++ tail) ≠ hash seed (front ++ other) := by
  refine ⟨fun bytes seed other apart same => apart (hash_injective bytes same), ?_, ?_⟩
  · intro seed front block other back aligned full fullOther apart same
    have outside : SameOutsideBlock _ (front ++ (block ++ back)) (front ++ (other ++ back)) :=
      sameOutsideBlock_append aligned (full.trans fullOther.symm) (Or.inl full)
    have blocks := List.append_cancel_left (hash_inj_of_sameOutsideBlock outside same)
    exact apart (List.append_cancel_right blocks)
  · intro seed front tail other aligned short sameLength apart same
    have outside := sameOutsideBlock_append aligned sameLength (Or.inr ⟨short, rfl⟩)
    rw [List.append_nil, List.append_nil] at outside
    exact apart (List.append_cancel_left (hash_inj_of_sameOutsideBlock outside same))

/-- Eleven bytes: two full blocks and a tail of three. -/
theorem elevenBytes_separated :
    hash 7 [0, 1, 2, 3, 4, 5, 6, 7, 8, 9, 10] ≠ hash 8 [0, 1, 2, 3, 4, 5, 6, 7, 8, 9, 10] ∧
    hash 7 [0, 1, 2, 3, 4, 5, 6, 7, 8, 9, 10] ≠ hash 7 [0, 1, 2, 3, 7, 6, 5, 4, 8, 9, 10] ∧
    hash 7 [0, 1, 2, 3, 4, 5, 6, 7, 8, 9, 10] ≠ hash 7 [0, 1, 2, 3, 4, 5, 6, 7, 8, 9, 11] := by
  obtain ⟨seeds, blocks, tails⟩ := hash_separates
  exact ⟨seeds _ 7 8 (by decide),
    blocks 7 [0, 1, 2, 3] [4, 5, 6, 7] [7, 6, 5, 4] [8, 9, 10] (by decide) rfl rfl (by decide),
    tails 7 [0, 1, 2, 3, 4, 5, 6, 7] [8, 9, 10] [8, 9, 11] (by decide) (by decide) rfl (by decide)⟩

end Multipath.Murmur
