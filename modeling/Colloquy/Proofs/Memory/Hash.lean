import Colloquy.Memory
import Mathlib

/-!
# The hash of a datum

The hash is the middle of the square of a datum and never leaves the range of its words, for up to
71 bits. Only the lower 35 bits of the datum count. Two bits of it are a place in the list of the
four recollections.

* `magnitude_congr`: data with the same lower bits have the same magnitude.
* `exists_hash?`: the hash as a number.
* `hash?_middle_of_square`: for which numbers of bits there is a hash, what it depends on, and the
  slot as a place.
-/

namespace Colloquy.Memory

/-! ## The middle of the square -/

theorem toNat_magnitude (d : BitVec 64) : (magnitude d).toNat = d.toNat % 2 ^ 35 := by
  have hmask : (0o377777777777#64).toNat = 2 ^ 35 - 1 := rfl
  rw [magnitude, BitVec.toNat_setWidth, BitVec.toNat_and, hmask, Nat.and_two_pow_sub_one_eq_mod]
  omega

/-- Data with the same lower 35 bits have the same magnitude. -/
theorem magnitude_congr {d d' : BitVec 64} (h : ∀ i < 35, d'.getLsbD i = d.getLsbD i) :
    magnitude d' = magnitude d := by
  apply BitVec.eq_of_toNat_eq
  rw [toNat_magnitude, toNat_magnitude]
  refine Nat.eq_of_testBit_eq fun i => ?_
  rw [Nat.testBit_mod_two_pow, Nat.testBit_mod_two_pow]
  by_cases hi : i < 35
  · have hbit : d'.toNat.testBit i = d.toNat.testBit i := h i hi
    rw [hbit]
  · simp [hi]

theorem toNat_square (d : BitVec 64) :
    (magnitude d * magnitude d).toNat = (d.toNat % 2 ^ 35) ^ 2 := by
  have hle := toNat_magnitude_le d
  have hsquare : (magnitude d).toNat * (magnitude d).toNat < 2 ^ 128 :=
    (Nat.mul_le_mul hle hle).trans_lt (by decide)
  rw [BitVec.toNat_mul, Nat.mod_eq_of_lt hsquare, toNat_magnitude, Nat.pow_two]

/-- The bits that are dropped are those below the middle of the square, less half of the bits that
are taken. -/
theorem toNat_places {n : BitVec 32} (hn : n.toNat ≤ 71) :
    (35#32 - n / 2#32).toNat = 35 - n.toNat / 2 := by
  rw [BitVec.toNat_sub_of_le (half_le_iff.2 hn), BitVec.toNat_udiv]
  rfl

theorem toNat_mask {n : Nat} (hn : n < 128) : (1#128 <<< n - 1#128).toNat = 2 ^ n - 1 := by
  have hlt : 2 ^ n < 2 ^ 128 := Nat.pow_lt_pow_right (by decide) hn
  have hone : (1#128).toNat = 1 := rfl
  rw [BitVec.toNat_sub_of_le (one_le_bound hn), BitVec.toNat_shiftLeft, hone, Nat.shiftLeft_eq,
    Nat.one_mul, Nat.mod_eq_of_lt hlt]

/-- Up to 71 bits the hash is the middle of the square, of which 64 bits are kept. -/
theorem exists_hash? (d : BitVec 64) {n : BitVec 32} (hn : n.toNat ≤ 71) :
    ∃ h, hash? d n = some h ∧
      h.toNat = (d.toNat % 2 ^ 35) ^ 2 / 2 ^ (35 - n.toNat / 2) % 2 ^ n.toNat % 2 ^ 64 := by
  refine ⟨_, hash?_eq_some d hn, ?_⟩
  rw [BitVec.toNat_setWidth, BitVec.toNat_and, toNat_mask (by omega),
    Nat.and_two_pow_sub_one_eq_mod, BitVec.toNat_ushiftRight, toNat_square, toNat_places hn,
    Nat.shiftRight_eq_div_pow]

/-! ## The hash -/

/-- For up to 71 bits no operation of the hash leaves its range, and the hash is the middle of the
square of the lower 35 bits of the datum; more bits than that cannot be taken. No other bits of the
datum count. The hash of two bits is a place in every list of four recollections, and the slot of a
word is that place. -/
theorem hash?_middle_of_square (d : BitVec 64) (n : BitVec 32) :
    (n.toNat ≤ 71 → ∃ h, hash? d n = some h ∧
      h.toNat = (d.toNat % 2 ^ 35) ^ 2 / 2 ^ (35 - n.toNat / 2) % 2 ^ n.toNat % 2 ^ 64) ∧
    (71 < n.toNat → hash? d n = none) ∧
    (∀ d' : BitVec 64, (∀ i < 35, d'.getLsbD i = d.getLsbD i) → hash? d' n = hash? d n) ∧
    ∀ word, ∃ h, hash? (datum word) 2#32 = some h ∧ h.toNat < 4 ∧ ∀ memory : MemoryRule,
      memory.recollections[h.toNat]? = some (memory.recollections.get (slot word)) := by
  refine ⟨exists_hash? d, hash?_eq_none d, fun d' hbits => ?_, fun word => ?_⟩
  · rw [hash?, magnitude_congr hbits, ← hash?]
  · obtain ⟨h, hhash, hslot⟩ := hash?_datum word
    refine ⟨h, hhash, toNat_lt_of_hash?_two hhash, fun memory => ?_⟩
    rw [hslot]
    exact Vector.getElem?_eq_getElem (slot word).isLt

/-- As many bits as can be taken, of a datum whose sign bit does not count. -/
theorem hash?_middle_of_ones :
    (71#32).toNat ≤ 71 ∧ (∃ h, hash? (BitVec.allOnes 64) 71#32 = some h ∧
      h.toNat = (2 ^ 35 - 1) ^ 2 % 2 ^ 64) ∧
    hash? (datum "KIND" ||| 1#64 <<< 35) 2#32 = hash? (datum "KIND") 2#32 := by
  have hn : (71#32).toNat ≤ 71 := by decide
  obtain ⟨h, hhash, hvalue⟩ := (hash?_middle_of_square (BitVec.allOnes 64) 71#32).1 hn
  refine ⟨hn, ⟨h, hhash, hvalue.trans (by decide +kernel)⟩, ?_⟩
  refine (hash?_middle_of_square (datum "KIND") 2#32).2.2.1 _ ?_
  decide +kernel

end Colloquy.Memory
