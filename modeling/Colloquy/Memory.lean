import Colloquy.Pattern.Search

/-!
# What is kept in mind

Whenever the trigger keyword of the memory rule is used on a clause, the last word of the clause
selects one of the four recollections. If its pattern matches, its filled template is kept as a
sentence, unless that is empty.

The last chunk of up to six characters of a word is packed into a 36-bit datum, six bits for each
character, and the middle bits of the square of the datum select the recollection. Both are
computed in machine words, whose operations have no result where they leave the range of the word:
where a difference is negative, a product is too large, or a shift goes as far as the word is wide.

* `Memory.datum`: the packed last chunk of a word.
* `Memory.hash?`: bits from the middle of the square of a datum, whose sign bit is ignored.
* `Memory.hash?_eq_some`, `Memory.hash?_eq_none`: there is a hash of up to 71 bits and none of more.
* `Memory.slot`: the slot of a word.
* `MemoryRule.memory?`: what is kept in mind when a keyword is used.
-/

namespace Colloquy

/-! ## Checked arithmetic -/

namespace Checked

variable {w : Nat}

/-- The difference of two words, unless it is negative. -/
def sub (a b : BitVec w) : Option (BitVec w) := if a.usubOverflow b then none else some (a - b)

/-- The product of two words, unless it is too large. -/
def mul (a b : BitVec w) : Option (BitVec w) := if a.umulOverflow b then none else some (a * b)

/-- A word shifted to the left, unless that is as far as it is wide. -/
def shiftLeft (a : BitVec w) (places : BitVec 32) : Option (BitVec w) :=
  if places.toNat < w then some (a <<< places.toNat) else none

/-- A word shifted to the right, unless that is as far as it is wide. -/
def shiftRight (a : BitVec w) (places : BitVec 32) : Option (BitVec w) :=
  if places.toNat < w then some (a >>> places.toNat) else none

theorem sub_eq_some {a b : BitVec w} (h : b.toNat ≤ a.toNat) : sub a b = some (a - b) := by
  simp [sub, BitVec.usubOverflow, h]

theorem sub_eq_none {a b : BitVec w} (h : a.toNat < b.toNat) : sub a b = none := by
  simp [sub, BitVec.usubOverflow, h]

theorem mul_eq_some {a b : BitVec w} (h : a.umulOverflow b = false) : mul a b = some (a * b) := by
  simp [mul, h]

theorem shiftLeft_eq_some {a : BitVec w} {places : BitVec 32} (h : places.toNat < w) :
    shiftLeft a places = some (a <<< places.toNat) := if_pos h

theorem shiftRight_eq_some {a : BitVec w} {places : BitVec 32} (h : places.toNat < w) :
    shiftRight a places = some (a >>> places.toNat) := if_pos h

end Checked

namespace Memory

/-! ## Character codes -/

/-- The characters that have a code, in runs of consecutive codes. -/
def codeRuns : List (Nat × String) :=
  [(0o00, "0123456789"), (0o13, "='"), (0o20, "+ABCDEFGHI"), (0o33, ".)"), (0o40, "-JKLMNOPQR"),
   (0o53, "$*"), (0o60, " /STUVWXYZ"), (0o73, ",(")]

/-- The characters that have a code, each with its code. -/
def codes : List (Char × Nat) := codeRuns.flatMap fun (start, chars) => chars.toList.zipIdx start

/-- The code of a blank, which also stands for every character without a code. -/
def blankCode : BitVec 64 := 0o60#64

/-- The code of a character. ASCII letters of either case have the same code. -/
def charCode (c : Char) : BitVec 64 :=
  match codes.lookup c.toUpper with
  | some code => .ofNat 64 code
  | none => blankCode

/-! ## Packing -/

/-- The number of characters that a datum holds. -/
def chunkSize : Nat := 6

/-- The last chunk of a list that is cut into chunks from the left. -/
def lastChunk (cs : List Char) : List Char := cs.drop ((cs.length - 1) / chunkSize * chunkSize)

/-- Codes packed into a word, the first one in the highest place. -/
def packed (codes : List (BitVec 64)) : BitVec 64 :=
  codes.foldl (fun word code => (word <<< 6) ||| code) 0#64

/-- The codes of the last chunk of a word, filled up with blanks on the right. -/
def lastCodes (word : String) : List (BitVec 64) :=
  ((lastChunk word.toList).map charCode).rightpad chunkSize blankCode

/-- The last chunk of a word, filled up with blanks and packed. -/
def datum (word : String) : BitVec 64 := packed (lastCodes word)

/-! ## Hashing -/

/-- The lower 35 bits of a datum, in a word that has room for their square. -/
def magnitude (d : BitVec 64) : BitVec 128 := (d &&& 0o377777777777#64).setWidth 128

/-- `n` bits from the middle of the square of a datum, of which only the magnitude counts. The
square is taken in 128 bits, and of the result 64 bits are kept. There is none if an operation
leaves its range. -/
def hash? (d : BitVec 64) (n : BitVec 32) : Option (BitVec 64) := do
  let square ← Checked.mul (magnitude d) (magnitude d)
  let places ← Checked.sub 35#32 (n / 2#32)
  let middle ← Checked.shiftRight square places
  let bound ← Checked.shiftLeft 1#128 n
  let mask ← Checked.sub bound 1#128
  return (middle &&& mask).setWidth 64

theorem toNat_magnitude_le (d : BitVec 64) : (magnitude d).toNat ≤ 0o377777777777 := by
  rw [magnitude, BitVec.toNat_setWidth, BitVec.toNat_and]
  exact Nat.le_trans (Nat.mod_le _ _) Nat.and_le_right

theorem umulOverflow_magnitude (d : BitVec 64) :
    (magnitude d).umulOverflow (magnitude d) = false := by
  have hle := toNat_magnitude_le d
  refine decide_eq_false (Nat.not_le_of_lt ?_)
  exact Nat.lt_of_le_of_lt (Nat.mul_le_mul hle hle) (by decide)

theorem half_le_iff {n : BitVec 32} : (n / 2#32).toNat ≤ (35#32).toNat ↔ n.toNat ≤ 71 := by
  have hhalf : (n / 2#32).toNat = n.toNat / 2 := BitVec.toNat_udiv
  have hmiddle : (35#32).toNat = 35 := rfl
  rw [hhalf, hmiddle]
  omega

theorem places_lt {n : BitVec 32} (hn : n.toNat ≤ 71) : (35#32 - n / 2#32).toNat < 128 := by
  rw [BitVec.toNat_sub_of_le (half_le_iff.2 hn)]
  exact Nat.lt_of_le_of_lt (Nat.sub_le _ _) (by decide)

theorem one_le_bound {n : Nat} (hn : n < 128) : (1#128).toNat ≤ (1#128 <<< n).toNat := by
  have hone : (1#128).toNat = 1 := rfl
  rw [BitVec.toNat_shiftLeft, hone, Nat.shiftLeft_eq, Nat.one_mul,
    Nat.mod_eq_of_lt (Nat.pow_lt_pow_right (by decide) hn)]
  exact Nat.two_pow_pos n

/-- Up to 71 bits no operation of the hash leaves its range. -/
theorem hash?_eq_some (d : BitVec 64) {n : BitVec 32} (hn : n.toNat ≤ 71) :
    hash? d n = some (((magnitude d * magnitude d) >>> (35#32 - n / 2#32).toNat &&&
      (1#128 <<< n.toNat - 1#128)).setWidth 64) := by
  have hn' : n.toNat < 128 := by omega
  simp only [hash?, Checked.mul_eq_some (umulOverflow_magnitude d),
    Checked.sub_eq_some (half_le_iff.2 hn), Checked.shiftRight_eq_some (places_lt hn),
    Checked.shiftLeft_eq_some hn', Checked.sub_eq_some (one_le_bound hn'), Option.bind_eq_bind,
    Option.bind_some, Option.pure_def]

/-- With more bits than that, there would be fewer than no places to drop. -/
theorem hash?_eq_none (d : BitVec 64) {n : BitVec 32} (hn : 71 < n.toNat) : hash? d n = none := by
  have hhalf : (35#32).toNat < (n / 2#32).toNat :=
    Nat.lt_of_not_le fun hle => Nat.not_le_of_lt hn (half_le_iff.1 hle)
  simp only [hash?, Checked.sub_eq_none hhalf, Option.bind_eq_bind, Option.bind_none,
    Option.bind_fun_none]

/-! ## Slots -/

theorem isSome_hash?_two (d : BitVec 64) : (hash? d 2#32).isSome = true := by
  rw [hash?_eq_some d (by decide)]
  rfl

theorem toNat_lt_of_hash?_two {d h : BitVec 64} (hd : hash? d 2#32 = some h) : h.toNat < 4 := by
  have hmask : (1#128 <<< (2#32).toNat - 1#128).toNat = 3 := rfl
  rw [hash?_eq_some d (by decide)] at hd
  obtain rfl := Option.some.inj hd
  rw [BitVec.toNat_setWidth, BitVec.toNat_and, hmask]
  exact Nat.lt_succ_of_le (Nat.le_trans (Nat.mod_le _ _) Nat.and_le_right)

/-- The memory slot that a word selects: two bits of the hash of its datum. -/
def slot (word : String) : Fin 4 where
  val := ((hash? (datum word) 2#32).get (isSome_hash?_two _)).toNat
  isLt := toNat_lt_of_hash?_two (Option.some_get _).symm

/-- The slot of a word is the hash of its datum. -/
theorem hash?_datum (word : String) :
    ∃ h, hash? (datum word) 2#32 = some h ∧ h.toNat = (slot word).val :=
  ⟨_, (Option.some_get (isSome_hash?_two _)).symm, rfl⟩

end Memory

/-! ## Recollections -/

namespace MemoryRule

/-- What a recollection makes of the words of a clause. -/
def recollect? (carries : String → String → Bool) (r : Recollection) (words : List String) :
    Option String :=
  match r.pattern.captures? carries words with
  | none => none
  | some captures =>
    let memory := Text.spoken (r.template.fill captures)
    if memory = "" then none else some memory

/-- What is kept in mind when a keyword is used on the words of a clause. -/
def memory? (carries : String → String → Bool) (memory : MemoryRule) (keyword : String)
    (words : List String) : Option String :=
  if keyword = memory.trigger then
    words.getLast?.bind fun last =>
      recollect? carries (memory.recollections.get (Memory.slot last)) words
  else none

end MemoryRule

end Colloquy
