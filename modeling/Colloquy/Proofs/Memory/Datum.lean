import Colloquy.Memory
import Mathlib

/-!
# The datum of a word

The six digits of a datum in base 64 are the codes of the last chunk of its word, filled up with
blanks. So nothing counts of a word but its last chunk, and of this only the codes.

* `charCode_lt`: every code is a digit in base 64.
* `toNat_packed`: packing writes the codes as digits.
* `isLastChunk_iff`: which chunk is the last.
* `datum_packs_lastChunk`: the digits of a datum, and the words that have the same one.
-/

namespace Colloquy.Memory

/-! ## Codes -/

theorem code_lt : ∀ entry ∈ codes, entry.2 < 64 := by decide +kernel

theorem charCode_lt (c : Char) : (charCode c).toNat < 64 := by
  rw [charCode]
  cases hcode : codes.lookup c.toUpper with
  | none => decide
  | some code =>
    obtain ⟨before, behind, heq, -⟩ := List.lookup_eq_some_iff.1 hcode
    have hmem : (c.toUpper, code) ∈ codes := by rw [heq]; simp
    have hlt : code < 64 := code_lt _ hmem
    show (BitVec.ofNat 64 code).toNat < 64
    rw [BitVec.toNat_ofNat]
    omega

theorem lt_of_mem_lastCodes {word : String} {code : BitVec 64} (h : code ∈ lastCodes word) :
    code.toNat < 64 := by
  rw [lastCodes, List.rightpad, List.mem_append] at h
  rcases h with h | h
  · obtain ⟨c, -, rfl⟩ := List.mem_map.1 h
    exact charCode_lt c
  · rw [List.eq_of_mem_replicate h]
    decide

/-! ## Packing -/

theorem packed_concat (codes : List (BitVec 64)) (code : BitVec 64) :
    packed (codes ++ [code]) = (packed codes <<< 6) ||| code := by
  rw [packed, List.foldl_concat, ← packed]

theorem ofDigits_lt {codes : List (BitVec 64)} (hcodes : ∀ code ∈ codes, code.toNat < 64) :
    Nat.ofDigits 64 (codes.map BitVec.toNat).reverse < 64 ^ codes.length := by
  have hdigits : ∀ d ∈ (codes.map BitVec.toNat).reverse, d < 64 := by
    simpa only [List.mem_reverse, List.forall_mem_map] using hcodes
  have hlt := Nat.ofDigits_lt_base_pow_length (b := 64) (by decide) hdigits
  rwa [List.length_reverse, List.length_map] at hlt

/-- Codes below 64 do not overlap when they are packed, so that they are the digits of the word in
base 64. Ten of them fit into the word. -/
theorem toNat_packed {codes : List (BitVec 64)} (hcodes : ∀ code ∈ codes, code.toNat < 64)
    (hlength : codes.length ≤ 10) :
    (packed codes).toNat = Nat.ofDigits 64 (codes.map BitVec.toNat).reverse := by
  induction codes using List.reverseRecOn with
  | nil => rfl
  | append_singleton codes code ih =>
    rw [List.length_append, List.length_singleton] at hlength
    have hcodes' (c : BitVec 64) (hc : c ∈ codes) : c.toNat < 64 :=
      hcodes c (List.mem_append_left _ hc)
    have hbefore := ih hcodes' (by omega)
    have hcode : code.toNat < 2 ^ 6 := hcodes code (by simp)
    have hsmall : (packed codes).toNat < 64 ^ 9 := by
      rw [hbefore]
      exact (ofDigits_lt hcodes').trans_le (Nat.pow_le_pow_right (by decide) (by omega))
    have hshift : (packed codes <<< 6).toNat = (packed codes).toNat <<< 6 := by
      rw [BitVec.toNat_shiftLeft, Nat.shiftLeft_eq]
      omega
    rw [packed_concat, BitVec.toNat_or, hshift, ← Nat.shiftLeft_add_eq_or_of_lt hcode,
      Nat.shiftLeft_eq, hbefore, List.map_append, List.reverse_append, List.map_singleton,
      List.reverse_singleton, List.singleton_append, Nat.ofDigits_cons]
    omega

/-! ## Digits -/

/-- The six lowest digits of a number in base 64, the highest first. -/
def digits (n : Nat) : List Nat := (List.range 6).map fun i => n / 64 ^ (5 - i) % 64

theorem digits_ofDigits {ds : List Nat} (hlength : ds.length = 6) (hds : ∀ d ∈ ds, d < 64) :
    digits (Nat.ofDigits 64 ds.reverse) = ds := by
  refine List.ext_getElem ?_ fun i hi hi' => ?_
  · rw [digits, List.length_map, List.length_range, hlength]
  · have hdrop : ds.reverse.drop (5 - i) = ds[i] :: (ds.take i).reverse := by
      have htake : ds.length - (5 - i) = i + 1 := by omega
      rw [List.drop_reverse, htake, List.take_succ_eq_append_getElem hi', List.reverse_append]
      rfl
    simp only [digits, List.getElem_map, List.getElem_range]
    rw [Nat.ofDigits_div_pow_eq_ofDigits_drop _ (by decide) _ (by simpa using hds), hdrop,
      Nat.ofDigits_cons, Nat.add_mul_mod_self_left,
      Nat.mod_eq_of_lt (hds _ (List.getElem_mem hi'))]

/-! ## Last chunks -/

/-- Whether a chunk is the last of those of six that a list is cut into from the left. It is empty
only if the list is. -/
structure IsLastChunk (chunk cs : List Char) : Prop where
  front : ∃ front, cs = front ++ chunk ∧ 6 ∣ front.length
  length_le : chunk.length ≤ 6
  nil_of_nil : chunk = [] → cs = []

theorem isLastChunk_iff {chunk cs : List Char} : IsLastChunk chunk cs ↔ chunk = lastChunk cs := by
  rw [lastChunk, chunkSize]
  constructor
  · rintro ⟨⟨front, rfl, k, hk⟩, hlength, hnil⟩
    have hstart : ((front ++ chunk).length - 1) / 6 * 6 = front.length := by
      rw [List.length_append]
      cases chunk with
      | nil =>
        have hfront : front.length = 0 := by simpa using hnil rfl
        simp [hfront]
      | cons c chunk =>
        simp only [List.length_cons] at hlength ⊢
        omega
    rw [hstart, List.drop_left]
  · rintro rfl
    have hmod := Nat.div_add_mod (cs.length - 1) 6
    have hlt := Nat.mod_lt (cs.length - 1) (show 6 > 0 by decide)
    refine ⟨⟨cs.take ((cs.length - 1) / 6 * 6), (List.take_append_drop _ _).symm, ?_⟩, ?_,
      fun hnil => ?_⟩
    · rw [List.length_take_of_le (by omega)]
      exact Nat.dvd_mul_left 6 _
    · rw [List.length_drop]
      omega
    · rw [List.drop_eq_nil_iff] at hnil
      exact List.eq_nil_of_length_eq_zero (by omega)

/-- Whole chunks in front of a list that is not empty do not change its last chunk. -/
theorem lastChunk_append {front cs : List Char} (hcs : cs ≠ []) (hfront : 6 ∣ front.length) :
    lastChunk (front ++ cs) = lastChunk cs := by
  obtain ⟨⟨front', heq, hfront'⟩, hlength, hnil⟩ := isLastChunk_iff.2 (rfl : lastChunk cs = _)
  refine (isLastChunk_iff.1 ⟨⟨front ++ front', ?_, ?_⟩, hlength, fun h => ?_⟩).symm
  · rw [List.append_assoc, ← heq]
  · rw [List.length_append]
    exact Nat.dvd_add hfront hfront'
  · exact absurd (hnil h) hcs

/-! ## Data -/

theorem length_lastCodes (word : String) : (lastCodes word).length = 6 := by
  have hlength := (isLastChunk_iff.2 (rfl : lastChunk word.toList = _)).length_le
  rw [lastCodes, List.length_rightpad, List.length_map, chunkSize, Nat.max_eq_left hlength]

theorem toNat_datum (word : String) :
    (datum word).toNat = Nat.ofDigits 64 ((lastCodes word).map BitVec.toNat).reverse :=
  toNat_packed (fun _ => lt_of_mem_lastCodes) (by rw [length_lastCodes]; decide)

theorem toNat_datum_lt (word : String) : (datum word).toNat < 2 ^ 36 := by
  have hlt : (datum word).toNat < 64 ^ (lastCodes word).length := by
    rw [toNat_datum]
    exact ofDigits_lt fun _ => lt_of_mem_lastCodes
  rwa [length_lastCodes] at hlt

theorem digits_datum (word : String) :
    digits (datum word).toNat = (lastCodes word).map BitVec.toNat := by
  rw [toNat_datum, digits_ofDigits]
  · rw [List.length_map, length_lastCodes]
  · exact List.forall_mem_map.2 fun _ => lt_of_mem_lastCodes

theorem datum_eq_iff {word word' : String} :
    datum word' = datum word ↔ lastCodes word' = lastCodes word := by
  constructor
  · intro h
    have hdigits := congrArg (fun d => digits (BitVec.toNat d)) h
    simp only [digits_datum] at hdigits
    exact List.map_injective_iff.2 (fun _ _ => BitVec.eq_of_toNat_eq) hdigits
  · intro h
    rw [datum, h, datum]

/-- The six digits of a datum in base 64 are the codes of the last chunk of the word, which has one
to six characters unless the word is empty, filled up with blanks on the right. Whole chunks in
front of a word do not change its datum. Two words have the same datum if and only if the codes of
their last chunks are the same, and then they select the same slot. -/
theorem datum_packs_lastChunk (word : String) :
    (∀ chunk, IsLastChunk chunk word.toList ↔ chunk = lastChunk word.toList) ∧
    (datum word).toNat < 2 ^ 36 ∧
    digits (datum word).toNat =
      (((lastChunk word.toList).map charCode).rightpad 6 blankCode).map BitVec.toNat ∧
    (word ≠ "" → ∀ front : String, 6 ∣ front.length → datum (front ++ word) = datum word) ∧
    ∀ word', (datum word' = datum word ↔ lastCodes word' = lastCodes word) ∧
      (lastCodes word' = lastCodes word → slot word' = slot word) := by
  refine ⟨fun chunk => isLastChunk_iff, toNat_datum_lt word, digits_datum word,
    fun hword front hfront => ?_, fun word' => ⟨datum_eq_iff, fun hcodes => ?_⟩⟩
  · have hchunk : lastChunk (front ++ word).toList = lastChunk word.toList := by
      rw [String.toList_append]
      exact lastChunk_append (by simpa using hword) (by rwa [String.length_toList])
    rw [datum, lastCodes, hchunk, ← lastCodes, ← datum]
  · have hdatum := datum_eq_iff.2 hcodes
    simp only [slot, hdatum]

/-- A word of nine letters is packed like its last three. -/
theorem datum_packs_wonderful :
    datum "WONDERFUL" = datum "FUL" ∧
      digits (datum "WONDERFUL").toNat = [0o26, 0o64, 0o43, 0o60, 0o60, 0o60] ∧
      slot "wonderful" = slot "FUL" := by
  obtain ⟨-, -, hdigits, happend, hsame⟩ := datum_packs_lastChunk "FUL"
  have hdatum : datum "WONDERFUL" = datum "FUL" := happend (by decide) "WONDER" (by decide)
  have hcodes : lastCodes "wonderful" = lastCodes "FUL" := by decide +kernel
  refine ⟨hdatum, ?_, (hsame "wonderful").2 hcodes⟩
  rw [hdatum, hdigits]
  decide +kernel

end Colloquy.Memory
