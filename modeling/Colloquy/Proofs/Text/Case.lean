import Colloquy.Proofs.Text.CaseTable

/-!
# Upper and lower case

The upper case of a character is never empty, consists of capital letters unless it is the
character itself, and is its own upper case. The lower case of a character that stands alone is
never empty, is its own lower case, and is a divider only if the character is one. The case tables
are checked once, each as a whole; also that the code points that the table of upper case leads to
are disjoint from the blanks and the other characters of ASCII.

* `eq_or_isCapital_of_mem_upperChar`: what the upper case of a character consists of.
* `upper_upper`: the upper case of a text is its own upper case.
* `lowerChar_of_mem_lowerChar`: the lower case of a character is its own lower case.
* `divides_of_mem_lowerChar`: lower case keeps dividers and makes none.
-/

namespace Colloquy.Text

/-! ## The table of upper case -/

/-- The characters that the upper case of others consists of. -/
def capitals : List Char := images upperExpansions upperRuns

/-- The blanks, and the characters of ASCII that are not capital letters. -/
def plainCodes : List Nat :=
  List.range 0x41 ++ (List.range 0x25).map (0x5B + ·) ++
    [0x85, 0xA0, 0x1680, 0x2000, 0x2001, 0x2002, 0x2003, 0x2004, 0x2005, 0x2006, 0x2007, 0x2008,
      0x2009, 0x200A, 0x2028, 0x2029, 0x202F, 0x205F, 0x3000]

theorem upperTable : CaseTable Char.toUpper plainCodes upperExpansions upperRuns where
  ordered := by decide +kernel
  apart := by decide +kernel
  expands := by decide +kernel
  shifts := by decide +kernel
  fixes := by decide +kernel
  settles := by decide +kernel
  avoids := by decide +kernel

theorem toNat_mem_plainCodes_of_isBlank {c : Char} (h : isBlank c = true) :
    c.toNat ∈ plainCodes := by
  simp only [isBlank, Bool.or_eq_true, Bool.and_eq_true, decide_eq_true_eq, beq_iff_eq,
    Char.le_def, UInt32.le_iff_toNat_le, Char.toNat_val, ← Char.toNat_inj, Char.reduceToNat] at h
  simp only [plainCodes, List.mem_append, List.mem_range, List.mem_map, List.mem_cons,
    List.not_mem_nil, or_false]
  omega

/-! ## Upper case -/

theorem upperChar_eq_mapped (c : Char) : upperChar c = mapped upperExpansions upperRuns c :=
  CaseTable.ite_eq_mapped upperTable c

/-- The upper case of a character is the character itself or consists of capitals. -/
theorem eq_or_subset_capitals (c : Char) :
    upperChar c = [c] ∨ upperChar c ≠ [] ∧ upperChar c ⊆ capitals := by
  rw [upperChar_eq_mapped]
  exact CaseTable.mapped_eq_or_subset_images upperTable c

/-- Digits and signs have no upper case of their own. -/
theorem upperChar_of_lt {c : Char} (h : c.toNat < 0x61) : upperChar c = [c] := by
  have hsmall : ¬ 'a'.val ≤ c.val := by
    rw [UInt32.le_iff_toNat_le]
    exact Nat.not_le.2 h
  have hupper : c.toUpper = c := dif_neg fun hletter => hsmall hletter.1
  rw [upperChar, if_pos (by omega), hupper]

theorem upperChar_ne_nil (c : Char) : upperChar c ≠ [] := by
  rw [upperChar_eq_mapped]
  exact CaseTable.mapped_ne_nil upperTable c

theorem upperChar_of_mem_upperChar {c d : Char} (h : d ∈ upperChar c) : upperChar d = [d] := by
  rw [upperChar_eq_mapped] at h ⊢
  exact CaseTable.mapped_of_mem_mapped upperTable h

theorem divides_of_mem_upperChar {c d : Char} (h : d ∈ upperChar c) : divides d = divides c := by
  rw [upperChar_eq_mapped] at h
  exact CaseTable.divides_of_mem_mapped upperTable h

/-- Whether a character is a capital letter of ASCII, or beyond ASCII and not a blank. -/
def IsCapital (c : Char) : Prop :=
  (0x41 ≤ c.toNat ∧ c.toNat ≤ 0x5A) ∨ (0x80 ≤ c.toNat ∧ isBlank c = false)

theorem isCapital_of_mem_capitals {c : Char} (h : c ∈ capitals) : IsCapital c := by
  obtain ⟨hplain, -⟩ := CaseTable.not_mem_of_mem_images upperTable h
  have hblank : isBlank c = false := by
    rw [← Bool.not_eq_true]
    exact fun hblank => hplain (toNat_mem_plainCodes_of_isBlank hblank)
  simp only [plainCodes, List.mem_append, List.mem_range, List.mem_map, not_or] at hplain
  by_cases hascii : c.toNat < 0x80
  · refine .inl ⟨by omega, ?_⟩
    by_contra hlt
    exact hplain.1.2 ⟨c.toNat - 0x5B, by omega, by omega⟩
  · exact .inr ⟨by omega, hblank⟩

theorem eq_or_isCapital_of_mem_upperChar {c d : Char} (h : d ∈ upperChar c) :
    d = c ∨ IsCapital d := by
  rcases eq_or_subset_capitals c with hc | ⟨-, hc⟩
  · rw [hc, List.mem_singleton] at h
    exact .inl h
  · exact .inr (isCapital_of_mem_capitals (hc h))

theorem toList_upper (text : String) : (upper text).toList = upperChars text.toList :=
  String.toList_ofList

theorem upper_upper (text : String) : upper (upper text) = upper text := by
  have hchar (c : Char) : (upperChar c).flatMap upperChar = upperChar c := by
    rw [List.flatMap_congr fun d hd => upperChar_of_mem_upperChar hd, List.flatMap_singleton']
  rw [← String.toList_inj, toList_upper, toList_upper, upperChars, upperChars, List.flatMap_assoc]
  simp only [hchar]

/-! ## Lower case -/

theorem lowerTable : CaseTable Char.toLower dividerCodes lowerExpansions lowerRuns where
  ordered := by decide +kernel
  apart := by decide +kernel
  expands := by decide +kernel
  shifts := by decide +kernel
  fixes := by decide +kernel
  settles := by decide +kernel
  avoids := by decide +kernel

theorem lowerChar_eq_mapped (c : Char) : lowerChar c = mapped lowerExpansions lowerRuns c :=
  CaseTable.ite_eq_mapped lowerTable c

theorem lowerChar_ne_nil (c : Char) : lowerChar c ≠ [] := by
  rw [lowerChar_eq_mapped]
  exact CaseTable.mapped_ne_nil lowerTable c

theorem lowerChar_of_mem_lowerChar {c d : Char} (h : d ∈ lowerChar c) : lowerChar d = [d] := by
  rw [lowerChar_eq_mapped] at h ⊢
  exact CaseTable.mapped_of_mem_mapped lowerTable h

theorem lowerChar_of_divides {c : Char} (h : divides c = true) : lowerChar c = [c] := by
  rw [lowerChar_eq_mapped]
  exact CaseTable.mapped_of_divides lowerTable h

theorem divides_of_mem_lowerChar {c d : Char} (h : d ∈ lowerChar c) : divides d = divides c := by
  rw [lowerChar_eq_mapped] at h
  exact CaseTable.divides_of_mem_mapped lowerTable h

end Colloquy.Text
