import Colloquy.Text
import Mathlib

/-!
# Characters that are checked one by one

The blanks and the characters that end a clause or a sentence stand between the words of a text,
and the spacing and the capitals of a text depend on them alone. In ASCII a character has one upper
case and one lower case, which are of ASCII too. There are few characters of either kind, so that
what is said about all of them is checked one by one.

* `divides`: the characters that divide a text.
* `dividerCodes`: their code points.
* `not_isLowercase_of_divides`: a letter is none of them.
* `forall_isAscii`: what holds of the first 128 code points holds of ASCII.
* `asciiCase`: what upper and lower case do to a character of ASCII.
* `lowerAfter_of_isAscii`: a text of ASCII is put in lower case character by character.
-/

namespace Colloquy.Text

/-! ## Dividers -/

/-- Whether a character stands between the words, clauses or sentences of a text. -/
def divides (c : Char) : Bool := isBlank c || isMark c || endsSentence c

/-- The code points of the characters that divide. -/
def dividerCodes : List Nat :=
  [0x09, 0x0A, 0x0B, 0x0C, 0x0D, 0x20, 0x21, 0x2C, 0x2E, 0x3F, 0x85, 0xA0, 0x1680, 0x2000, 0x2001,
    0x2002, 0x2003, 0x2004, 0x2005, 0x2006, 0x2007, 0x2008, 0x2009, 0x200A, 0x2028, 0x2029, 0x202F,
    0x205F, 0x3000]

theorem toNat_mem_dividerCodes {c : Char} (h : divides c = true) : c.toNat ∈ dividerCodes := by
  simp only [divides, isBlank, isMark, endsSentence, Bool.or_eq_true, Bool.and_eq_true,
    decide_eq_true_eq, beq_iff_eq, Char.le_def, UInt32.le_iff_toNat_le, Char.toNat_val,
    ← Char.toNat_inj, Char.reduceToNat] at h
  simp only [dividerCodes, List.mem_cons, List.not_mem_nil, or_false]
  omega

/-- A divider is no letter. -/
theorem not_isLowercase_of_divides {c : Char} (h : divides c = true) : isLowercase c = false := by
  have hall : dividerCodes.all (fun k => !isLowercase (.ofNat k)) = true := by decide +kernel
  simpa using List.all_eq_true.1 hall c.toNat (toNat_mem_dividerCodes h)

theorem not_divides_of_isLowercase {c : Char} (h : isLowercase c = true) : divides c = false := by
  by_contra hc
  rw [not_isLowercase_of_divides (by simpa using hc)] at h
  cases h

theorem isBlank_of_not_divides {c : Char} (h : divides c = false) : isBlank c = false := by
  simp_all [divides]

theorem endsSentence_of_not_divides {c : Char} (h : divides c = false) :
    endsSentence c = false := by
  simp_all [divides]

theorem endsSentence_of_isBlank {c : Char} (h : isBlank c = true) : endsSentence c = false := by
  have hc : c ≠ '.' ∧ c ≠ '!' ∧ c ≠ '?' := by
    refine ⟨?_, ?_, ?_⟩ <;> rintro rfl <;> cases h
  simp [endsSentence, hc]

/-! ## ASCII -/

/-- Whether a character is one of ASCII. -/
def IsAscii (c : Char) : Prop := c.toNat < 0x80

instance (c : Char) : Decidable (IsAscii c) := inferInstanceAs (Decidable (_ < _))

/-- Whether a character is a letter, a digit or an underscore of ASCII. -/
def isAsciiWordChar (c : Char) : Bool := c.isAlphanum || c == '_'

/-- What holds of the characters at the first 128 code points holds of ASCII. -/
theorem forall_isAscii {P : Char → Prop} (h : ∀ k < 0x80, P (.ofNat k)) {c : Char}
    (hc : IsAscii c) : P c := by
  simpa using h c.toNat hc

/-- What is checked of a character of ASCII: case keeps it in ASCII and keeps word characters,
its small letters are the lowercase ones, and no capital is a small "i". -/
structure AsciiCase (c : Char) : Prop where
  isAscii_toLower : IsAscii c.toLower
  isAscii_toUpper : IsAscii c.toUpper
  isLowercase_toLower : isLowercase c.toLower = c.toLower.isAlpha
  isWordChar_eq : isWordChar c = isAsciiWordChar c
  isAsciiWordChar_toUpper : isAsciiWordChar c.toUpper = isAsciiWordChar c
  toUpper_ne_i : c.toUpper ≠ 'i'

theorem asciiCase {c : Char} (h : IsAscii c) : AsciiCase c where
  isAscii_toLower := forall_isAscii (P := fun c => IsAscii c.toLower) (by decide +kernel) h
  isAscii_toUpper := forall_isAscii (P := fun c => IsAscii c.toUpper) (by decide +kernel) h
  isLowercase_toLower :=
    forall_isAscii (P := fun c => isLowercase c.toLower = c.toLower.isAlpha) (by decide +kernel) h
  isWordChar_eq :=
    forall_isAscii (P := fun c => isWordChar c = isAsciiWordChar c) (by decide +kernel) h
  isAsciiWordChar_toUpper :=
    forall_isAscii (P := fun c => isAsciiWordChar c.toUpper = isAsciiWordChar c)
      (by decide +kernel) h
  toUpper_ne_i := forall_isAscii (P := fun c => c.toUpper ≠ 'i') (by decide +kernel) h

theorem upperChar_of_isAscii {c : Char} (h : IsAscii c) : upperChar c = [c.toUpper] := by
  rw [upperChar, if_pos (show c.toNat < 0x80 from h)]

theorem lowerChar_of_isAscii {c : Char} (h : IsAscii c) : lowerChar c = [c.toLower] := by
  rw [lowerChar, if_pos (show c.toNat < 0x80 from h)]

/-- A capital sigma is not of ASCII, so each character of ASCII is put into lower case alone. -/
theorem lowerAfter_of_isAscii {cs : List Char} (h : ∀ c ∈ cs, IsAscii c) (before : List Char) :
    lowerAfter before cs = cs.map Char.toLower := by
  induction cs generalizing before with
  | nil => rfl
  | cons c cs ih =>
    rw [List.forall_mem_cons] at h
    have hsigma : c ≠ '\u03a3' := by
      rintro rfl
      exact absurd h.1 (by decide)
    rw [lowerAfter, if_neg hsigma, lowerChar_of_isAscii h.1, ih h.2, List.map_cons,
      List.singleton_append]

end Colloquy.Text
