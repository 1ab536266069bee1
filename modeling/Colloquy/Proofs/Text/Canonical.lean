import Colloquy.Proofs.Text.CharClass
import Colloquy.Proofs.Text.Words

/-!
# The canonical form of what is spoken

Words of canonical text are shown as a sentence: with the spacing of a sentence, in lower case
and with capitals in places. In ASCII the canonical form sees none of this, so that the words of
a sentence are those that it was made of.

* `canonical_sentence`: the canonical form of a sentence is that of the text with single spaces.
* `words_canonical_spoken`: the words of canonical text are the words of the canonical form of
  the sentence that they are shown as.
-/

namespace Colloquy.Text

/-! ## Characters -/

/-- What a typed character becomes. -/
def canonicalChar (c : Char) : List Char := (plainChar? c).toList.flatMap upperChar

/-- Whether a character is its own canonical form. -/
def IsCanonical (c : Char) : Prop := canonicalChar c = [c]

instance (c : Char) : Decidable (IsCanonical c) := inferInstanceAs (Decidable (_ = _))

theorem toList_canonical (text : String) :
    (canonical text).toList = text.toList.flatMap canonicalChar := by
  rw [canonical, toList_upper, String.toList_ofList, upperChars, List.filterMap_eq_flatMap_toList,
    List.flatMap_assoc]
  rfl

/-- What is checked of the canonical form of a character of ASCII: it does not see case, and what
it consists of is of ASCII and canonical. -/
structure AsciiCanonical (c : Char) : Prop where
  toLower : canonicalChar c.toLower = canonicalChar c
  toUpper : canonicalChar c.toUpper = canonicalChar c
  all : (canonicalChar c).all (fun d => IsAscii d ∧ IsCanonical d) = true

theorem asciiCanonical {c : Char} (h : IsAscii c) : AsciiCanonical c where
  toLower :=
    forall_isAscii (P := fun c => canonicalChar c.toLower = canonicalChar c) (by decide +kernel) h
  toUpper :=
    forall_isAscii (P := fun c => canonicalChar c.toUpper = canonicalChar c) (by decide +kernel) h
  all :=
    forall_isAscii (P := fun c => (canonicalChar c).all (fun d => IsAscii d ∧ IsCanonical d) = true)
      (by decide +kernel) h

theorem canonicalChar_I : canonicalChar 'I' = canonicalChar 'i' :=
  (asciiCanonical (c := 'i') (by decide)).toUpper

/-- What a character of ASCII becomes is of ASCII and canonical. -/
theorem isAscii_and_isCanonical_of_mem {c d : Char} (h : IsAscii c) (hd : d ∈ canonicalChar c) :
    IsAscii d ∧ IsCanonical d := by
  simpa using List.all_eq_true.1 (asciiCanonical h).all d hd

/-! ## Sentences -/

theorem flatMap_canonicalChar_capitalizePronoun (inWord : Bool) (cs : List Char) :
    (capitalizePronoun inWord cs).flatMap canonicalChar = cs.flatMap canonicalChar := by
  induction cs generalizing inWord with
  | nil => rfl
  | cons c cs ih =>
    simp only [capitalizePronoun, List.flatMap_cons, ih]
    congr 1
    split
    · rename_i hc
      have hi : c = 'i' := by simp_all
      rw [hi, canonicalChar_I]
    · rfl

theorem flatMap_canonicalChar_capitalize {cs : List Char} (h : ∀ c ∈ cs, IsAscii c)
    (opening : Bool) :
    (capitalize opening cs).flatMap canonicalChar = cs.flatMap canonicalChar := by
  induction cs generalizing opening with
  | nil => rfl
  | cons c cs ih =>
    rw [List.forall_mem_cons] at h
    unfold capitalize
    split
    · rw [upperChar_of_isAscii h.1, List.singleton_append, List.flatMap_cons,
        (asciiCanonical h.1).toUpper, ih h.2, List.flatMap_cons]
    · rw [List.flatMap_cons, ih h.2, List.flatMap_cons]

/-- The canonical form of a sentence is that of the text with single spaces. -/
theorem canonical_sentence {text : String} (h : ∀ c ∈ (spaced text).toList, IsAscii c) :
    canonical (sentence text) = canonical (spaced text) := by
  have hlower : ∀ c ∈ (spaced text).toList.map Char.toLower, IsAscii c :=
    List.forall_mem_map.2 fun c hc => (asciiCase (h c hc)).isAscii_toLower
  rw [← String.toList_inj, toList_canonical, toList_canonical, sentence, String.toList_ofList,
    lower, String.toList_ofList, lowerAfter_of_isAscii h, flatMap_canonicalChar_capitalizePronoun,
    flatMap_canonicalChar_capitalize hlower, List.flatMap_map]
  exact List.flatMap_congr fun c hc => (asciiCanonical (h c hc)).toLower

/-- A text of canonical characters is its own canonical form. -/
theorem canonical_of_forall {text : String} (h : ∀ c ∈ text.toList, IsCanonical c) :
    canonical text = text := by
  rw [← String.toList_inj, toList_canonical, List.flatMap_congr fun c hc => h c hc,
    List.flatMap_singleton']

/-! ## Where the characters of words come from -/

section Characters

variable {P : Char → Prop}

theorem forall_mem_of_mem_fieldsOf {cs : List Char} (h : ∀ c ∈ cs, P c) :
    ∀ run ∈ fieldsOf cs, ∀ c ∈ run, P c := by
  have hself {cs : List Char} (hcut : ∀ c ∈ cs, isBlank c = false) (h : ∀ c ∈ cs, P c) :
      ∀ run ∈ fieldsOf cs, ∀ c ∈ run, P c := by
    intro run hrun
    rw [fieldsOf_of_forall hcut] at hrun
    split at hrun <;> simp_all
  induction cs using cut_induction isBlank with
  | run cs hcut => exact hself hcut h
  | cut cs d rest hcut hd ih =>
    rw [List.forall_mem_append, List.forall_mem_cons] at h
    rw [fieldsOf_append_blank hd, List.forall_mem_append]
    exact ⟨hself hcut h.1, ih h.2.2⟩

theorem forall_mem_spaced (hspace : P ' ') {text : String} (h : ∀ c ∈ text.toList, P c) :
    ∀ c ∈ (spaced text).toList, P c := by
  rw [spaced, forall_mem_intercalate_iff hspace, fields, List.forall_mem_map]
  simpa using forall_mem_of_mem_fieldsOf h

theorem forall_mem_of_mem_words (hspace : P ' ') {text : String} (h : ∀ c ∈ text.toList, P c) :
    ∀ word ∈ words text, ∀ c ∈ word.toList, P c := by
  have hsetOff : ∀ c ∈ text.toList.flatMap setOff, P c := by
    intro c hc
    obtain ⟨d, hd, hcd⟩ := List.mem_flatMap.1 hc
    have hc : c = ' ' ∨ c = d := by
      unfold setOff at hcd
      split at hcd <;> simp_all
      tauto
    rcases hc with rfl | rfl
    · exact hspace
    · exact h c hd
  rw [words, wordsOf, List.forall_mem_map]
  simpa using forall_mem_of_mem_fieldsOf hsetOff

theorem forall_mem_attachMarks {cs : List Char} (h : ∀ c ∈ cs, P c) :
    ∀ c ∈ attachMarks cs, P c := by
  induction cs with
  | nil => exact h
  | cons c cs ih =>
    rw [List.forall_mem_cons] at h
    rw [attachMarks_cons]
    split
    · exact ih h.2
    · exact List.forall_mem_cons.2 ⟨h.1, ih h.2⟩

theorem forall_mem_joined (hspace : P ' ') {ws : List String}
    (h : ∀ word ∈ ws, ∀ c ∈ word.toList, P c) : ∀ c ∈ (joined ws).toList, P c := by
  rw [joined, String.toList_ofList]
  exact forall_mem_attachMarks ((forall_mem_intercalate_iff hspace).2 h)

end Characters

/-! ## There and back -/

/-- The words of canonical text are the words of the canonical form of the sentence that they are
shown as: case, spaces and the marks between words are restored. -/
theorem words_canonical_spoken {text : String} (h : ∀ c ∈ text.toList, c.toNat < 0x80) :
    words (canonical (spoken (words (canonical text)))) = words (canonical text) := by
  have hspace : IsAscii ' ' ∧ IsCanonical ' ' := by decide
  have htext : ∀ c ∈ (canonical text).toList, IsAscii c ∧ IsCanonical c := by
    intro c hc
    rw [toList_canonical] at hc
    obtain ⟨d, hd, hcd⟩ := List.mem_flatMap.1 hc
    exact isAscii_and_isCanonical_of_mem (h d hd) hcd
  have hspaced := forall_mem_spaced hspace
    (forall_mem_joined hspace (forall_mem_of_mem_words hspace htext))
  calc words (canonical (spoken (words (canonical text))))
      = words (canonical (spaced (joined (words (canonical text))))) := by
        rw [spoken, canonical_sentence fun c hc => (hspaced c hc).1]
    _ = words (joined (words (canonical text))) := by
        rw [canonical_of_forall fun c hc => (hspaced c hc).2, words_spaced]
    _ = words (canonical text) := words_joined fun word hword => isWord_of_mem_words hword

/-- A text with quotes, accents and other marks. -/
def typedSample : String := " Well;I`m \"fine\" , thanks...aren't you ?I am"

theorem isAscii_typedSample : ∀ c ∈ typedSample.toList, c.toNat < 0x80 := by
  have hall : typedSample.toList.all (·.toNat < 0x80) = true := by decide +kernel
  simpa using hall

/-- The words of `typedSample` are found again in the sentence that they are shown as. -/
theorem words_canonical_spoken_typedSample :
    (∀ c ∈ typedSample.toList, c.toNat < 0x80) ∧
      spoken (words (canonical typedSample)) = "Well, I'm \"fine\", thanks... Aren't you. I am" ∧
      words (canonical (spoken (words (canonical typedSample)))) = words (canonical typedSample) :=
  ⟨isAscii_typedSample, by decide +kernel, words_canonical_spoken isAscii_typedSample⟩

end Colloquy.Text
