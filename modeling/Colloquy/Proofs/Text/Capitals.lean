import Colloquy.Proofs.Text.Canonical
import Colloquy.Proofs.Text.Spacing

/-!
# Where a sentence has capitals

Sentence case puts a text in lower case and then gives capitals to some of its letters, one by one.
In ASCII no character becomes longer or shorter by that, so each character of a sentence can be
told from what stands around it in the lower case of the text.

* `opensSentence`: the places where a sentence opens, by what stands before them.
* `getElem?_capitalize`, `getElem?_capitalizePronoun`: what the two passes write at an index.
* `sentence_capitals`: what a sentence has at an index.
-/

namespace Colloquy.Text

variable {cs : List Char}

/-! ## Openings -/

/-- Whether a letter that stands behind `before`, which is given nearest first, opens a sentence:
there is nothing but blanks between it and the end of another one or the start of the text. -/
def opensSentence (before : List Char) : Bool := (before.dropWhile isBlank).head?.all endsSentence

theorem opensSentence_cons (c : Char) (before : List Char) :
    opensSentence (c :: before) = (endsSentence c || opensSentence before && isBlank c) := by
  by_cases hc : isBlank c = true
  · simp [opensSentence, hc, endsSentence_of_isBlank hc]
  · simp [opensSentence, hc]

/-- What follows an opening is capitalized by what stands before it. -/
theorem capitalize_cons (before : List Char) (c : Char) (cs : List Char) :
    capitalize (opensSentence before) (c :: cs) =
      (if opensSentence before && isLowercase c then upperChar c else [c]) ++
        capitalize (opensSentence (c :: before)) cs := by
  rw [opensSentence_cons, capitalize]
  split
  · rename_i h
    rw [Bool.and_eq_true] at h
    have hc := not_divides_of_isLowercase h.2
    rw [endsSentence_of_not_divides hc, isBlank_of_not_divides hc, Bool.and_false, Bool.or_false]
  · rw [List.singleton_append]

/-! ## Indices -/

/-- What is written character by character keeps its length. -/
theorem length_eq_of_getElem? {ds : List Char} {f : Nat → Char → Char}
    (h : ∀ j, ds[j]? = cs[j]?.map (f j)) : ds.length = cs.length := by
  have hle (j : Nat) : ds.length ≤ j ↔ cs.length ≤ j := by
    rw [← List.getElem?_eq_none_iff, h, Option.map_eq_none_iff, List.getElem?_eq_none_iff]
  exact Nat.le_antisymm ((hle _).2 Nat.le.refl) ((hle _).1 Nat.le.refl)

/-- A text of ASCII keeps its length when it is capitalized, and a letter changes where it opens a
sentence. -/
theorem getElem?_capitalize (h : ∀ c ∈ cs, IsAscii c) (before : List Char) (j : Nat) :
    (capitalize (opensSentence before) cs)[j]? = cs[j]?.map fun c =>
      if opensSentence ((cs.take j).reverse ++ before) && isLowercase c then c.toUpper else c := by
  induction cs generalizing before j with
  | nil => simp [capitalize]
  | cons c cs ih =>
    rw [List.forall_mem_cons] at h
    have hpiece : (if opensSentence before && isLowercase c then upperChar c else [c]) =
        [if opensSentence before && isLowercase c then c.toUpper else c] := by
      rw [upperChar_of_isAscii h.1]
      split <;> rfl
    rw [capitalize_cons, hpiece, List.singleton_append]
    cases j with
    | zero => simp
    | succ j => simp [ih h.2]

/-- A letter "i" changes where no word character is next to it. -/
theorem getElem?_capitalizePronoun (inWord : Bool) (cs : List Char) (j : Nat) :
    (capitalizePronoun inWord cs)[j]? = cs[j]?.map fun c =>
      if c == 'i' && !(if j = 0 then inWord else cs[j - 1]?.any isWordChar) &&
        !cs[j + 1]?.any isWordChar then 'I' else c := by
  induction cs generalizing inWord j with
  | nil => simp [capitalizePronoun]
  | cons c cs ih =>
    rw [capitalizePronoun]
    cases j with
    | zero => simp [List.head?_eq_getElem?]
    | succ j =>
      rw [List.getElem?_cons_succ, ih]
      cases j with
      | zero => simp
      | succ j => simp

theorem SingleSpaced.getElem? {stops : Char → Bool} (h : SingleSpaced stops cs) {j : Nat} {b : Char}
    (hj : cs[j]? = some b) (hb : isBlank b = true) :
    b = ' ' ∧ cs[j + 1]?.any (!stops ·) = true := by
  induction cs generalizing j with
  | nil => cases hj
  | cons c cs ih =>
    cases j with
    | zero =>
      obtain rfl : c = b := by simpa using hj
      simpa [List.head?_eq_getElem?] using h.1 hb
    | succ j => simpa using ih h.2 (by simpa using hj)

/-- In a tidy text, a sentence opens at the start of the text, directly behind the end of another
sentence or one space after it. -/
theorem opensSentence_take_iff (h : Tidy isBlank cs) {j : Nat} (hj : j < cs.length) :
    opensSentence (cs.take j).reverse = true ↔
      j = 0 ∨ cs[j - 1]?.any endsSentence = true ∨
        2 ≤ j ∧ cs[j - 1]? = some ' ' ∧ cs[j - 2]?.any endsSentence = true := by
  have hreverse {k : Nat} (hk : k < cs.length) :
      opensSentence (cs.take (k + 1)).reverse =
        (endsSentence cs[k] || opensSentence (cs.take k).reverse && isBlank cs[k]) := by
    rw [List.take_succ_eq_append_getElem hk, List.reverse_append, List.reverse_singleton,
      List.singleton_append, opensSentence_cons]
  match j with
  | 0 => simp [opensSentence]
  | 1 =>
    -- The first character of a tidy text is not a blank.
    have hfirst : isBlank cs[0] = false := by
      have hhead := h.head
      rw [List.head?_eq_getElem?, List.getElem?_eq_getElem (by omega)] at hhead
      simpa using hhead
    rw [hreverse (by omega), hfirst]
    simp [List.getElem?_eq_getElem (show 0 < cs.length by omega)]
  | j + 2 =>
    have hprev : cs[j + 1]? = some cs[j + 1] := List.getElem?_eq_getElem (by omega)
    have hnearest : cs[j]? = some cs[j] := List.getElem?_eq_getElem (by omega)
    rw [hreverse (k := j + 1) (by omega), hreverse (k := j) (by omega)]
    by_cases hblank : isBlank cs[j + 1] = true
    · have hspace : cs[j + 1] = ' ' := (h.single.getElem? hprev hblank).1
      -- No blank stands in front of another one.
      have hnot : isBlank cs[j] = false := by
        by_contra hj
        have hnext := (h.single.getElem? hnearest (by simpa using hj)).2
        simp [hprev, hblank] at hnext
      have hc : endsSentence ' ' = false ∧ isBlank ' ' = true := ⟨rfl, rfl⟩
      simp [hprev, hnearest, hspace, hnot, hc]
    · have hspace : cs[j + 1] ≠ ' ' := by
        intro hc
        exact hblank (hc ▸ rfl)
      simp [hprev, hspace, hblank]

/-! ## Sentences of ASCII -/

/-- The places of a text where a sentence has a capital: it begins there, it begins there after
the end of another one or after one space behind that, or there is a lonely "i". -/
def TakesCapital (cs : List Char) (j : Nat) : Prop :=
  j = 0 ∨ cs[j - 1]?.any endsSentence = true ∨
    (2 ≤ j ∧ cs[j - 1]? = some ' ' ∧ cs[j - 2]?.any endsSentence = true) ∨
    (cs[j]? = some 'i' ∧ cs[j - 1]?.any isAsciiWordChar = false ∧
      cs[j + 1]?.any isAsciiWordChar = false)

instance (cs : List Char) (j : Nat) : Decidable (TakesCapital cs j) :=
  inferInstanceAs (Decidable (_ ∨ _))

theorem toList_lower_spaced {text : String} (h : ∀ c ∈ (spaced text).toList, IsAscii c) :
    (lower (spaced text)).toList = (spaced text).toList.map Char.toLower := by
  rw [lower, String.toList_ofList, lowerAfter_of_isAscii h]

theorem takesCapital_iff (h : Tidy isBlank cs) {j : Nat} {c : Char} (hj : cs[j]? = some c) :
    TakesCapital cs j ↔ opensSentence (cs.take j).reverse = true ∨
      (c = 'i' ∧ cs[j - 1]?.any isAsciiWordChar = false ∧
        cs[j + 1]?.any isAsciiWordChar = false) := by
  rw [opensSentence_take_iff h (List.getElem?_eq_some_iff.1 hj).1, TakesCapital, hj,
    Option.some.injEq, or_assoc, or_assoc]

theorem getElem?_capitalize_true (h : ∀ c ∈ cs, IsAscii c) (j : Nat) :
    (capitalize true cs)[j]? = cs[j]?.map fun c =>
      if opensSentence (cs.take j).reverse && isLowercase c then c.toUpper else c := by
  have hj := getElem?_capitalize h [] j
  rwa [List.append_nil] at hj

/-- A capital is a word character like its letter. -/
theorem any_isWordChar_capitalize (h : ∀ c ∈ cs, IsAscii c) (j : Nat) :
    (capitalize true cs)[j]?.any isWordChar = cs[j]?.any isAsciiWordChar := by
  rw [getElem?_capitalize_true h]
  cases hj : cs[j]? with
  | none => rfl
  | some c =>
    have hc := asciiCase (h c (List.mem_of_getElem? hj))
    rw [Option.map_some, Option.any_some, Option.any_some]
    split
    · rw [(asciiCase hc.isAscii_toUpper).isWordChar_eq, hc.isAsciiWordChar_toUpper]
    · exact hc.isWordChar_eq

/-- What the two passes make of a tidy text of ASCII in lower case. -/
theorem getElem?_capitalized (hascii : ∀ c ∈ cs, IsAscii c)
    (hlower : ∀ c ∈ cs, isLowercase c = c.isAlpha) (h : Tidy isBlank cs) {j : Nat} {c : Char}
    (hj : cs[j]? = some c) :
    (capitalizePronoun false (capitalize true cs))[j]? =
      some (if c.isAlpha ∧ TakesCapital cs j then c.toUpper else c) := by
  have hc := hlower c (List.mem_of_getElem? hj)
  have hcapital : (capitalize true cs)[j]? =
      some (if opensSentence (cs.take j).reverse && c.isAlpha then c.toUpper else c) := by
    rw [getElem?_capitalize_true hascii, hj, Option.map_some, hc]
  rw [getElem?_capitalizePronoun, hcapital, any_isWordChar_capitalize hascii,
    any_isWordChar_capitalize hascii, Option.map_some, Option.some.injEq]
  by_cases hopens : opensSentence (cs.take j).reverse = true
  · have htakes : TakesCapital cs j := (takesCapital_iff h hj).2 (.inl hopens)
    by_cases halpha : c.isAlpha = true
    -- The second pass does not touch a capital.
    · have hi : c.toUpper ≠ 'i' := (asciiCase (hascii c (List.mem_of_getElem? hj))).toUpper_ne_i
      simp [hopens, halpha, htakes, hi]
    · have hi : c ≠ 'i' := by
        rintro rfl
        exact halpha rfl
      simp [hopens, halpha, hi]
  · have hpos : j ≠ 0 := by
      rintro rfl
      exact hopens rfl
    by_cases hi : c = 'i'
    · have hletter : 'i'.isAlpha = true ∧ 'i'.toUpper = 'I' := by decide
      simp [hopens, takesCapital_iff h hj, hi, hpos, hletter]
    · simp [hopens, takesCapital_iff h hj, hi]

/-- A sentence of ASCII has the characters of its text, with single spaces and in lower case, and
capitals are at the places that take one. -/
theorem sentence_capitals {text : String} (h : ∀ c ∈ text.toList, c.toNat < 0x80) :
    let cs := (spaced text).toList.map Char.toLower
    (sentence text).toList.length = cs.length ∧ ∀ j c, cs[j]? = some c →
      (sentence text).toList[j]? =
        some (if c.isAlpha ∧ TakesCapital cs j then c.toUpper else c) := by
  have hspaced : ∀ c ∈ (spaced text).toList, IsAscii c := forall_mem_spaced (by decide) h
  have hlower := toList_lower_spaced hspaced
  have hcs : ∀ c ∈ (spaced text).toList.map Char.toLower, IsAscii c ∧ isLowercase c = c.isAlpha :=
    List.forall_mem_map.2 fun c hc =>
      ⟨(asciiCase (hspaced c hc)).isAscii_toLower, (asciiCase (hspaced c hc)).isLowercase_toLower⟩
  have htidy : Tidy isBlank ((spaced text).toList.map Char.toLower) := by
    rw [← hlower, lower, String.toList_ofList]
    exact (respelled_lowerAfter _ _).tidy (fun _ => isBlank_of_not_divides) (tidy_spaced text)
  rw [sentence, String.toList_ofList, hlower]
  refine ⟨?_, fun j c hj => ?_⟩
  · calc (capitalizePronoun false (capitalize true _)).length
        = (capitalize true _).length := length_eq_of_getElem? (getElem?_capitalizePronoun _ _)
      _ = _ := length_eq_of_getElem? (getElem?_capitalize (fun c hc => (hcs c hc).1) [])
  · exact getElem?_capitalized (fun c hc => (hcs c hc).1) (fun c hc => (hcs c hc).2) htidy hj

/-- `typedSample` as a sentence: the capitals are at the start, in the two pronouns and behind the
ends of two sentences. -/
theorem sentence_capitals_typedSample :
    (∀ c ∈ typedSample.toList, c.toNat < 0x80) ∧
      sentence typedSample = "Well;I`m \"fine\" , thanks...Aren't you ?I am" ∧
      let cs := (spaced typedSample).toList.map Char.toLower
      (sentence typedSample).toList.length = cs.length ∧ ∀ j c, cs[j]? = some c →
        (sentence typedSample).toList[j]? =
          some (if c.isAlpha ∧ TakesCapital cs j then c.toUpper else c) :=
  ⟨isAscii_typedSample, by decide +kernel, sentence_capitals isAscii_typedSample⟩

end Colloquy.Text
