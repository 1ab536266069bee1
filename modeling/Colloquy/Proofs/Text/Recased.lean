import Colloquy.Proofs.Text.CasePairs

/-!
# Sentences that are put in sentence case again

A sentence is spaced as it should be and has the pronouns as they should be, so a second pass can
change it only at its capitals. Most capitals are one character, and they are restored after they
were put in lower case. But the capital of some letters is several characters, such as the two of a
sharp s, and only the first one of them is restored.

* `lowerAfter_capitalizePronoun`: lower case does not see the capital of the pronoun.
* `capitalize_lowerAfter_upperChar`: what a second pass makes of the capital of a letter.
* `sentence_sentence_iff`: the texts whose sentence is its own sentence.
-/

namespace Colloquy.Text

variable {cs ds : List Char}

/-! ## Lower case of pronouns -/

/-- A character, with a small letter for the pronoun "I". -/
def smallI (c : Char) : Char := if c = 'I' then 'i' else c

theorem map_smallI_capitalizePronoun (inWord : Bool) (cs : List Char) :
    (capitalizePronoun inWord cs).map smallI = cs.map smallI := by
  induction cs generalizing inWord with
  | nil => rfl
  | cons c cs ih =>
    rw [capitalizePronoun, List.map_cons, List.map_cons, ih]
    congr 1
    split
    · rename_i h
      have hc : c = 'i' := by simp_all
      rw [hc]
      decide
    · rfl

theorem meetsCased_map_smallI (cs : List Char) : meetsCased (cs.map smallI) = meetsCased cs := by
  have hI : isCaseIgnorable 'I' = isCaseIgnorable 'i' ∧ isCased 'I' = isCased 'i' := by
    decide
  have hchar (c : Char) :
      isCaseIgnorable (smallI c) = isCaseIgnorable c ∧ isCased (smallI c) = isCased c := by
    unfold smallI
    split
    · rename_i hc
      simp [hc, hI]
    · exact ⟨rfl, rfl⟩
  induction cs with
  | nil => rfl
  | cons c cs ih =>
    unfold meetsCased at ih ⊢
    rw [List.map_cons, List.dropWhile_cons, List.dropWhile_cons, (hchar c).1]
    split
    · exact ih
    · simp [(hchar c).2]

theorem lowerAfter_map_smallI (before cs : List Char) :
    lowerAfter (before.map smallI) (cs.map smallI) = lowerAfter before cs := by
  have hI : smallI 'I' = 'i' ∧ lowerChar 'I' = lowerChar 'i' := by decide
  induction cs generalizing before with
  | nil => rfl
  | cons c cs ih =>
    rw [List.map_cons, lowerAfter, lowerAfter, ← List.map_cons, ih]
    congr 1
    by_cases hc : c = 'I'
    · simp [hc, hI]
    · simp [smallI, hc, lowerSigma, meetsCased_map_smallI]

/-- Lower case does not see the capital of the pronoun. -/
theorem lowerAfter_capitalizePronoun (before : List Char) (inWord : Bool) (cs : List Char) :
    lowerAfter before (capitalizePronoun inWord cs) = lowerAfter before cs := by
  rw [← lowerAfter_map_smallI, map_smallI_capitalizePronoun, lowerAfter_map_smallI]

/-! ## Lower case of small letters -/

theorem ne_sigma_of_lowerChar {c : Char} (h : lowerChar c = [c]) : c ≠ '\u03a3' := by
  rintro rfl
  exact absurd h (by decide)

/-- What was put in lower case stays as it is. -/
theorem lowerChar_of_mem_lowerAfter {before : List Char} {d : Char} (h : d ∈ lowerAfter before cs) :
    lowerChar d = [d] := by
  have hsigma : lowerChar '\u03c2' = ['\u03c2'] ∧ lowerChar '\u03c3' = ['\u03c3'] := by
    decide
  induction cs generalizing before with
  | nil => cases h
  | cons c cs ih =>
    rw [lowerAfter, List.mem_append] at h
    rcases h with h | h
    · split at h
      · rw [List.mem_singleton.1 h, lowerSigma]
        split
        · exact hsigma.1
        · exact hsigma.2
      · exact lowerChar_of_mem_lowerChar h
    · exact ih h

/-- Where there is no capital sigma, each character is put in lower case alone. -/
theorem lowerAfter_append (h : ∀ c ∈ cs, c ≠ '\u03a3') (before ds : List Char) :
    lowerAfter before (cs ++ ds) =
      cs.flatMap lowerChar ++ lowerAfter (cs.reverse ++ before) ds := by
  induction cs generalizing before with
  | nil => rfl
  | cons c cs ih =>
    rw [List.forall_mem_cons] at h
    rw [List.cons_append, lowerAfter, if_neg h.1, ih h.2]
    simp

/-! ## Capitals in lower case -/

/-- Behind the opening of a sentence there is none before it ends. -/
theorem capitalize_append (h : ∀ c ∈ cs, divides c = false) (ds : List Char) :
    capitalize false (cs ++ ds) = cs ++ capitalize false ds := by
  induction cs with
  | nil => rfl
  | cons c cs ih =>
    rw [List.forall_mem_cons] at h
    simp [capitalize, endsSentence_of_not_divides h.1, ih h.2]

/-- The capital of a letter at an opening, put in lower case and capitalized again: the first
character is restored, and the others stay in lower case. -/
theorem capitalize_lowerAfter_upperChar {c d : Char} {ds : List Char}
    (hc : isLowercase c = true) (hlower : lowerChar c = [c]) (h : upperChar c = d :: ds)
    (before cs : List Char) :
    capitalize true (lowerAfter before (d :: (ds ++ cs))) =
      d :: (ds.flatMap lowerChar ++
        capitalize false (lowerAfter (ds.reverse ++ d :: before) cs)) := by
  have hsigma : ∀ x ∈ ds, x ≠ '\u03a3' := fun x hx =>
    (isWordLetter_of_upperChar h (List.ne_nil_of_mem hx) x (List.mem_cons_of_mem _ hx)).ne_sigma
  have hdivides : ∀ x ∈ ds.flatMap lowerChar, divides x = false := by
    intro x hx
    obtain ⟨y, hy, hxy⟩ := List.mem_flatMap.1 hx
    have hyc : y ∈ upperChar c := h ▸ List.mem_cons_of_mem _ hy
    rw [divides_of_mem_lowerChar hxy, divides_of_mem_upperChar hyc, not_divides_of_isLowercase hc]
  rw [lowerAfter, capitalize_lower_of_restored (restored_of_upperChar hc hlower h),
    lowerAfter_append hsigma, capitalize_append hdivides]

/-! ## Pronouns -/

theorem head?_capitalizePronoun (inWord : Bool) (cs : List Char) :
    (capitalizePronoun inWord cs).head?.any isWordChar = cs.head?.any isWordChar := by
  have hI : isWordChar 'I' = true ∧ isWordChar 'i' = true := by decide
  cases cs with
  | nil => rfl
  | cons c cs =>
    rw [capitalizePronoun, List.head?_cons, List.head?_cons, Option.any_some, Option.any_some]
    split
    · rename_i h
      have hc : c = 'i' := by simp_all
      rw [hc, hI.1, hI.2]
    · rfl

theorem capitalizePronoun_cons_inj {inWord : Bool} {c : Char} :
    capitalizePronoun inWord (c :: cs) = capitalizePronoun inWord (c :: ds) ↔
      capitalizePronoun (isWordChar c) cs = capitalizePronoun (isWordChar c) ds := by
  refine ⟨fun h => (List.cons.inj h).2, fun h => ?_⟩
  have hhead : cs.head?.any isWordChar = ds.head?.any isWordChar := by
    rw [← head?_capitalizePronoun (isWordChar c) cs, h, head?_capitalizePronoun]
  rw [capitalizePronoun, capitalizePronoun, hhead, h]

/-- Inside a word there is no pronoun. -/
theorem capitalizePronoun_append (h : ∀ c ∈ cs, isWordChar c = true) (ds : List Char) :
    capitalizePronoun true (cs ++ ds) = cs ++ capitalizePronoun true ds := by
  induction cs with
  | nil => rfl
  | cons c cs ih =>
    rw [List.forall_mem_cons] at h
    simp [capitalizePronoun, h.1, ih h.2]

/-! ## Settled texts -/

/-- Whether the capital of each letter that opens a sentence in the text `cs`, which stands behind
`before`, has nothing but small letters and signs behind its first character. -/
def Settled (before cs : List Char) : Prop :=
  ∀ done c rest, cs = done ++ c :: rest → opensSentence (done.reverse ++ before) = true →
    isLowercase c = true → ∀ d ∈ (upperChar c).tail, lowerChar d = [d]

theorem settled_cons {before : List Char} {c : Char} : Settled before (c :: cs) ↔
    (opensSentence before = true → isLowercase c = true →
      ∀ d ∈ (upperChar c).tail, lowerChar d = [d]) ∧ Settled (c :: before) cs := by
  constructor
  · intro h
    refine ⟨h [] c cs rfl, fun done d rest heq hopens => ?_⟩
    exact h (c :: done) d rest (by rw [heq, List.cons_append]) (by simpa using hopens)
  · rintro ⟨hfirst, hrest⟩ done d rest heq hopens
    cases done with
    | nil =>
      obtain ⟨rfl, -⟩ := List.cons.inj heq
      exact hfirst hopens
    | cons e done =>
      obtain ⟨rfl, hcs⟩ := List.cons.inj heq
      exact hrest done d rest hcs (by simpa using hopens)

/-- Letters with one lower case each are small if and only if lower case leaves them alone. -/
theorem flatMap_lowerChar_append_inj {xs ys zs : List Char}
    (h : ∀ x ∈ xs, IsWordLetter x) :
    xs.flatMap lowerChar ++ ys = xs ++ zs ↔ (∀ x ∈ xs, lowerChar x = [x]) ∧ ys = zs := by
  induction xs with
  | nil => simp
  | cons x xs ih =>
    rw [List.forall_mem_cons] at h
    obtain ⟨y, hy, -⟩ := h.1.lower
    simp [hy, ih h.2, and_assoc]

/-- The characters behind the first one of a capital show in a sentence whether they are small. -/
theorem capitalizePronoun_upperChar_inj {c d : Char} {xs : List Char} (h : upperChar c = d :: xs)
    {inWord : Bool} {ys zs : List Char} :
    capitalizePronoun inWord (d :: (xs.flatMap lowerChar ++ ys)) =
        capitalizePronoun inWord (d :: (xs ++ zs)) ↔
      (∀ x ∈ xs, lowerChar x = [x]) ∧
        capitalizePronoun (isWordChar d) ys = capitalizePronoun (isWordChar d) zs := by
  rw [capitalizePronoun_cons_inj]
  by_cases hsingle : xs = []
  · simp [hsingle]
  -- A capital of several characters is inside a word.
  · have hletters := isWordLetter_of_upperChar h hsingle
    rw [List.forall_mem_cons] at hletters
    have hlower : ∀ y ∈ xs.flatMap lowerChar, isWordChar y = true := by
      intro y hy
      obtain ⟨x, hx, hxy⟩ := List.mem_flatMap.1 hy
      obtain ⟨z, hz, hword⟩ := (hletters.2 x hx).lower
      rw [hz, List.mem_singleton] at hxy
      rwa [hxy]
    rw [hletters.1.isWordChar, capitalizePronoun_append hlower,
      capitalizePronoun_append fun x hx => (hletters.2 x hx).isWordChar,
      flatMap_lowerChar_append_inj hletters.2]

/-- A second pass over a text of small letters changes nothing exactly if the text is settled. -/
theorem recased_eq_iff (h : ∀ c ∈ cs, lowerChar c = [c]) (before passed : List Char)
    (inWord : Bool) :
    capitalizePronoun inWord
        (capitalize (opensSentence before)
          (lowerAfter passed (capitalize (opensSentence before) cs))) =
      capitalizePronoun inWord (capitalize (opensSentence before) cs) ↔ Settled before cs := by
  induction cs generalizing before passed inWord with
  | nil =>
    refine ⟨fun _ done c rest heq => ?_, fun _ => rfl⟩
    cases done <;> cases heq
  | cons c cs ih =>
    rw [List.forall_mem_cons] at h
    rw [settled_cons, capitalize_cons before c cs]
    by_cases hopens : opensSentence before = true ∧ isLowercase c = true
    · have hnext : opensSentence (c :: before) = false := by
        have hc := not_divides_of_isLowercase hopens.2
        rw [opensSentence_cons, endsSentence_of_not_divides hc, isBlank_of_not_divides hc]
        simp
      obtain ⟨d, ds, hupper⟩ := List.exists_cons_of_ne_nil (upperChar_ne_nil c)
      have ih := ih h.2 (c :: before)
      rw [hnext] at ih ⊢
      rw [if_pos (by simp [hopens]), hupper, List.cons_append, hopens.1,
        capitalize_lowerAfter_upperChar hopens.2 h.1 hupper, capitalizePronoun_upperChar_inj hupper,
        ih, List.tail_cons]
      simp [hopens]
    · have hsame : (opensSentence before && isLowercase c) = false := by simpa using hopens
      rw [if_neg (by simp [hsame]), List.singleton_append, lowerAfter,
        if_neg (ne_sigma_of_lowerChar h.1), h.1, List.singleton_append, capitalize_cons,
        if_neg (by simp [hsame]), List.singleton_append, capitalizePronoun_cons_inj,
        ih h.2 (c :: before)]
      simp_all

/-! ## Sentences of sentences -/

theorem sentence_sentence_iff_settled {text : String} :
    sentence (sentence text) = sentence text ↔ Settled [] (lower (spaced text)).toList := by
  have hlower : ∀ c ∈ (lower (spaced text)).toList, lowerChar c = [c] := by
    rw [lower, String.toList_ofList]
    exact fun c hc => lowerChar_of_mem_lowerAfter hc
  rw [← recased_eq_iff hlower [] [] false, ← String.toList_inj]
  conv_lhs => rw [sentence, spaced_sentence, lower]
  simp only [sentence, String.toList_ofList, lowerAfter_capitalizePronoun]
  rfl

/-- A sentence of ASCII is its own sentence. -/
theorem sentence_sentence_of_isAscii {text : String} (h : ∀ c ∈ text.toList, IsAscii c) :
    sentence (sentence text) = sentence text := by
  have hspaced : ∀ c ∈ (spaced text).toList, IsAscii c := forall_mem_spaced (by decide) h
  rw [sentence_sentence_iff_settled, toList_lower_spaced hspaced]
  intro before c after heq _ _ d hd
  have hc : c ∈ (spaced text).toList.map Char.toLower := by
    rw [heq]
    exact List.mem_append_right _ List.mem_cons_self
  obtain ⟨e, he, rfl⟩ := List.mem_map.1 hc
  rw [upperChar_of_isAscii (asciiCase (hspaced e he)).isAscii_toLower] at hd
  cases hd

/-- A sentence is its own sentence if and only if no letter that opens a sentence in the lower case
of the text has a capital with further capitals behind its first character. -/
theorem sentence_sentence_iff (text : String) :
    sentence (sentence text) = sentence text ↔
      ∀ before c after, (lower (spaced text)).toList = before ++ c :: after →
        opensSentence before.reverse = true → isLowercase c = true →
          ∀ d ∈ (upperChar c).tail, lowerChar d = [d] := by
  rw [sentence_sentence_iff_settled, Settled]
  simp only [List.append_nil]

/-- The capital of a sharp s is two letters, and the second one does not stay. -/
example : sentence "ß" = "SS" ∧ sentence "SS" = "Ss" := by decide

end Colloquy.Text
