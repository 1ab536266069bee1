import Colloquy.Proofs.Text.Sentence

/-!
# Cutting texts into words

Words are what is left of a text when blanks are dropped and marks set apart. So they do not
depend on how the words are spaced, and words that are put together are found again.

* `IsWord`: the texts that are one word.
* `isWord_of_mem_words`: the words of a text are such.
* `words_joined`: words that are put together and cut apart again are the same.
* `words_spaced`: the spacing of a text makes no difference to its words.
* `words_inverse_joined`: cutting a text loses its blanks only, and it undoes putting together.
-/

namespace Colloquy.Text

/-- A text is cut at some characters: it has none of them, or it is a run without them, one of
them and another text. -/
theorem cut_induction (cuts : Char → Bool) {motive : List Char → Prop}
    (run : ∀ cs, (∀ c ∈ cs, cuts c = false) → motive cs)
    (cut : ∀ cs c rest, (∀ d ∈ cs, cuts d = false) → cuts c = true → motive rest →
      motive (cs ++ c :: rest))
    (cs : List Char) : motive cs := by
  -- What has been passed over without a cut is carried along.
  suffices h : ∀ passed, (∀ c ∈ passed, cuts c = false) → motive (passed ++ cs) from
    h [] (by simp)
  induction cs with
  | nil => intro passed hpassed; simpa using run passed hpassed
  | cons c cs ih =>
    intro passed hpassed
    by_cases hc : cuts c = true
    · exact cut passed c cs hpassed hc (ih [] (by simp))
    · have h := ih (passed ++ [c]) (by simp_all [or_imp])
      simpa using h

/-! ## Runs -/

/-- What has no blank in it is at most one run. -/
theorem fieldsOf_of_forall {cs : List Char} (h : ∀ c ∈ cs, isBlank c = false) :
    fieldsOf cs = if cs = [] then [] else [cs] := by
  by_cases hne : cs = []
  · simp [hne]
  · simp [hne, fieldsOf_eq_singleton hne h]

/-- What can be cut at a space is cut at the spaces that it was put together with. -/
theorem cut_intercalate {α : Type} {cut : List Char → List α} (hnil : cut [] = [])
    (happend : ∀ xs ys, cut (xs ++ ' ' :: ys) = cut xs ++ cut ys) (texts : List String) :
    cut (" ".intercalate texts).toList = texts.flatMap fun text => cut text.toList := by
  induction texts with
  | nil => simpa using hnil
  | cons text texts ih =>
    by_cases hlast : texts = []
    · simp [hlast]
    · have hspace : (text ++ " " ++ " ".intercalate texts).toList =
          text.toList ++ ' ' :: (" ".intercalate texts).toList := by simp
      rw [String.intercalate_cons_of_ne_nil hlast, List.flatMap_cons, ← ih, hspace, happend]

theorem fields_intercalate (texts : List String) :
    fields (" ".intercalate texts) = texts.flatMap fields := by
  rw [fields, cut_intercalate fieldsOf_nil (fieldsOf_append_blank rfl), List.map_flatMap]
  rfl

/-! ## Words -/

/-- Whether a character stands between words or is one of its own. -/
def cutsWord (c : Char) : Bool := isBlank c || isMark c

theorem isBlank_of_isMark {c : Char} (h : isMark c = true) : isBlank c = false := by
  have hc : c = ',' ∨ c = '.' := by simpa [isMark] using h
  rcases hc with rfl | rfl <;> rfl

theorem setOff_of_isMark {c : Char} (h : isMark c = true) : setOff c = [' ', c, ' '] := by
  simp [setOff, h]

theorem setOff_of_not_isMark {c : Char} (h : isMark c = false) : setOff c = [c] := by
  simp [setOff, h]

theorem flatMap_setOff {cs : List Char} (h : ∀ c ∈ cs, isMark c = false) :
    cs.flatMap setOff = cs := by
  rw [List.flatMap_congr fun c hc => setOff_of_not_isMark (h c hc), List.flatMap_singleton']

@[simp] theorem wordsOf_nil : wordsOf [] = [] := by simp [wordsOf]

/-- What is not cut is at most one word. -/
theorem wordsOf_of_forall {cs : List Char} (h : ∀ c ∈ cs, cutsWord c = false) :
    wordsOf cs = if cs = [] then [] else [cs] := by
  simp only [cutsWord, Bool.or_eq_false_iff] at h
  rw [wordsOf, flatMap_setOff fun c hc => (h c hc).2, fieldsOf_of_forall fun c hc => (h c hc).1]

/-- A blank divides the words into those on either side of it. -/
theorem wordsOf_append_blank {c : Char} (h : isBlank c = true) (xs ys : List Char) :
    wordsOf (xs ++ c :: ys) = wordsOf xs ++ wordsOf ys := by
  have hmark : isMark c = false := by
    by_contra hmark
    rw [Bool.not_eq_false] at hmark
    simp [isBlank_of_isMark hmark] at h
  simp only [wordsOf, List.flatMap_append, List.flatMap_cons, setOff_of_not_isMark hmark]
  exact fieldsOf_append_blank h _ _

/-- A mark is a word between those on either side of it. -/
theorem wordsOf_append_mark {c : Char} (h : isMark c = true) (xs ys : List Char) :
    wordsOf (xs ++ c :: ys) = wordsOf xs ++ [c] :: wordsOf ys := by
  have hspace : isBlank ' ' = true := rfl
  have hmark : fieldsOf [c] = [[c]] :=
    fieldsOf_eq_singleton (by simp) (by simp [isBlank_of_isMark h])
  have hrest := fieldsOf_append_blank hspace [c] (ys.flatMap setOff)
  rw [hmark] at hrest
  simp only [wordsOf, List.flatMap_append, List.flatMap_cons, setOff_of_isMark h]
  exact (fieldsOf_append_blank hspace _ _).trans (congrArg _ hrest)

theorem words_intercalate (texts : List String) :
    words (" ".intercalate texts) = texts.flatMap words := by
  rw [words, cut_intercalate wordsOf_nil (wordsOf_append_blank rfl), List.map_flatMap]
  rfl

/-- Words are found in the runs of a text. -/
theorem flatMap_wordsOf_fieldsOf (cs : List Char) : (fieldsOf cs).flatMap wordsOf = wordsOf cs := by
  induction cs using cut_induction isBlank with
  | run cs h =>
    rw [fieldsOf_of_forall h]
    split <;> simp [*]
  | cut cs c rest _ hc ih =>
    rw [fieldsOf_append_blank hc, wordsOf_append_blank hc, List.flatMap_append, ih]
    by_cases hnil : cs = []
    · simp [hnil]
    · rw [fieldsOf_of_forall ‹_›, if_neg hnil, List.flatMap_singleton]

/-- The spacing of a text makes no difference to its words. -/
theorem words_spaced (text : String) : words (spaced text) = words text := by
  rw [spaced, words_intercalate, words, ← flatMap_wordsOf_fieldsOf, fields]
  simp [List.flatMap_map, List.map_flatMap, words]

/-! ## Putting words together -/

/-- Whether a text is one word: a mark, or some characters with no blank or mark among them. -/
def IsWord (word : String) : Prop :=
  isMarkWord word = true ∨ word ≠ "" ∧ ∀ c ∈ word.toList, cutsWord c = false

theorem isWord_of_isMark {c : Char} (h : isMark c = true) : IsWord (.ofList [c]) := by
  have hc : c = ',' ∨ c = '.' := by simpa [isMark] using h
  rcases hc with rfl | rfl <;> exact .inl rfl

theorem isWord_of_mem_wordsOf {cs word : List Char} (h : word ∈ wordsOf cs) :
    IsWord (.ofList word) := by
  have hrun {run : List Char} (hcut : ∀ c ∈ run, cutsWord c = false)
      (hword : word ∈ wordsOf run) : IsWord (.ofList word) := by
    rw [wordsOf_of_forall hcut] at hword
    split at hword <;> simp_all [IsWord]
  induction cs using cut_induction cutsWord with
  | run cs hcut => exact hrun hcut h
  | cut cs c rest hcut hc ih =>
    rw [cutsWord, Bool.or_eq_true] at hc
    rcases hc with hc | hc
    · rw [wordsOf_append_blank hc, List.mem_append] at h
      exact h.elim (hrun hcut) ih
    · rw [wordsOf_append_mark hc, List.mem_append, List.mem_cons] at h
      rcases h with h | rfl | h
      · exact hrun hcut h
      · exact isWord_of_isMark hc
      · exact ih h

/-- The words of a text are words. -/
theorem isWord_of_mem_words {text word : String} (h : word ∈ words text) : IsWord word := by
  obtain ⟨cs, hcs, rfl⟩ := List.mem_map.1 h
  exact isWord_of_mem_wordsOf hcs

theorem words_of_isWord {word : String} (h : IsWord word) : words word = [word] := by
  rcases h with h | ⟨hne, h⟩
  · have hword : word = "," ∨ word = "." := by simpa [isMarkWord] using h
    rcases hword with rfl | rfl <;> decide +kernel
  · rw [words, wordsOf_of_forall h, if_neg (by simpa using hne)]
    simp

/-- Marks are set off again after they were attached to the words before them. -/
theorem wordsOf_attachMarks (cs : List Char) : wordsOf (attachMarks cs) = wordsOf cs := by
  -- The characters that stand before `cs` are carried along.
  suffices h : ∀ before, wordsOf (before ++ attachMarks cs) = wordsOf (before ++ cs) from h []
  induction cs with
  | nil => intro before; rfl
  | cons c cs ih =>
    intro before
    rw [attachMarks_cons]
    split
    · rename_i h
      rw [Bool.and_eq_true] at h
      obtain ⟨m, hm, hmark⟩ := (Option.any_eq_true _ _).1 h.2
      obtain ⟨rest, hrest⟩ : ∃ rest, attachMarks cs = m :: rest := List.head?_eq_some_iff.1 hm
      have hcs : wordsOf cs = [m] :: wordsOf rest := by
        rw [← List.nil_append cs, ← ih, hrest, wordsOf_append_mark hmark, wordsOf_nil,
          List.nil_append]
      rw [hrest, wordsOf_append_mark hmark, wordsOf_append_blank h.1, hcs]
    · simpa using ih (before ++ [c])

/-- Words that are put together are found again. -/
theorem words_joined {ws : List String} (h : ∀ word ∈ ws, IsWord word) :
    words (joined ws) = ws := by
  rw [words, joined, String.toList_ofList, wordsOf_attachMarks, ← words, words_intercalate,
    List.flatMap_congr fun word hword => words_of_isWord (h word hword), List.flatMap_singleton']

/-! ## Cutting and putting together -/

/-- Cutting a text drops its blanks and nothing else. -/
theorem flatten_wordsOf (cs : List Char) : (wordsOf cs).flatten = cs.filter (!isBlank ·) := by
  have hrun {run : List Char} (h : ∀ c ∈ run, cutsWord c = false) :
      (wordsOf run).flatten = run.filter (!isBlank ·) := by
    have hall : ∀ c ∈ run, (!isBlank c) = true := by
      intro c hc
      have := h c hc
      simp_all [cutsWord]
    rw [wordsOf_of_forall h, List.filter_eq_self.2 hall]
    split <;> simp_all
  induction cs using cut_induction cutsWord with
  | run cs h => exact hrun h
  | cut cs c rest h hc ih =>
    by_cases hblank : isBlank c = true
    · rw [wordsOf_append_blank hblank, List.flatten_append, hrun h, ih, List.filter_append,
        List.filter_cons_of_neg (by simp [hblank])]
    · have hmark : isMark c = true := by simpa [cutsWord, hblank] using hc
      rw [wordsOf_append_mark hmark, List.flatten_append, List.flatten_cons, hrun h, ih,
        List.filter_append, List.filter_cons_of_pos (by simpa using hblank), List.singleton_append]

/-- The words of a text, one after the other, are the text without its blanks. -/
theorem join_words (text : String) :
    String.join (words text) = .ofList (text.toList.filter (!isBlank ·)) := by
  rw [← String.toList_inj, String.toList_join, words, List.flatMap_map, String.toList_ofList,
    ← flatten_wordsOf, List.flatten_eq_flatMap]
  simp

/-- A text is cut into words that have all of it but the blanks, and any words that are put
together are found again. -/
theorem words_inverse_joined :
    (∀ text, (∀ word ∈ words text, IsWord word) ∧
      String.join (words text) = .ofList (text.toList.filter (!isBlank ·))) ∧
    ∀ ws, (∀ word ∈ ws, IsWord word) → words (joined ws) = ws :=
  ⟨fun text => ⟨fun _ hword => isWord_of_mem_words hword, join_words text⟩,
    fun _ hws => words_joined hws⟩

/-- Words with marks in front, in a row and at the end. -/
def markedSample : List String := [",", "SO", ".", ".", "I'M", ",", "OK?", "."]

/-- The words of `markedSample` are found again in the text that they make up. -/
theorem words_inverse_joined_markedSample :
    (∀ word ∈ markedSample, IsWord word) ∧ joined markedSample = ", SO.. I'M, OK?." ∧
      words (joined markedSample) = markedSample := by
  have hcut : words ",SO. .I'M , OK?." = markedSample := by decide +kernel
  have h : ∀ word ∈ markedSample, IsWord word :=
    fun word hword => isWord_of_mem_words (hcut ▸ hword)
  exact ⟨h, by decide +kernel, words_inverse_joined.2 markedSample h⟩

end Colloquy.Text
