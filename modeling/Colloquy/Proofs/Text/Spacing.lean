import Colloquy.Proofs.Text.Words

/-!
# The spacing of sentences

A text is tidy if it does not begin with a blank, and each of its blanks is a space with something
else after it. Single spaces between the words make a text tidy, and they leave a tidy text alone.
The passes that change case put letters in the place of letters, and so they keep a text tidy.

* `tidy_spaced`, `spaced_of_tidy`: the tidy texts are those with single spaces between the words.
* `Respelled`: a text in which letters have been replaced by others.
* `Respelled.tidy`: what is respelled stays tidy.
* `IsClean`: the texts that say something, with single spaces and no blank before a mark.
* `isClean_spoken`: a sentence put together from words is clean, unless it is empty.
-/

namespace Colloquy.Text

variable {stops : Char → Bool} {cs ds : List Char}

/-! ## Tidy texts -/

/-- Whether each blank of a text is a space, and followed by a character that `stops` does not
hold of. -/
def SingleSpaced (stops : Char → Bool) : List Char → Prop
  | [] => True
  | c :: cs =>
    (isBlank c = true → c = ' ' ∧ cs.head?.any (!stops ·) = true) ∧ SingleSpaced stops cs

/-- A text that does not begin with a blank and has single spaces, none of them in front of a
character that `stops` holds of. -/
structure Tidy (stops : Char → Bool) (cs : List Char) : Prop where
  head : cs.head?.all (!isBlank ·) = true
  single : SingleSpaced stops cs

theorem singleSpaced_append (h : ∀ c ∈ cs, isBlank c = false) :
    SingleSpaced stops (cs ++ ds) ↔ SingleSpaced stops ds := by
  induction cs with
  | nil => rfl
  | cons c cs ih =>
    rw [List.forall_mem_cons] at h
    rw [List.cons_append, SingleSpaced, ih h.2]
    simp [h.1]

theorem SingleSpaced.mono {stops' : Char → Bool} (h : SingleSpaced stops cs)
    (hstops : ∀ c, stops' c = true → stops c = true) : SingleSpaced stops' cs := by
  induction cs with
  | nil => trivial
  | cons c cs ih =>
    refine ⟨fun hc => ?_, ih h.2⟩
    obtain ⟨hspace, hnext⟩ := h.1 hc
    obtain ⟨d, hd, hstop⟩ := (Option.any_eq_true _ _).1 hnext
    refine ⟨hspace, (Option.any_eq_true _ _).2 ⟨d, hd, ?_⟩⟩
    grind

/-- Words that are put together with spaces make a tidy text if no word but the first begins with
a character that `stops` holds of. -/
theorem tidy_intercalate {texts : List String}
    (hblank : ∀ text ∈ texts, text ≠ "" ∧ ∀ c ∈ text.toList, isBlank c = false)
    (hstops : ∀ text ∈ texts.tail, text.toList.head?.any (!stops ·) = true) :
    Tidy stops (" ".intercalate texts).toList := by
  have hspace : " ".toList = [' '] := rfl
  induction texts with
  | nil => exact ⟨by simp, by simp [SingleSpaced]⟩
  | cons text texts ih =>
    obtain ⟨⟨hne, htext⟩, hblank⟩ := List.forall_mem_cons.1 hblank
    obtain ⟨c, rest, hc⟩ := List.exists_cons_of_ne_nil (mt String.toList_eq_nil_iff.1 hne)
    have hfirst : isBlank c = false := htext c (by simp [hc])
    by_cases hlast : texts = []
    · rw [hlast, String.intercalate_singleton]
      refine ⟨by simp [hc, hfirst], ?_⟩
      rw [← List.append_nil text.toList, singleSpaced_append htext]
      trivial
    · obtain ⟨next, texts, rfl⟩ := List.exists_cons_of_ne_nil hlast
      have hrest := ih hblank fun text htext => hstops text (List.mem_cons_of_mem _ htext)
      have hnext : (" ".intercalate (next :: texts)).toList.head?.any (!stops ·) = true := by
        obtain ⟨d, hd, hstop⟩ := (Option.any_eq_true _ _).1 (hstops next List.mem_cons_self)
        by_cases hlast : texts = [] <;>
          simp_all [String.intercalate_cons_of_ne_nil, List.head?_append]
      rw [String.intercalate_cons_of_ne_nil hlast, String.toList_append, String.toList_append,
        List.append_assoc, hspace, List.singleton_append]
      refine ⟨by simp [hc, hfirst], ?_⟩
      rw [singleSpaced_append htext]
      exact ⟨fun _ => ⟨rfl, hnext⟩, hrest.single⟩

/-! ## Runs -/

/-- What holds of every text without blanks holds of the runs of a text. -/
theorem forall_mem_fieldsOf {P : List Char → Prop}
    (h : ∀ run, run ≠ [] → (∀ c ∈ run, isBlank c = false) → P run) :
    ∀ run ∈ fieldsOf cs, P run := by
  have hself {run : List Char} (hrun : ∀ c ∈ run, isBlank c = false) : ∀ r ∈ fieldsOf run, P r := by
    rw [fieldsOf_of_forall hrun]
    split
    · simp
    · simpa using h run ‹_› hrun
  induction cs using cut_induction isBlank with
  | run cs hrun => exact hself hrun
  | cut cs c rest hrun hc ih =>
    rw [fieldsOf_append_blank hc, List.forall_mem_append]
    exact ⟨hself hrun, ih⟩

/-- Whether no blank stands directly before a mark. -/
def MarksAttached (cs : List Char) : Prop :=
  cs.IsChain fun b m => isBlank b = true → isMark m = false

theorem marksAttached_attachMarks (cs : List Char) : MarksAttached (attachMarks cs) := by
  induction cs with
  | nil => exact .nil
  | cons c cs ih =>
    rw [attachMarks_cons]
    split
    · exact ih
    · rename_i hc
      refine List.isChain_cons.2 ⟨fun m hm hblank => ?_, ih⟩
      simp_all

theorem SingleSpaced.marksAttached (h : SingleSpaced cutsWord cs) : MarksAttached cs := by
  induction cs with
  | nil => exact .nil
  | cons c cs ih =>
    refine List.isChain_cons.2 ⟨fun m hm hblank => ?_, ih h.2⟩
    have hnext := (h.1 hblank).2
    rw [Option.mem_def.1 hm] at hnext
    simp_all [cutsWord]

/-- Where marks are attached, no run behind a blank begins with one. -/
theorem MarksAttached.head_of_mem_fieldsOf {b : Char} (hb : isBlank b = true)
    (h : MarksAttached (b :: cs)) : ∀ run ∈ fieldsOf cs, run.head?.any (!cutsWord ·) = true := by
  have hself {b : Char} {run : List Char} (hb : isBlank b = true)
      (hrun : ∀ c ∈ run, isBlank c = false) (h : MarksAttached (b :: run)) :
      ∀ r ∈ fieldsOf run, r.head?.any (!cutsWord ·) = true := by
    rw [fieldsOf_of_forall hrun]
    cases run with
    | nil => simp
    | cons c run =>
      have hmark := (List.isChain_cons_cons.1 h).1 hb
      simp_all [cutsWord]
  induction cs using cut_induction isBlank generalizing b with
  | run cs hrun => exact hself hb hrun h
  | cut cs c rest hrun hc ih =>
    rw [MarksAttached, ← List.cons_append] at h
    rw [fieldsOf_append_blank hc, List.forall_mem_append]
    exact ⟨hself hb hrun h.left_of_append, ih hc h.right_of_append⟩

/-- Where marks are attached, only the first run can begin with one. -/
theorem MarksAttached.head_of_mem_tail_fieldsOf (h : MarksAttached cs) :
    ∀ run ∈ (fieldsOf cs).tail, run.head?.any (!cutsWord ·) = true := by
  induction cs using cut_induction isBlank with
  | run cs hrun =>
    rw [fieldsOf_of_forall hrun]
    split <;> simp
  | cut cs c rest hrun hc _ =>
    have hrest := head_of_mem_fieldsOf hc (List.IsChain.right_of_append h)
    rw [fieldsOf_append_blank hc, fieldsOf_of_forall hrun]
    split
    · exact fun run hmem => hrest run (List.mem_of_mem_tail hmem)
    · exact hrest

/-! ## Single spaces -/

theorem not_isBlank_of_mem_fields (text : String) :
    ∀ field ∈ fields text, field ≠ "" ∧ ∀ c ∈ field.toList, isBlank c = false := by
  rw [fields, List.forall_mem_map]
  exact forall_mem_fieldsOf fun run hne hrun => by simpa [hne] using hrun

/-- Single spaces make a text tidy. -/
theorem tidy_spaced (text : String) : Tidy isBlank (spaced text).toList := by
  refine tidy_intercalate (not_isBlank_of_mem_fields text) fun field hfield => ?_
  obtain ⟨hne, hblank⟩ := not_isBlank_of_mem_fields text field (List.mem_of_mem_tail hfield)
  obtain ⟨c, rest, hc⟩ := List.exists_cons_of_ne_nil (mt String.toList_eq_nil_iff.1 hne)
  simpa [hc] using hblank c (by simp [hc])

/-- Single spaces keep the marks of a text attached. -/
theorem tidy_spaced_of_marksAttached {text : String} (h : MarksAttached text.toList) :
    Tidy cutsWord (spaced text).toList := by
  refine tidy_intercalate (not_isBlank_of_mem_fields text) ?_
  rw [fields, ← List.map_tail, List.forall_mem_map]
  simpa using h.head_of_mem_tail_fieldsOf

/-- A tidy text has single spaces already. -/
theorem spaced_of_tidy {text : String} (h : Tidy isBlank text.toList) : spaced text = text := by
  suffices hcs : ∀ cs, Tidy isBlank cs →
      (" ".intercalate ((fieldsOf cs).map .ofList)).toList = cs by
    rw [← String.toList_inj]
    exact hcs _ h
  intro cs h
  induction cs using cut_induction isBlank with
  | run cs hrun =>
    rw [fieldsOf_of_forall hrun]
    split <;> simp [*]
  | cut cs c rest hrun hc ih =>
    obtain ⟨hblank, hsingle⟩ := (singleSpaced_append hrun).1 h.single
    obtain ⟨rfl, hnext⟩ := hblank hc
    obtain ⟨d, hd, hfirst⟩ := (Option.any_eq_true _ _).1 hnext
    obtain ⟨rest, rfl⟩ := List.head?_eq_some_iff.1 hd
    have hrest := ih ⟨by simpa using hfirst, hsingle⟩
    have hfields : (fieldsOf (d :: rest)).map String.ofList ≠ [] := by
      simpa using fieldsOf_cons_ne_nil (by simpa using hfirst) rest
    -- A tidy text does not begin with a blank.
    have hne : cs ≠ [] := by
      rintro rfl
      simpa [hc] using h.head
    rw [fieldsOf_append_blank hc, fieldsOf_of_forall hrun, if_neg hne, List.singleton_append,
      List.map_cons, String.intercalate_cons_of_ne_nil hfields]
    simp [hrest]

/-! ## Respelling -/

/-- A text that comes from another by keeping characters and by putting letters and other
characters that do not divide in the place of such. -/
inductive Respelled : List Char → List Char → Prop
  | nil : Respelled [] []
  | keep {cs ds : List Char} (c : Char) (h : Respelled cs ds) : Respelled (c :: cs) (c :: ds)
  | replace {cs ds piece : List Char} {c : Char} (hc : divides c = false) (hne : piece ≠ [])
      (hpiece : ∀ d ∈ piece, divides d = false) (h : Respelled cs ds) :
      Respelled (c :: cs) (piece ++ ds)

namespace Respelled

/-- A text and what is respelled begin with the same character or with two that do not divide. -/
theorem head_eq_or (h : Respelled cs ds) : ds.head? = cs.head? ∨
    ∃ c ∈ cs.head?, ∃ d ∈ ds.head?, divides c = false ∧ divides d = false := by
  cases h with
  | nil => exact .inl rfl
  | keep c h => exact .inl rfl
  | @replace cs ds piece c hc hne hpiece h =>
    obtain ⟨d, rest, rfl⟩ := List.exists_cons_of_ne_nil hne
    exact .inr ⟨c, rfl, d, rfl, hc, hpiece d List.mem_cons_self⟩

theorem singleSpaced (h : Respelled cs ds) (hstops : ∀ c, divides c = false → stops c = false)
    (hcs : SingleSpaced stops cs) : SingleSpaced stops ds := by
  induction h with
  | nil => trivial
  | keep c h ih =>
    refine ⟨fun hc => ?_, ih hcs.2⟩
    obtain ⟨hspace, hnext⟩ := hcs.1 hc
    refine ⟨hspace, ?_⟩
    rcases h.head_eq_or with heq | ⟨-, -, d, hd, -, hdivides⟩
    · rwa [heq]
    · exact (Option.any_eq_true _ _).2 ⟨d, hd, by simp [hstops d hdivides]⟩
  | replace hc hne hpiece h ih =>
    refine (singleSpaced_append fun d hd => ?_).2 (ih hcs.2)
    exact isBlank_of_not_divides (hpiece d hd)

/-- What is respelled stays tidy. -/
theorem tidy (h : Respelled cs ds) (hstops : ∀ c, divides c = false → stops c = false)
    (hcs : Tidy stops cs) : Tidy stops ds where
  head := by
    rcases h.head_eq_or with heq | ⟨-, -, d, hd, -, hdivides⟩
    · rw [heq]
      exact hcs.head
    · rw [Option.mem_def.1 hd]
      simp [isBlank_of_not_divides hdivides]
  single := h.singleSpaced hstops hcs.single

end Respelled

theorem respelled_lowerAfter (before cs : List Char) : Respelled cs (lowerAfter before cs) := by
  have hsigma : divides '\u03a3' = false ∧ divides '\u03c2' = false ∧
      divides '\u03c3' = false := by decide
  induction cs generalizing before with
  | nil => exact .nil
  | cons c cs ih =>
    unfold lowerAfter
    split
    · rename_i hc
      refine .replace (hc ▸ hsigma.1) (List.cons_ne_nil _ _) (fun d hd => ?_) (ih _)
      rw [List.mem_singleton.1 hd, lowerSigma]
      split
      · exact hsigma.2.1
      · exact hsigma.2.2
    · by_cases hc : divides c = true
      · rw [lowerChar_of_divides hc]
        exact .keep c (ih _)
      · rw [Bool.not_eq_true] at hc
        refine .replace hc (lowerChar_ne_nil c) (fun d hd => ?_) (ih _)
        rw [divides_of_mem_lowerChar hd, hc]

theorem respelled_capitalize (opening : Bool) (cs : List Char) :
    Respelled cs (capitalize opening cs) := by
  induction cs generalizing opening with
  | nil => exact .nil
  | cons c cs ih =>
    unfold capitalize
    split
    · rename_i h
      have hc : divides c = false := not_divides_of_isLowercase (by simp_all)
      refine .replace hc (upperChar_ne_nil c) (fun d hd => ?_) (ih _)
      rw [divides_of_mem_upperChar hd, hc]
    · exact .keep c (ih _)

theorem respelled_capitalizePronoun (inWord : Bool) (cs : List Char) :
    Respelled cs (capitalizePronoun inWord cs) := by
  induction cs generalizing inWord with
  | nil => exact .nil
  | cons c cs ih =>
    unfold capitalizePronoun
    split
    · rename_i h
      have hc : c = 'i' := by simp_all
      have hi : divides 'i' = false ∧ divides 'I' = false := by decide
      exact .replace (hc ▸ hi.1) (List.cons_ne_nil 'I' []) (by simp [hi.2]) (ih _)
    · exact .keep c (ih _)

/-! ## Sentences -/

/-- Sentence case keeps the spacing of a text. -/
theorem tidy_sentence {text : String} (hstops : ∀ c, divides c = false → stops c = false)
    (h : Tidy stops (spaced text).toList) : Tidy stops (sentence text).toList := by
  rw [sentence, lower, String.toList_ofList, String.toList_ofList]
  exact (respelled_capitalizePronoun _ _).tidy hstops
    ((respelled_capitalize _ _).tidy hstops ((respelled_lowerAfter _ _).tidy hstops h))

/-- A sentence has single spaces. -/
theorem spaced_sentence (text : String) : spaced (sentence text) = sentence text :=
  spaced_of_tidy (tidy_sentence (fun _ => isBlank_of_not_divides) (tidy_spaced text))

/-- Whether a text is fit to be said: it has something other than blanks, single spaces between
its words and none around them, and no blank directly before a mark. -/
structure IsClean (text : String) : Prop where
  not_blank : ∃ c ∈ text.toList, isBlank c = false
  spacing : " ".intercalate (fields text) = text
  marks : MarksAttached text.toList

theorem isClean_of_tidy {text : String} (h : Tidy cutsWord text.toList) (hne : text ≠ "") :
    IsClean text where
  not_blank := by
    obtain ⟨c, rest, hc⟩ := List.exists_cons_of_ne_nil (mt String.toList_eq_nil_iff.1 hne)
    refine ⟨c, by simp [hc], ?_⟩
    simpa [hc] using h.head
  spacing := spaced_of_tidy ⟨h.head, h.single.mono fun c hc => by simp [cutsWord, hc]⟩
  marks := h.single.marksAttached

/-- A sentence that is put together from words is clean, unless it is empty. -/
theorem isClean_spoken {ws : List String} (h : spoken ws ≠ "") : IsClean (spoken ws) := by
  have hjoined : MarksAttached (joined ws).toList := by
    rw [joined, String.toList_ofList]
    exact marksAttached_attachMarks _
  refine isClean_of_tidy (tidy_sentence (fun c hc => ?_) (tidy_spaced_of_marksAttached hjoined)) h
  simp_all [cutsWord, divides]

end Colloquy.Text
