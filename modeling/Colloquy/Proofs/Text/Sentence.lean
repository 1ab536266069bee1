import Colloquy.Proofs.Text.Case

/-!
# Empty sentences

Putting words together and showing them as a sentence drops blanks only. So a sentence is empty
if and only if its words are made of blanks.

* `filter_attachMarks`: attaching marks drops blanks only.
* `spoken_eq_empty_iff`: the word lists whose sentence is empty.
-/

namespace Colloquy.Text

/-! ## Cutting at blanks -/

theorem fieldsOf_cons_blank {c : Char} (h : isBlank c = true) (cs : List Char) :
    fieldsOf (c :: cs) = fieldsOf cs := by
  have happend := fieldsOf_append_blank h [] cs
  rwa [fieldsOf_nil, List.nil_append, List.nil_append] at happend

theorem fieldsOf_cons_ne_nil {c : Char} (h : isBlank c = false) (cs : List Char) :
    fieldsOf (c :: cs) ≠ [] := by
  obtain ⟨run, runs, hruns⟩ := List.exists_cons_of_ne_nil (List.splitOnP_ne_nil isBlank cs)
  rw [fieldsOf, List.splitOnP_cons_eq_if_modifyHead, if_neg (by rw [h]; exact Bool.false_ne_true),
    hruns, List.modifyHead_cons, List.filter_cons_of_pos (by simp)]
  exact List.cons_ne_nil _ _

/-- A text without runs is made of blanks. -/
theorem fieldsOf_eq_nil_iff {cs : List Char} :
    fieldsOf cs = [] ↔ ∀ c ∈ cs, isBlank c = true := by
  induction cs with
  | nil => simp
  | cons c cs ih =>
    rw [List.forall_mem_cons]
    by_cases hc : isBlank c = true
    · rw [fieldsOf_cons_blank hc, ih]
      exact ⟨fun h => ⟨hc, h⟩, fun h => h.2⟩
    · refine ⟨fun h => absurd h (fieldsOf_cons_ne_nil (by simpa using hc) cs), ?_⟩
      exact fun h => absurd h.1 hc

theorem ne_nil_of_mem_fieldsOf {cs run : List Char} (h : run ∈ fieldsOf cs) : run ≠ [] := by
  simpa using (List.mem_filter.1 h).2

/-! ## Putting words together -/

/-- Attaching marks to the words before them drops blanks only. -/
theorem filter_attachMarks (cs : List Char) :
    (attachMarks cs).filter (!isBlank ·) = cs.filter (!isBlank ·) := by
  induction cs with
  | nil => rfl
  | cons c cs ih =>
    rw [attachMarks_cons]
    split
    · rename_i h
      rw [Bool.and_eq_true] at h
      rw [ih, List.filter_cons_of_neg (by simp [h.1])]
    · rw [List.filter_cons, List.filter_cons, ih]

theorem forall_isBlank_iff {cs : List Char} :
    (∀ c ∈ cs, isBlank c = true) ↔ cs.filter (!isBlank ·) = [] := by
  simp [List.filter_eq_nil_iff]

theorem forall_isBlank_attachMarks {cs : List Char} :
    (∀ c ∈ attachMarks cs, isBlank c = true) ↔ ∀ c ∈ cs, isBlank c = true := by
  rw [forall_isBlank_iff, forall_isBlank_iff, filter_attachMarks]

/-- What holds of the space holds of a text put together with spaces if and only if it holds of
its parts. -/
theorem forall_mem_intercalate_iff {P : Char → Prop} (hspace : P ' ') {texts : List String} :
    (∀ c ∈ (" ".intercalate texts).toList, P c) ↔ ∀ text ∈ texts, ∀ c ∈ text.toList, P c := by
  induction texts with
  | nil => simp
  | cons text texts ih =>
    -- There is no space after the last word.
    by_cases hnil : texts = []
    · simp [hnil]
    · rw [String.intercalate_cons_of_ne_nil hnil, String.toList_append, String.toList_append,
        List.forall_mem_append, List.forall_mem_append, ih, List.forall_mem_cons]
      simp [hspace]

theorem intercalate_eq_empty {texts : List String} (h : ∀ text ∈ texts, text ≠ "") :
    " ".intercalate texts = "" ↔ texts = [] := by
  cases texts with
  | nil => simp
  | cons text texts =>
    refine ⟨fun heq => absurd heq ?_, nofun⟩
    by_cases hnil : texts = []
    · rw [hnil, String.intercalate_singleton]
      exact h text List.mem_cons_self
    · rw [String.intercalate_cons_of_ne_nil hnil, String.append_eq_empty_iff,
        String.append_eq_empty_iff]
      exact fun heq => h text List.mem_cons_self heq.1.1

theorem spaced_eq_empty_iff {text : String} :
    spaced text = "" ↔ ∀ c ∈ text.toList, isBlank c = true := by
  have hfields : ∀ field ∈ fields text, field ≠ "" := by
    intro field hfield heq
    obtain ⟨run, hrun, rfl⟩ := List.mem_map.1 hfield
    exact ne_nil_of_mem_fieldsOf hrun (String.ofList_eq_empty_iff.1 heq)
  rw [spaced, intercalate_eq_empty hfields, fields, List.map_eq_nil_iff, fieldsOf_eq_nil_iff]

/-! ## Case -/

theorem lowerAfter_eq_nil {before cs : List Char} : lowerAfter before cs = [] ↔ cs = [] := by
  cases cs with
  | nil => exact ⟨fun _ => rfl, fun _ => rfl⟩
  | cons c cs =>
    refine ⟨fun h => absurd (List.append_eq_nil_iff.1 h).1 ?_, nofun⟩
    split
    · exact List.cons_ne_nil _ _
    · exact lowerChar_ne_nil c

theorem capitalize_eq_nil {opening : Bool} {cs : List Char} :
    capitalize opening cs = [] ↔ cs = [] := by
  cases cs with
  | nil => exact ⟨fun _ => rfl, fun _ => rfl⟩
  | cons c cs =>
    refine ⟨fun h => ?_, nofun⟩
    unfold capitalize at h
    split at h
    · exact absurd (List.append_eq_nil_iff.1 h).1 (upperChar_ne_nil c)
    · cases h

theorem capitalizePronoun_eq_nil {inWord : Bool} {cs : List Char} :
    capitalizePronoun inWord cs = [] ↔ cs = [] := by
  cases cs with
  | nil => exact ⟨fun _ => rfl, fun _ => rfl⟩
  | cons c cs => exact ⟨nofun, nofun⟩

/-! ## Sentences -/

theorem sentence_eq_empty_iff {text : String} :
    sentence text = "" ↔ ∀ c ∈ text.toList, isBlank c = true := by
  rw [sentence, String.ofList_eq_empty_iff, capitalizePronoun_eq_nil, capitalize_eq_nil, lower,
    String.toList_ofList, lowerAfter_eq_nil, String.toList_eq_nil_iff, spaced_eq_empty_iff]

/-- The sentence of words is empty if and only if they are made of blanks. -/
theorem spoken_eq_empty_iff {ws : List String} :
    spoken ws = "" ↔ ∀ word ∈ ws, ∀ c ∈ word.toList, isBlank c = true := by
  have hspace : isBlank ' ' = true := rfl
  rw [spoken, sentence_eq_empty_iff, joined, String.toList_ofList, forall_isBlank_attachMarks]
  exact forall_mem_intercalate_iff hspace

end Colloquy.Text
