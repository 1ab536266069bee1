import Colloquy.Proofs.Pattern.Search
import Colloquy.Proofs.Pattern.WordClass

/-!
# Filling templates loses nothing

What a pattern captures is kept as text, and cut into words again where a template is filled. As
words have no blanks in them, the words that were captured are found again: a slot stands for
just the run of its element.

* `TemplateItem.expand`: the words that an element of a template stands for, given the runs.
* `Template.fill_intercalate`: a template that is filled from the texts of runs.
* `Template.fill_slots`: the slots of all runs, in order, give back their words.
* `Template.isRun_of_mem_fill`: a filled template has no blanks in its words.
-/

namespace Colloquy

open Text

/-! ## Runs -/

theorem isBlank_eq_false_of_mem_fieldsOf {cs run : List Char} (h : run ∈ fieldsOf cs) :
    ∀ c ∈ run, isBlank c = false := by
  have hrun {cs : List Char} (hcs : ∀ c ∈ cs, isBlank c = false) (h : run ∈ fieldsOf cs) :
      ∀ c ∈ run, isBlank c = false := by
    rw [fieldsOf_of_forall hcs] at h
    split at h <;> simp_all
  induction cs using cut_induction isBlank with
  | run cs hcs => exact hrun hcs h
  | cut cs c rest hcs hc ih =>
    rw [fieldsOf_append_blank hc] at h
    rcases List.mem_append.1 h with h | h
    · exact hrun hcs h
    · exact ih h

/-- What a text is cut into are runs. -/
theorem isRun_of_mem_fields {text word : String} (h : word ∈ fields text) : IsRun word := by
  obtain ⟨run, hrun, rfl⟩ := List.mem_map.1 h
  refine ⟨fun heq => ne_nil_of_mem_fieldsOf hrun (String.ofList_eq_empty_iff.1 heq), ?_⟩
  rw [String.toList_ofList]
  exact isBlank_eq_false_of_mem_fieldsOf hrun

theorem isRun_missingWord : IsRun missingWord := ⟨by decide, by simp [missingWord, isBlank]⟩

/-! ## Elements of templates -/

namespace TemplateItem

/-- The words that an element of a template stands for: a slot for the run of its number, counted
from 1, or for a word of its own if there is no such run. -/
def expand (runs : List (List String)) : TemplateItem → List String
  | word text => [text]
  | slot k => if 1 ≤ k ∧ k ≤ runs.length then runs.getD (k - 1) [] else [missingWord]

/-- An element is filled with the words that it stands for. -/
theorem fill_intercalate {runs : List (List String)}
    (h : ∀ run ∈ runs, ∀ word ∈ run, IsRun word) (x : TemplateItem) :
    x.fill (runs.map (" ".intercalate ·)) = x.expand runs := by
  cases x with
  | word text => rfl
  | slot k =>
    cases k with
    | zero => rfl
    | succ k =>
      rw [fill, expand, List.getElem?_map]
      cases hrun : runs[k]? with
      | none =>
        have hlength := List.getElem?_eq_none_iff.1 hrun
        rw [if_neg (by omega)]
        rfl
      | some run =>
        have hlength := (List.getElem?_eq_some_iff.1 hrun).1
        rw [if_pos (by omega), Nat.add_sub_cancel, List.getD_eq_getElem?_getD, hrun]
        exact fields_intercalate_of_isRun (h run (List.mem_of_getElem? hrun))

theorem isRun_of_mem_fill {captures : List String} {x : TemplateItem}
    (h : ∀ text, x = word text → IsRun text) : ∀ word ∈ x.fill captures, IsRun word := by
  intro word hword
  cases x with
  | word text =>
    rw [List.mem_singleton.1 hword]
    exact h text rfl
  | slot k =>
    cases k with
    | zero =>
      rw [List.mem_singleton.1 hword]
      exact isRun_missingWord
    | succ k =>
      rw [fill] at hword
      split at hword
      · exact isRun_of_mem_fields hword
      · rw [List.mem_singleton.1 hword]
        exact isRun_missingWord

end TemplateItem

/-! ## Templates -/

namespace Template

variable {runs : List (List String)}

/-- Each element of a template is filled with the words that it stands for. -/
theorem fill_intercalate (h : ∀ run ∈ runs, ∀ word ∈ run, IsRun word) (template : Template) :
    template.fill (runs.map (" ".intercalate ·)) = template.flatMap (TemplateItem.expand runs) :=
  List.flatMap_congr fun x _ => x.fill_intercalate h

/-- The template of `n` slots in order. -/
def slots (n : Nat) : Template := (List.range n).map fun k => .slot (k + 1)

theorem flatMap_expand_slots (runs : List (List String)) :
    (slots runs.length).flatMap (TemplateItem.expand runs) = runs.flatten := by
  have hexpand (k : Nat) (hk : k ∈ List.range runs.length) :
      TemplateItem.expand runs (.slot (k + 1)) = runs.getD k [] := by
    have hlt := List.mem_range.1 hk
    rw [TemplateItem.expand, if_pos (by omega), Nat.add_sub_cancel]
  have hmap : (List.range runs.length).map (runs.getD · []) = runs := by
    apply List.ext_getElem
    · simp
    · intro k hk hk'
      simp [hk']
  rw [slots, List.flatMap_map, List.flatMap_congr hexpand, List.flatMap_def, hmap]

/-- The slots of all runs, in order, give back the words. -/
theorem fill_slots (h : ∀ run ∈ runs, ∀ word ∈ run, IsRun word) :
    (slots runs.length).fill (runs.map (" ".intercalate ·)) = runs.flatten := by
  rw [fill_intercalate h, flatMap_expand_slots]

/-- A filled template has no blanks in its words, if the template has none. -/
theorem isRun_of_mem_fill {template : Template} (h : ∀ text, .word text ∈ template → IsRun text)
    (captures : List String) : ∀ word ∈ template.fill captures, IsRun word := by
  intro word hword
  obtain ⟨x, hx, hword⟩ := List.mem_flatMap.1 hword
  refine TemplateItem.isRun_of_mem_fill (fun text htext => h text ?_) word hword
  rwa [← htext]

end Template

/-- What a pattern captures of words are the runs of a split of them: there is one for each element,
slots stand for just these runs, and all slots in order give back the words. -/
theorem Pattern.exists_splits_of_captures? {carries : String → String → Bool} {pattern : Pattern}
    {words captures : List String} (hwords : ∀ word ∈ words, IsRun word)
    (h : pattern.captures? carries words = some captures) :
    ∃ runs, Splits (PatternItem.Fits carries) pattern words runs ∧
      captures = runs.map (" ".intercalate ·) ∧ runs.length = pattern.length ∧
      (∀ template : Template,
        template.fill captures = template.flatMap (TemplateItem.expand runs)) ∧
      (Template.slots pattern.length).fill captures = words := by
  obtain ⟨runs, hfirst, rfl⟩ := captures?_eq_some_iff.1 h
  have hsplits := hfirst.holds
  have hruns : ∀ run ∈ runs, ∀ word ∈ run, IsRun word := by
    intro run hrun word hword
    refine hwords word ?_
    rw [← hsplits.flatten_eq]
    exact List.mem_flatten.2 ⟨run, hrun, hword⟩
  refine ⟨runs, hsplits, rfl, hsplits.length_eq, Template.fill_intercalate hruns, ?_⟩
  rw [← hsplits.length_eq, Template.fill_slots hruns, hsplits.flatten_eq]

end Colloquy
