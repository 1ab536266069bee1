import Colloquy.Pattern.Search
import Colloquy.Proofs.Script.Printing
import Colloquy.Proofs.Text.Words

/-!
# Classes as they are written

A class of a pattern keeps the text between its parentheses. As words of the notation have no
blanks in them, the words that it was written with are found in the text again.

* `isRun_of_mem_template`: the words of a template have no blanks in them.
* `fields_intercalate_of_isRun`: such words are found again between spaces.
* `WordClass.withoutParens_groupText`: the text between the parentheses.
* `Pattern.captures?_group`: what a class captures of a single word.
-/

namespace Colloquy

open Text Phrase

/-! ## Words -/

/-- Whether a text is one run of characters that are not blank. -/
def IsRun (text : String) : Prop := text ≠ "" ∧ ∀ c ∈ text.toList, isBlank c = false

theorem fields_of_isRun {text : String} (h : IsRun text) : fields text = [text] := by
  rw [fields, fieldsOf_of_forall h.2, if_neg (by simpa using h.1), List.map_singleton,
    String.ofList_toList]

/-- Runs with single spaces between them are found again. -/
theorem fields_intercalate_of_isRun {texts : List String} (h : ∀ text ∈ texts, IsRun text) :
    fields (" ".intercalate texts) = texts := by
  rw [fields_intercalate, List.flatMap_congr fun text htext => fields_of_isRun (h text htext),
    List.flatMap_singleton']

/-- The text of a token is a run. -/
theorem isRun_of_wellFormed {t : Token} (h : t.WellFormed) : IsRun t.text :=
  ⟨h.text_ne, h.isBlank_eq_false⟩

/-- The words of a template are runs. -/
theorem isRun_of_mem_template {template : Template}
    (h : AllWellFormed (template.map TemplateItem.token)) :
    ∀ text ∈ template.map TemplateItem.text, IsRun text := by
  refine List.forall_mem_map.2 fun x hx => ?_
  have htext : x.text = x.token.text := by cases x <;> rfl
  rw [htext]
  exact isRun_of_wellFormed (h _ (List.mem_map_of_mem hx))

/-! ## Classes -/

namespace WordClass

theorem withoutParens_groupText (parts : List String) :
    withoutParens (groupText parts).toList = (" ".intercalate parts).toList := by
  have hlist : (groupText parts).toList = '(' :: ((" ".intercalate parts).toList ++ [')']) := by
    simp [groupText]
  rw [hlist, withoutParens]
  simp

end WordClass

/-- A class captures a word that it admits, and nothing else. -/
theorem Pattern.captures?_group (carries : String → String → Bool) (written word : String) :
    captures? carries [.group written] [word] =
      if (WordClass.ofText written).admits carries word then some [word] else none := by
  cases hadmits : (WordClass.ofText written).admits carries word <;>
    simp [captures?, runs?, PatternItem.step, search, capture, wordsBetween, DeadEnds.has_empty,
      hadmits]

end Colloquy
