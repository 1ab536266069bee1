import Colloquy.Proofs.Script.Acceptance
import Colloquy.Rulebook

/-!
# Looking up rules

A rulebook finds the rules of a script in a search tree. As the rules of a script that is read
have different names, it finds the same rules as a search of the list of all rules. The tags
that a word carries are looked up in a list, of which only the members count.

* `Rulebook.rule?_ofScript`: the rules that a rulebook finds.
* `Rulebook.carries_ofScript`: the tags that a word carries.
-/

namespace Colloquy

theorem TagIndex.contains_ofRules {rules : List Rule} {tag word : String} :
    (ofRules rules).contains tag word = true ↔
      ∃ rule ∈ rules, rule.name = .keyword word ∧ tag ∈ rule.tags := by
  rw [contains, List.contains_iff_mem, ofRules, List.mem_flatMap]
  refine exists_congr fun rule => and_congr_right fun _ => ?_
  cases rule.name <;> simp [and_comm]

namespace Rulebook

variable {script : Script}

theorem mem_entries {rules : List Rule} {word : String} {rule : Rule} :
    (word, rule) ∈ entries rules ↔ rule ∈ rules ∧ rule.name.word? = some word := by
  simp only [entries, List.mem_filterMap, Option.map_eq_some_iff, Prod.mk.injEq]
  constructor
  · rintro ⟨rule', hmem, word', hword, rfl, rfl⟩
    exact ⟨hmem, hword⟩
  · rintro ⟨hmem, hword⟩
    exact ⟨rule, hmem, word, hword, rfl, rfl⟩

theorem pairwise_entries {rules : List Rule} (h : (rules.map Rule.name).Nodup) :
    (entries rules).Pairwise fun a b => ¬compare a.1 b.1 = .eq := by
  rw [entries, List.pairwise_filterMap]
  rw [List.Nodup, List.pairwise_map] at h
  refine h.imp fun {rule rule'} hne entry hentry entry' hentry' => ?_
  obtain ⟨word, hword, rfl⟩ := Option.map_eq_some_iff.1 hentry
  obtain ⟨word', hword', rfl⟩ := Option.map_eq_some_iff.1 hentry'
  rw [Std.compare_eq_iff_eq]
  rintro rfl
  exact hne (RuleName.word?_inj (hword.trans hword'.symm) hword)

/-- A rulebook finds the rule of the script. -/
theorem rule?_ofScript (hs : script.Sound) (word : String) :
    (ofScript script).rule? word = script.rule? word := by
  show (Std.TreeMap.ofList (entries script.rules))[word]? = script.rule? word
  cases hrule : script.rule? word with
  | none =>
    have hcontains : ((entries script.rules).map Prod.fst).contains word = false := by
      rw [← Bool.not_eq_true, List.contains_iff_mem]
      intro hmem
      obtain ⟨⟨word', rule⟩, hentry, rfl⟩ := List.mem_map.1 hmem
      obtain ⟨hmem, hword⟩ := mem_entries.1 hentry
      exact List.find?_eq_none.1 hrule rule hmem (beq_iff_eq.2 hword)
    exact Std.TreeMap.getElem?_ofList_of_contains_eq_false hcontains
  | some rule =>
    have hword := List.find?_some hrule
    rw [beq_iff_eq] at hword
    exact Std.TreeMap.getElem?_ofList_of_mem Std.ReflCmp.compare_self
      (pairwise_entries hs.distinct) (mem_entries.2 ⟨List.mem_of_find?_eq_some hrule, hword⟩)

/-- The words that a rulebook answers are those that the script answers. -/
theorem answers_ofScript (hs : script.Sound) : (ofScript script).answers = script.answers := by
  funext word
  rw [answers, rule?_ofScript hs, Script.answers]

/-- A tag is carried by the words of the rules that list it. -/
theorem carries_ofScript {tag word : String} : (ofScript script).carries tag word = true ↔
    ∃ rule ∈ script.rules, rule.name = .keyword word ∧ tag ∈ rule.tags :=
  TagIndex.contains_ofRules

end Rulebook

end Colloquy
