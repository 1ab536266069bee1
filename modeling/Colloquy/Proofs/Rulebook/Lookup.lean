import Colloquy.Proofs.Rulebook.Calls

/-!
# No word selects two rules

A script is searched for the rule of a word from the front, and a rulebook finds the rule that was
put into its tree last. In the scripts that are read no two rules have the same keyword, so that
both find the only rule there is, or none.

* `Script.rule?_eq_none_iff`: the words that select no rule.
* `Rulebook.lookup_of_read`: the names of the rules that are read, and the rule of each word.
-/

namespace Colloquy

theorem RuleName.word?_eq_some_iff {name : RuleName} {word : String} :
    name.word? = some word ↔ name = .keyword word := by
  cases name <;> simp [word?]

namespace Script

variable {script : Script}

theorem rule?_eq_none_iff {word : String} :
    script.rule? word = none ↔ ∀ rule ∈ script.rules, rule.name ≠ .keyword word := by
  simp only [rule?, List.find?_eq_none, beq_iff_eq, RuleName.word?_eq_some_iff, ne_eq]

/-- A rule that a word selects is the only one with the word as its keyword. -/
theorem Sound.eq_of_rule? (hs : script.Sound) {word : String} {rule rule' : Rule}
    (hrule : script.rule? word = some rule) (hmem : rule' ∈ script.rules)
    (hname : rule'.name = .keyword word) : rule' = rule := by
  have hrule' : script.rule? word = some rule' :=
    (rule?_eq_some_iff hs.distinct).2 ⟨hmem, RuleName.word?_eq_some_iff.2 hname⟩
  exact Option.some.inj (hrule'.symm.trans hrule)

end Script

namespace Rulebook

/-- In a script that is read, the keyword rules are found by their keywords in upper case, which
are all different, and the fallback rule is the only one that is called `NONE`. All cursors are at
the first response. A word selects the same rule in the script and in the rulebook, which is the
only rule with the word as its keyword, or it selects none in both; it never selects the fallback
rule. -/
theorem lookup_of_read {text : String} {script : Script} (h : Script.read text = .ok script) :
    let book := ofScript script
    (∀ rule ∈ script.rules, rule.name = .keyword (Text.upper rule.spelling) ∧
      Text.upper rule.spelling ≠ "NONE") ∧
    (script.rules.map fun rule => Text.upper rule.spelling).Nodup ∧
    (script.fallback.name = .fallback ∧ Text.upper script.fallback.spelling = "NONE") ∧
    (∀ rule ∈ script.rules ++ [script.fallback], ∀ i,
      (book.cursorsAfter []).get rule.name i = 0) ∧
    ∀ word, book.rule? word = script.rule? word ∧ script.rule? word ≠ some script.fallback ∧
      (script.rule? word = none ∧ (∀ rule ∈ script.rules, rule.name ≠ .keyword word) ∨
        ∃ rule, script.rule? word = some rule ∧ rule ∈ script.rules ∧ rule.name = .keyword word ∧
          ∀ rule' ∈ script.rules, rule'.name = .keyword word → rule' = rule) := by
  intro book
  have hs := Script.sound_of_read h
  have hnone := Rule.name_eq_fallback_iff.1 hs.fallback_name
  refine ⟨fun rule hrule => ?_, ?_, ⟨hs.fallback_name, hnone⟩, fun rule _ i => rfl,
    fun word => ⟨rule?_ofScript hs word, fun hfallback => ?_, ?_⟩⟩
  · have hname := hs.rules_name rule hrule
    exact ⟨Rule.name_eq_keyword hname, fun hupper => hname (Rule.name_eq_fallback_iff.2 hupper)⟩
  · have hdistinct := hs.distinct
    simp only [List.Nodup, List.pairwise_map, ne_eq] at hdistinct ⊢
    exact hdistinct.imp fun hne hupper => hne (RuleName.ofSpelling_inj.2 hupper)
  · have hmem := ((Script.rule?_eq_some_iff hs.distinct).1 hfallback).1
    exact hs.rules_name _ hmem hs.fallback_name
  · cases hrule : script.rule? word with
    | none => exact .inl ⟨rfl, Script.rule?_eq_none_iff.1 hrule⟩
    | some rule =>
      obtain ⟨hmem, hword⟩ := (Script.rule?_eq_some_iff hs.distinct).1 hrule
      exact .inr ⟨rule, rfl, hmem, RuleName.word?_eq_some_iff.1 hword,
        fun rule' hmem' hname => hs.eq_of_rule? hrule hmem' hname⟩

/-- A script whose keywords are not all written in upper case. -/
def namesText : String :=
  "(HI) (my = YOUR) (none ((0) (SO))) (Street ((0) (WHERE))) " ++
    "(MEMORY A (0 = A) (0 = B) (0 = C) (0 = D))"

def namesScript : Script where
  greeting := ["HI"]
  rules :=
    [{ spelling := "my", substitute := some "YOUR" },
     { spelling := "Street", transformations := [⟨[.count 0], [.reply [.word "WHERE"]]⟩] }]
  fallback := { spelling := "none", transformations := [⟨[.count 0], [.reply [.word "SO"]]⟩] }
  memory := .letters "A"

/-- A word selects a rule only in upper case, and `NONE` selects none. -/
theorem lookup_of_namesScript : Script.read namesText = .ok namesScript ∧
    (ofScript namesScript).rule? "STREET" = namesScript.rules[1]? ∧
    (ofScript namesScript).rule? "street" = none ∧ (ofScript namesScript).rule? "NONE" = none := by
  have h : Script.read namesText = .ok namesScript := by decide +kernel
  obtain ⟨-, -, -, -, hlookup⟩ := lookup_of_read h
  refine ⟨h, ?_, ?_, ?_⟩
  · rw [(hlookup "STREET").1]
    decide +kernel
  · rw [(hlookup "street").1]
    decide +kernel
  · rw [(hlookup "NONE").1]
    decide +kernel

end Rulebook

end Colloquy
