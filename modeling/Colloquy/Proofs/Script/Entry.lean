import Colloquy.Proofs.Script.Phrase
import Mathlib

/-!
# Rules in terms of their parts

The rule that an entry of a script stands for. Of the parts of a kind the last one counts, and
transformations are gathered in order.

* `Phrase.Entry.value_eq`: the rule field by field.
* `Phrase.Entry.references_value`: the keywords that it refers to.
* `Phrase.Entry.isApplicable_value`: whether it has something to do.
-/

namespace Colloquy

open Phrase

namespace Phrase

/-! ## Parts of a kind -/

namespace Clause

def substitute? : Clause → Option String
  | substitute word => some word
  | _ => none

def precedence? : Clause → Option Nat
  | precedence n => some n
  | _ => none

def tags? : Clause → Option (List String)
  | tags members => some members
  | _ => none

def link? : Clause → Option String
  | link target => some target
  | _ => none

def transformation? : Clause → Option (List Element × List Reaction)
  | transformation pattern reactions => some (pattern, reactions)
  | _ => none

section

variable {c : Clause}

@[simp] theorem substitute?_eq_some_iff {word : String} :
    c.substitute? = some word ↔ c = .substitute word := by
  cases c <;> simp [substitute?]

@[simp] theorem precedence?_eq_some_iff {n : Nat} :
    c.precedence? = some n ↔ c = .precedence n := by
  cases c <;> simp [precedence?]

@[simp] theorem tags?_eq_some_iff {members : List String} :
    c.tags? = some members ↔ c = .tags members := by
  cases c <;> simp [tags?]

@[simp] theorem link?_eq_some_iff {target : String} : c.link? = some target ↔ c = .link target := by
  cases c <;> simp [link?]

@[simp] theorem transformation?_eq_some_iff {t : List Element × List Reaction} :
    c.transformation? = some t ↔ c = .transformation t.1 t.2 := by
  cases c <;> simp [transformation?, Prod.ext_iff]

end

end Clause

namespace Entry

/-- What a rule is found by. -/
def keyword (e : Entry) : String := Text.upper e.spelling

/-- The link of a rule as it is spelled. Of several links only the last one counts. -/
def link? (e : Entry) : Option String := (e.clauses.filterMap Clause.link?).getLast?

def transformations (e : Entry) : List (List Element × List Reaction) :=
  e.clauses.filterMap Clause.transformation?

/-- The keywords that a rule refers to as they are spelled: its link, and the targets of its
responses. -/
def targets (e : Entry) : List String :=
  e.link?.toList ++ e.transformations.flatMap fun t => t.2.filterMap Reaction.target?

/-- Whether a rule has a transformation or a link. -/
def IsActive (e : Entry) : Prop :=
  (∃ pattern reactions, Clause.transformation pattern reactions ∈ e.clauses) ∨
    ∃ target, Clause.link target ∈ e.clauses

/-! ## Fields -/

/-- The rule of an entry, field by field. -/
theorem value_eq (e : Entry) : e.value =
    { spelling := e.spelling
      substitute := (e.clauses.filterMap Clause.substitute?).getLast?.map Text.upper
      precedence := (e.clauses.filterMap Clause.precedence?).getLast?.getD 0
      tags := ((e.clauses.filterMap Clause.tags?).getLast?.getD []).filterMap tag?
      link := e.link?.map Text.upper
      transformations := e.transformations.map fun t =>
        ⟨t.1.map Element.value, t.2.map Reaction.value⟩ } := by
  obtain ⟨spelling, hne, clauses⟩ := e
  simp only [Entry.value, link?, transformations]
  induction clauses using List.reverseRecOn with
  | nil => rfl
  | append_singleton clauses c ih =>
    rw [List.map_append, List.map_singleton, Rule.ofClauses, List.foldl_concat, ← Rule.ofClauses,
      ih]
    cases c <;>
      simp [Clause.value, Rule.withClause, Clause.substitute?, Clause.precedence?, Clause.tags?,
        Clause.link?, Clause.transformation?]

end Entry

end Phrase

/-! ## Names -/

theorem RuleName.ofSpelling_inj {a b : String} :
    RuleName.ofSpelling a = .ofSpelling b ↔ Text.upper a = Text.upper b := by
  simp only [RuleName.ofSpelling]
  split <;> split <;> simp_all [eq_comm]

theorem RuleName.word?_inj {a b : RuleName} {word : String} (h : a.word? = b.word?)
    (ha : a.word? = some word) : a = b := by
  cases a <;> cases b <;> simp_all [RuleName.word?]

theorem Rule.name_eq_fallback_iff {rule : Rule} :
    rule.name = .fallback ↔ Text.upper rule.spelling = RuleName.fallbackSpelling := by
  rw [name, RuleName.ofSpelling]
  split <;> simp_all

/-- The name of a keyword rule is its keyword in upper case. -/
theorem Rule.name_eq_keyword {rule : Rule} (h : rule.name ≠ .fallback) :
    rule.name = .keyword (Text.upper rule.spelling) := by
  unfold name RuleName.ofSpelling at h ⊢
  dsimp only at h ⊢
  split at h
  · exact absurd rfl h
  · rename_i hne
    rw [if_neg hne]

namespace Phrase.Entry

theorem name_value (e : Entry) : e.value.name = .ofSpelling e.spelling := by
  rw [Rule.name, value_eq]

theorem name_value_eq_fallback {e : Entry} :
    e.value.name = .fallback ↔ e.keyword = RuleName.fallbackSpelling := by
  rw [name_value, RuleName.ofSpelling, Entry.keyword]
  split <;> simp_all

theorem word?_name_value {e : Entry} {keyword : String} : e.value.name.word? = some keyword ↔
    e.keyword = keyword ∧ e.keyword ≠ RuleName.fallbackSpelling := by
  rw [name_value, RuleName.ofSpelling, Entry.keyword]
  split <;> simp_all [RuleName.word?]

theorem name_value_inj {e e' : Entry} : e.value.name = e'.value.name ↔ e.keyword = e'.keyword := by
  rw [name_value, name_value, RuleName.ofSpelling_inj, Entry.keyword, Entry.keyword]

end Phrase.Entry

/-! ## References -/

theorem Phrase.Reaction.target?_value (x : Reaction) :
    x.value.target? = x.target?.map Text.upper := by
  cases x with
  | reply template plain =>
    simp only [Reaction.value, Response.ofTemplate]
    split <;> rfl
  | refer target => rfl
  | recast template target => rfl

namespace Phrase.Entry

theorem references_value (e : Entry) : e.value.references = e.targets.map Text.upper := by
  have hreactions (xs : List Reaction) : (xs.map Reaction.value).filterMap Response.target? =
      (xs.filterMap Reaction.target?).map Text.upper := by
    rw [List.filterMap_map, List.map_filterMap]
    exact List.filterMap_congr fun x _ => x.target?_value
  rw [Rule.references, value_eq, targets, List.map_append, List.flatMap_map, List.map_flatMap]
  simp only [hreactions]
  cases e.link? <;> rfl

theorem mem_transformations {e : Entry} {t : List Element × List Reaction} :
    t ∈ e.transformations ↔ .transformation t.1 t.2 ∈ e.clauses := by
  simp [transformations]

theorem transformations_ne_nil_iff {e : Entry} : e.transformations ≠ [] ↔
    ∃ pattern reactions, Clause.transformation pattern reactions ∈ e.clauses := by
  rw [← List.isEmpty_eq_false_iff, List.isEmpty_eq_false_iff_exists_mem]
  simp only [mem_transformations, Prod.exists]

theorem link?_ne_none_iff {e : Entry} :
    e.link? ≠ none ↔ ∃ target, Clause.link target ∈ e.clauses := by
  rw [link?, ne_eq, List.getLast?_eq_none_iff, ← ne_eq, ← List.isEmpty_eq_false_iff,
    List.isEmpty_eq_false_iff_exists_mem]
  simp

theorem isApplicable_value {e : Entry} : e.value.isApplicable = true ↔ e.IsActive := by
  rw [Rule.isApplicable, value_eq, IsActive, ← link?_ne_none_iff, ← transformations_ne_nil_iff]
  simp [Option.ne_none_iff_isSome]

end Phrase.Entry

end Colloquy
