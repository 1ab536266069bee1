import Colloquy.Pattern.Search
import Std.Data.TreeMap

/-!
# Applying rules

A rulebook is what a conversation looks up in a script: the rule of a keyword, the fallback rule
and the tags that a word carries. It never changes; a conversation only moves cursors. The
responses of a transformation are used in turn, and its cursor says which one is next.

* `rotate`: the item at a cursor and the cursor after it.
* `Cursors`: the cursors of all transformations, each 0 until it is set.
* `Rulebook.ofScript`: the rulebook of a script.
* `Rule.apply`: what a rule makes of the words of a clause. The first transformation that
  matches and has a response decides; the rule's link is followed if there is none.
-/

namespace Colloquy

/-! ## Rotation -/

/-- The item of a list at a cursor, and the cursor of the item after it, which is the first
after the last. There is none in an empty list. -/
def rotate {α : Type} (items : List α) (cursor : Nat) : Option (α × Nat) :=
  let i := cursor % items.length
  items[i]?.map (·, (i + 1) % items.length)

/-- The cursors of transformations, found by the name of the rule and the place in it. -/
structure Cursors where
  entries : List ((RuleName × Nat) × Nat) := []
deriving DecidableEq, Repr

namespace Cursors

/-- The cursor of the `i`-th transformation of a rule. -/
def get (cursors : Cursors) (name : RuleName) (i : Nat) : Nat :=
  (cursors.entries.lookup (name, i)).getD 0

/-- Moves the cursor of the `i`-th transformation of a rule. -/
def set (cursors : Cursors) (name : RuleName) (i cursor : Nat) : Cursors :=
  ⟨((name, i), cursor) :: cursors.entries.filter (·.1 ≠ (name, i))⟩

@[simp] theorem get_set_self (cursors : Cursors) (name : RuleName) (i cursor : Nat) :
    (cursors.set name i cursor).get name i = cursor := by
  simp [get, set]

/-- Moving one cursor leaves all others where they are. -/
theorem get_set_of_ne {cursors : Cursors} {name name' : RuleName} {i i' cursor : Nat}
    (h : (name', i') ≠ (name, i)) :
    (cursors.set name i cursor).get name' i' = cursors.get name' i' := by
  have hne : ((name', i') == (name, i)) = false := beq_false_of_ne h
  have lookup_filter (entries : List ((RuleName × Nat) × Nat)) :
      (entries.filter (·.1 ≠ (name, i))).lookup (name', i') = entries.lookup (name', i') := by
    induction entries with
    | nil => rfl
    | cons entry entries ih =>
      obtain ⟨key, value⟩ := entry
      by_cases hkey : key = (name, i)
      · rw [List.filter_cons_of_neg (by simpa using hkey), ih, List.lookup_cons, hkey, hne]
      · rw [List.filter_cons_of_pos (by simpa using hkey), List.lookup_cons, List.lookup_cons, ih]
  simp only [get, set, List.lookup_cons, hne, lookup_filter]

end Cursors

/-! ## Rules -/

/-- What the application of a rule leads to. -/
inductive Outcome where
  /-- A reply in these words. -/
  | reply (words : List String)
  /-- Go on with another keyword, on other words if there are any. -/
  | redirect (keyword : String) (newWords : Option (List String))
  /-- Go on with the next keyword. -/
  | pass
  /-- Nothing matched. -/
  | unmatched
deriving DecidableEq, Repr

namespace Response

/-- What a response leads to, with the texts that its pattern captured. -/
def outcome (captures : List String) : Response → Outcome
  | reply template => .reply (template.fill captures)
  | refer keyword => .redirect keyword none
  | recast template keyword => .redirect keyword (some (template.fill captures))
  | pass => .pass

end Response

/-- A transformation that has been found to apply. -/
structure Consultation where
  /-- Its place in the rule. -/
  index : Nat
  responses : List Response
  /-- What its pattern captured. -/
  captures : List String
deriving DecidableEq, Repr

namespace Rule

/-- What a transformation makes of the words, if it is the `i`-th of its rule. -/
def consultation? (carries : String → String → Bool) (words : List String) (t : Transformation)
    (i : Nat) : Option Consultation :=
  if t.responses.isEmpty then none
  else (t.pattern.captures? carries words).map (⟨i, t.responses, ·⟩)

/-- The first transformation that has a response and matches the words. -/
def consult? (carries : String → String → Bool) (rule : Rule) (words : List String) :
    Option Consultation :=
  rule.transformations.zipIdx.findSome? fun (t, i) => consultation? carries words t i

/-- What follows where no transformation applies. -/
def otherwise (rule : Rule) : Outcome :=
  match rule.link with
  | some keyword => .redirect keyword none
  | none => .unmatched

/-- Applies a rule to words. The transformation that decides moves on to its next response. -/
def apply (carries : String → String → Bool) (rule : Rule) (words : List String)
    (cursors : Cursors) : Outcome × Cursors :=
  match rule.consult? carries words with
  | none => (rule.otherwise, cursors)
  | some c =>
    match rotate c.responses (cursors.get rule.name c.index) with
    | none => (rule.otherwise, cursors)
    | some (response, next) =>
      (response.outcome c.captures, cursors.set rule.name c.index next)

end Rule

/-! ## Rulebooks -/

/-- What a conversation looks up in a script. -/
structure Rulebook where
  /-- The rule of a word, if it is a keyword. -/
  rule? : String → Option Rule
  /-- The rule that is used when no other gives a reply. -/
  fallback : Rule
  /-- Whether a tag is carried by a word. -/
  carries : String → String → Bool

namespace Rulebook

/-- The keyword rules with their keywords. -/
def entries (rules : List Rule) : List (String × Rule) :=
  rules.filterMap fun rule => rule.name.word?.map (·, rule)

/-- The keyword rules by their keywords. -/
def table (rules : List Rule) : Std.TreeMap String Rule := .ofList (entries rules)

/-- The rulebook of a script. -/
def ofScript (script : Script) : Rulebook :=
  let rules := table script.rules
  let tags := TagIndex.ofRules script.rules
  { rule? := fun word => rules[word]?
    fallback := script.fallback
    carries := tags.contains }

/-- Whether a word has a rule that can do anything with a clause. -/
def answers (book : Rulebook) (word : String) : Bool := (book.rule? word).any Rule.isApplicable

/-- Applies the rule of a keyword. -/
def apply (book : Rulebook) (keyword : String) (words : List String) (cursors : Cursors) :
    Outcome × Cursors :=
  match book.rule? keyword with
  | some rule => rule.apply book.carries words cursors
  | none => (.unmatched, cursors)

/-- Applies the fallback rule. -/
def applyFallback (book : Rulebook) (words : List String) (cursors : Cursors) :
    Outcome × Cursors :=
  book.fallback.apply book.carries words cursors

end Rulebook

end Colloquy
