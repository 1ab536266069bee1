import Colloquy.Text

/-!
# Scripts

A script is a greeting, keyword rules in the order of their declaration, the fallback rule
`NONE` and the memory rule. The keyword rule

    (MY = YOUR 2 ((0 YOUR 0) (YOUR 3) (WHY DO YOU SAY YOUR 3)))

has the substitute `YOUR`, precedence 2 and one transformation, with the pattern `0 YOUR 0`
and two responses.

* `Template.fill`: the words of a template, filled with what a pattern has captured.
* `Rule.name`: what a rule is found by, the upper case of how its keyword is spelled.
* `Rule.references`: the keywords that a rule may go on with.
* `Script.rule?`: the rule of a keyword.
* `Script.danglingReference?`: a reference to a keyword that no rule can answer for.
-/

namespace Colloquy

/-! ## Patterns and templates -/

/-- One element of a pattern. Each captures a run of the words that are matched. -/
inductive PatternItem where
  /-- This word. -/
  | word (text : String)
  /-- Exactly `n` words if `n` is positive, any number of words if `n` is 0. -/
  | count (n : Nat)
  /-- One word of a class, kept as it is written: `(* WANT NEED)` or `(/FAMILY)`. -/
  | group (written : String)
deriving DecidableEq, Repr

/-- One element of a template. -/
inductive TemplateItem where
  /-- This word. -/
  | word (text : String)
  /-- The words captured by the `k`-th element of a pattern, counted from 1. -/
  | slot (k : Nat)
deriving DecidableEq, Repr

abbrev Pattern := List PatternItem

abbrev Template := List TemplateItem

/-- The word in place of a slot that no captured text belongs to. -/
def missingWord : String := "HMM"

namespace TemplateItem

/-- The words that an element of a template stands for. -/
def fill (captures : List String) : TemplateItem → List String
  | word text => [text]
  | slot 0 => [missingWord]
  | slot (i + 1) =>
    match captures[i]? with
    | some capture => Text.fields capture
    | none => [missingWord]

end TemplateItem

namespace Template

/-- The words of a template whose slots are filled from the captured texts. -/
def fill (captures : List String) (template : Template) : List String :=
  template.flatMap (TemplateItem.fill captures)

end Template

/-! ## Rules -/

/-- What follows once a pattern has matched. -/
inductive Response where
  /-- Reply with the template. -/
  | reply (template : Template)
  /-- Go on with the rule of another keyword. -/
  | refer (keyword : String)
  /-- Put the template in place of the words, and go on with the rule of another keyword. -/
  | recast (template : Template) (keyword : String)
  /-- Leave the reply to the next keyword. -/
  | pass
deriving DecidableEq, Repr

namespace Response

/-- The keyword that a response goes on with. -/
def target? : Response → Option String
  | refer keyword => some keyword
  | recast _ keyword => some keyword
  | reply _ => none
  | pass => none

end Response

/-- A pattern and the responses that are used in turn when it matches. -/
structure Transformation where
  pattern : Pattern
  responses : List Response
deriving DecidableEq, Repr

/-- What a rule is found by. -/
inductive RuleName where
  /-- A word of the input, in upper case. -/
  | keyword (word : String)
  /-- No word: the rule that is used when no other gives a reply. -/
  | fallback
deriving DecidableEq, Repr

namespace RuleName

/-- The spelling that is kept for the fallback rule. -/
def fallbackSpelling : String := "NONE"

/-- The name of a rule whose keyword is spelled so, in any case. -/
def ofSpelling (spelling : String) : RuleName :=
  let word := Text.upper spelling
  if word = fallbackSpelling then fallback else keyword word

/-- The word that selects the rule. -/
def word? : RuleName → Option String
  | keyword word => some word
  | fallback => none

/-- How a name is written. -/
def text : RuleName → String
  | keyword word => word
  | fallback => fallbackSpelling

end RuleName

/-- All that a script says about one keyword. -/
structure Rule where
  /-- The keyword as it is written. -/
  spelling : String
  /-- The word that takes the place of the keyword in the input. -/
  substitute : Option String := none
  /-- Of the keywords in a clause, those of higher precedence are tried first. -/
  precedence : Nat := 0
  /-- The classes that the keyword belongs to. -/
  tags : List String := []
  /-- The keyword to go on with when no transformation applies. -/
  link : Option String := none
  transformations : List Transformation := []
deriving DecidableEq, Repr

namespace Rule

/-- What the rule is found by. -/
def name (rule : Rule) : RuleName := .ofSpelling rule.spelling

/-- Whether the rule can do anything with a clause. A rule that cannot only has a substitute
or tags. -/
def isApplicable (rule : Rule) : Bool := !rule.transformations.isEmpty || rule.link.isSome

/-- The keywords that the rule may go on with: its link, then its responses in order. -/
def references (rule : Rule) : List String :=
  rule.link.toList ++ rule.transformations.flatMap fun t => t.responses.filterMap Response.target?

end Rule

/-- A pattern with the single template that is used when it matches. -/
structure Recollection where
  pattern : Pattern
  template : Template
deriving DecidableEq, Repr

/-- What is kept in mind whenever the trigger keyword is used: one of four recollections. -/
structure MemoryRule where
  trigger : String
  recollections : Vector Recollection 4
deriving DecidableEq, Repr

/-! ## Scripts -/

/-- A script: the greeting, the keyword rules as declared, the fallback rule and the memory
rule. -/
structure Script where
  greeting : List String
  rules : List Rule
  fallback : Rule
  memory : MemoryRule
deriving DecidableEq, Repr

namespace Script

/-- The rule of a keyword. -/
def rule? (script : Script) (keyword : String) : Option Rule :=
  script.rules.find? (·.name.word? == some keyword)

/-- Whether a keyword has a rule that can do anything with a clause. -/
def answers (script : Script) (keyword : String) : Bool :=
  (script.rule? keyword).any Rule.isApplicable

/-- The first reference, in the order of declaration with the fallback rule last, to a keyword
that has no applicable rule. -/
def danglingReference? (script : Script) : Option (Rule × String) :=
  (script.rules ++ [script.fallback]).findSome? fun rule =>
    (rule.references.find? (!script.answers ·)).map (rule, ·)

end Script

end Colloquy
