import Colloquy.Script.Token

/-!
# Faults of a script

A text that is not a script is refused with one cause. `ScriptError.message` is the only place
where causes are put into words.
-/

namespace Colloquy

/-- What the notation asks for at some place. -/
inductive Expectation where
  | token (t : Token)
  | greetingWord
  | rule
  | keyword
  | ruleBody
  | substitute
  | tagName
  | transformationOrLink
  | referenceTarget
  | groupMember
  | response
  | templateWord
  | memoryTrigger
  | recollection
deriving DecidableEq, Repr

namespace Expectation

/-- The name of what is asked for. -/
def text : Expectation → String
  | token t => "`" ++ t.text ++ "`"
  | greetingWord => "greeting word"
  | rule => "rule"
  | keyword => "keyword"
  | ruleBody => "rule body"
  | substitute => "substitute after `=`"
  | tagName => "tag name"
  | transformationOrLink => "transformation or link"
  | referenceTarget => "keyword after `=`"
  | groupMember => "class member"
  | response => "reassembly"
  | templateWord => "reassembly word"
  | memoryTrigger => "MEMORY keyword"
  | recollection => "memory transformation"

end Expectation

/-- Why a text is not a script. -/
inductive ScriptError where
  /-- The text does not open with a parenthesis. -/
  | missingGreeting
  /-- A token stands where the notation asks for something else. -/
  | expected (what : Expectation) (found : Token)
  /-- The text ends inside a list, or a list is closed that was not opened. -/
  | unbalanced
  /-- The memory rule does not have four transformations. -/
  | memoryArity (found : Nat)
  | secondMemory
  | duplicateKeyword (keyword : String)
  | missingFallback
  | missingMemory
  /-- A rule refers to a keyword that has no applicable rule. -/
  | danglingReference (keyword target : String)
deriving DecidableEq, Repr

namespace ScriptError

/-- The fault of a text that has `found` left where `what` is asked for: where nothing is left,
some list has not been closed. -/
def unexpected (what : Expectation) (found : List Token) : ScriptError :=
  match found with
  | [] => unbalanced
  | t :: _ => expected what t

/-- A fault in words. -/
def message : ScriptError → String
  | missingGreeting => "script does not open with a parenthesized greeting"
  | expected what found => "expected " ++ what.text ++ ", found " ++ found.text
  | unbalanced => "unbalanced parentheses"
  | memoryArity found =>
    "MEMORY rule must have exactly 4 transformations, found " ++ found.repr
  | secondMemory => "script defines more than one MEMORY rule"
  | duplicateKeyword keyword => "keyword '" ++ keyword ++ "' is defined more than once"
  | missingFallback => "script has no NONE rule"
  | missingMemory => "script has no MEMORY rule"
  | danglingReference keyword target =>
    "keyword '" ++ keyword ++ "' refers to '" ++ target ++
      "', which has no transformations or link"

end ScriptError

end Colloquy
