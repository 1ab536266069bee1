import Colloquy.Script.Reader.Rule

/-!
# Reading scripts

The notation, over tokens:

    script   = greeting START? item*
    greeting = '(' word* ')'
    item     = '(' ')' | '(' MEMORY memory | '(' rule

There is one fallback rule and one memory rule, no two rules have the same name, and every
keyword that a rule refers to has an applicable rule.

* `Draft.read`: the rules of a script, read one after the other.
* `Script.read`: the script that a text holds, or the first fault in it.
-/

namespace Colloquy

/-- The rules of a script that has been read in part. -/
structure Draft where
  rules : List Rule := []
  fallback : Option Rule := none
  memory : Option MemoryRule := none
deriving DecidableEq, Repr

namespace Draft

/-- Whether a rule of this name has been read. -/
def hasRule (draft : Draft) : RuleName → Bool
  | .fallback => draft.fallback.isSome
  | name => draft.rules.any (·.name == name)

/-- Adds a rule, unless one of its name has been read. -/
def add (draft : Draft) (rule : Rule) : Except ScriptError Draft :=
  if draft.hasRule rule.name then .error (.duplicateKeyword rule.name.text)
  else match rule.name with
    | .fallback => .ok { draft with fallback := some rule }
    | .keyword _ => .ok { draft with rules := draft.rules ++ [rule] }

/-- Reads the lists of a script up to the end of the text. -/
def read (draft : Draft) : List Token → Except ScriptError Draft
  | [] => .ok draft
  | .lparen :: .rparen :: ts => draft.read ts
  | .lparen :: .symbol "MEMORY" :: ts =>
    if draft.memory.isSome then .error .secondMemory
    else match _h : readMemory ts with
      | .error e => .error e
      | .ok (memory, rest) => { draft with memory := some memory }.read rest
  | .lparen :: .symbol spelling :: ts =>
    match _h : readRule spelling ts with
    | .error e => .error e
    | .ok (rule, rest) =>
      match draft.add rule with
      | .error e => .error e
      | .ok draft => draft.read rest
  | .lparen :: ts => .error (.unexpected .keyword ts)
  | .rparen :: _ => .error .unbalanced
  | t :: _ => .error (.expected .rule t)
termination_by ts => ts.length
decreasing_by
  · exact Nat.lt_succ_of_lt (Nat.lt_succ_self _)
  · exact Nat.lt_succ_of_lt (Nat.lt_succ_of_lt (length_lt_of_readMemory _h))
  · exact Nat.lt_succ_of_lt (Nat.lt_succ_of_lt (length_lt_of_readRule _h))

/-- The script that a draft makes up, if nothing is missing and no reference leads nowhere. -/
def finish (draft : Draft) (greeting : List String) : Except ScriptError Script :=
  match draft.fallback, draft.memory with
  | none, _ => .error .missingFallback
  | some _, none => .error .missingMemory
  | some fallback, some memory =>
    let script : Script := ⟨greeting, draft.rules, fallback, memory⟩
    match script.danglingReference? with
    | some (rule, target) => .error (.danglingReference rule.name.text target)
    | none => .ok script

end Draft

/-- Reads the greeting. -/
def readGreeting (ts : List Token) : Except ScriptError (List String × List Token) :=
  match ts with
  | .lparen :: rest => readList (.single Token.word? .greetingWord) rest
  | _ => .error .missingGreeting

/-- The tokens without the word `START` they may begin with. -/
def skipStart : List Token → List Token
  | .symbol "START" :: ts => ts
  | ts => ts

namespace Script

/-- The script that a list of tokens makes up. -/
def ofTokens (ts : List Token) : Except ScriptError Script := do
  let (greeting, ts) ← readGreeting ts
  let draft ← Draft.read {} (skipStart ts)
  draft.finish greeting

/-- The script that a text holds, or the first fault in it. -/
def read (text : String) : Except ScriptError Script := ofTokens (tokens text)

end Script

end Colloquy
