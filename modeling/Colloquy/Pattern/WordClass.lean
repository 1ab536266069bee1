import Colloquy.Script.Basic

/-!
# Word classes

A class in a pattern admits one word. `(* WANT NEED)` lists the words it admits, and `(/FAMILY)`
admits the keywords that carry one of the tags it names. A class with neither mark admits
nothing.

* `TagIndex`: which keywords carry which tag.
* `WordClass.ofText`: the meaning of a class as it is written.
* `WordClass.admits`: whether a class admits a word.
-/

namespace Colloquy

/-- The tags of a script: each with a keyword that carries it, in the order of declaration. -/
structure TagIndex where
  entries : List (String × String)
deriving DecidableEq, Repr

namespace TagIndex

/-- The tags of some rules. No word selects the fallback rule, so its tags do not count. -/
def ofRules (rules : List Rule) : TagIndex where
  entries := rules.flatMap fun rule =>
    match rule.name with
    | .keyword word => rule.tags.map (·, word)
    | .fallback => []

/-- The keywords that carry a tag, as often as they are declared with it. -/
def members (index : TagIndex) (tag : String) : List String :=
  index.entries.filterMap fun entry => if entry.1 = tag then some entry.2 else none

/-- Whether a word is a keyword that carries a tag. -/
def contains (index : TagIndex) (tag word : String) : Bool := index.entries.contains (tag, word)

theorem contains_iff_mem_members {index : TagIndex} {tag word : String} :
    index.contains tag word = true ↔ word ∈ index.members tag := by
  simp only [contains, members, List.contains_iff_mem, List.mem_filterMap]
  constructor
  · exact fun h => ⟨_, h, by simp⟩
  · rintro ⟨entry, hentry, h⟩
    split at h
    · rename_i htag
      cases h
      exact htag ▸ hentry
    · cases h

end TagIndex

/-- What a class admits. -/
inductive WordClass where
  /-- One of these words. -/
  | anyOf (words : List String)
  /-- A keyword that carries one of these tags. -/
  | tagged (tags : List String)
  /-- No word. -/
  | nothing
deriving DecidableEq, Repr

namespace WordClass

/-- A text without the pair of parentheses around it, if it has one. -/
def withoutParens (cs : List Char) : List Char :=
  match cs with
  | '(' :: rest => if rest.getLast? = some ')' then rest.dropLast else cs
  | _ => cs

/-- The meaning of a class as it is written. -/
def ofText (written : String) : WordClass :=
  match Text.trimStart (withoutParens written.toList) with
  | '*' :: cs => anyOf (Text.fields (.ofList cs))
  | '/' :: cs => tagged (Text.fields (.ofList cs))
  | _ => nothing

/-- Whether a class admits a word, where `carries` tells which tag which word carries. -/
def admits (carries : String → String → Bool) (cls : WordClass) (word : String) : Bool :=
  match cls with
  | anyOf words => words.contains word
  | tagged tags => tags.any (carries · word)
  | nothing => false

end WordClass

end Colloquy
