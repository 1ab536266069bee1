import Colloquy.Script.Printer
import Colloquy.Script.Reader

/-!
# Phrases of the script notation

The notation as a grammar over tokens. A phrase is a derivation of the grammar: `tokens` is the
list of tokens that it generates, and `value` is what it stands for.

    outline  = greeting START? item*
    greeting = '(' word* ')'
    item     = '(' ')' | '(' MEMORY SYMBOL memo* ')' | '(' SYMBOL clause* ')'
    clause   = '=' SYMBOL | NUMBER | DLIST '(' SYMBOL* ')' | '(' '=' SYMBOL ')'
             | '(' '(' element* ')' reaction* ')'
    element  = SYMBOL | NUMBER | '(' word* ')'
    reaction = '(' PRE '(' word* ')' '(' '=' SYMBOL ')' ')' | '(' '=' SYMBOL ')' | '(' word* ')'
    memo     = '(' element* '=' word* ')'
    word     = SYMBOL | NUMBER

What a rule of the grammar leaves out is a proof in its phrase: the keyword of a rule is not
`MEMORY` (`Entry`), an element of a memo is not `=` (`Memo`), and a template that stands alone
does not open with `PRE` or `=` (`Reaction.reply`).
-/

namespace Colloquy

/-- The token that writes an element of a template: a word is a symbol, a slot a number. -/
def TemplateItem.token : TemplateItem → Token
  | word text => .symbol text
  | slot k => .number k

namespace Phrase

/-- Tokens in parentheses. -/
def listed (inner : List Token) : List Token := .lparen :: (inner ++ [.rparen])

/-- A reference to a keyword, in parentheses. -/
def reference (target : String) : List Token := listed [.symbol "=", .symbol target]

/-! ## Patterns -/

/-- An element of a pattern. A class is written with the words that it consists of. -/
inductive Element where
  | word (text : String)
  | count (n : Nat)
  | group (members : Template)
deriving DecidableEq, Repr

namespace Element

def tokens : Element → List Token
  | word text => [.symbol text]
  | count n => [.number n]
  | group members => listed (members.map TemplateItem.token)

def value : Element → PatternItem
  | word text => .word text
  | count n => .count n
  | group members => .group (groupText (members.map TemplateItem.text))

end Element

/-! ## Responses -/

/-- Whether a template can stand alone: it does not open with a word that announces a
redirect. -/
def IsPlain (template : Template) : Prop :=
  template.head? ≠ some (.word "PRE") ∧ template.head? ≠ some (.word "=")

/-- A response of a transformation. -/
inductive Reaction where
  | reply (template : Template) (plain : IsPlain template)
  | refer (target : String)
  | recast (template : Template) (target : String)

namespace Reaction

def tokens : Reaction → List Token
  | reply template _ => listed (template.map TemplateItem.token)
  | refer target => reference target
  | recast template target =>
    listed (.symbol "PRE" :: listed (template.map TemplateItem.token) ++ reference target)

def value : Reaction → Response
  | reply template _ => .ofTemplate template
  | refer target => .refer (Text.upper target)
  | recast template target => .recast template (Text.upper target)

/-- The keyword that a response redirects to, as it is spelled. -/
def target? : Reaction → Option String
  | reply _ _ => none
  | refer target => some target
  | recast _ target => some target

end Reaction

/-! ## Rules -/

/-- A part of the body of a rule. -/
inductive Clause where
  | substitute (word : String)
  | precedence (n : Nat)
  | tags (members : List String)
  | link (target : String)
  | transformation (pattern : List Element) (reactions : List Reaction)

namespace Clause

def tokens : Clause → List Token
  | substitute word => [.symbol "=", .symbol word]
  | precedence n => [.number n]
  | tags members => .symbol "DLIST" :: listed (members.map .symbol)
  | link target => reference target
  | transformation pattern reactions =>
    listed (listed (pattern.flatMap Element.tokens) ++ reactions.flatMap Reaction.tokens)

def value : Clause → RuleClause
  | substitute word => .substitute (Text.upper word)
  | precedence n => .precedence n
  | tags members => .tags (members.filterMap tag?)
  | link target => .link (Text.upper target)
  | transformation pattern reactions =>
    .transformation ⟨pattern.map Element.value, reactions.map Reaction.value⟩

end Clause

/-- A rule: its keyword and the parts of its body. -/
structure Entry where
  spelling : String
  spelling_ne : spelling ≠ "MEMORY"
  clauses : List Clause

namespace Entry

def tokens (e : Entry) : List Token :=
  listed (.symbol e.spelling :: e.clauses.flatMap Clause.tokens)

def value (e : Entry) : Rule := .ofClauses e.spelling (e.clauses.map Clause.value)

end Entry

/-! ## The memory rule -/

/-- A recollection: the pattern ends at the first `=` that is not in a class. -/
structure Memo where
  pattern : List { e : Element // e ≠ .word "=" }
  template : Template

namespace Memo

def tokens (m : Memo) : List Token :=
  listed (m.pattern.flatMap (·.val.tokens) ++ .symbol "=" :: m.template.map TemplateItem.token)

def value (m : Memo) : Recollection := ⟨m.pattern.map (·.val.value), m.template⟩

end Memo

/-! ## Scripts -/

/-- A list at the top of a script. -/
inductive Item where
  /-- The empty list. -/
  | blank
  | memory (trigger : String) (memos : List Memo)
  | rule (entry : Entry)

namespace Item

def tokens : Item → List Token
  | blank => listed []
  | memory trigger memos =>
    listed (.symbol "MEMORY" :: .symbol trigger :: memos.flatMap Memo.tokens)
  | rule entry => entry.tokens

/-- The rule that a list holds. -/
def entry? : Item → Option Entry
  | blank => none
  | memory _ _ => none
  | rule entry => some entry

/-- The trigger and the recollections of the memory rule that a list holds. -/
def memory? : Item → Option (String × List Memo)
  | blank => none
  | memory trigger memos => some (trigger, memos)
  | rule _ => none

/-- The rules among lists of a script, in the order in which they are written. -/
def entries (items : List Item) : List Entry := items.filterMap entry?

/-- The memory rules among lists of a script. -/
def memories (items : List Item) : List (String × List Memo) := items.filterMap memory?

section

variable (items : List Item)

@[simp] theorem entries_append (items' : List Item) :
    entries (items ++ items') = entries items ++ entries items' := List.filterMap_append

@[simp] theorem memories_append (items' : List Item) :
    memories (items ++ items') = memories items ++ memories items' := List.filterMap_append

@[simp] theorem entries_nil : entries [] = [] := rfl

@[simp] theorem memories_nil : memories [] = [] := rfl

@[simp] theorem entries_blank : entries (blank :: items) = entries items := rfl

@[simp] theorem memories_blank : memories (blank :: items) = memories items := rfl

@[simp] theorem entries_memory (trigger : String) (memos : List Memo) :
    entries (memory trigger memos :: items) = entries items := rfl

@[simp] theorem memories_memory (trigger : String) (memos : List Memo) :
    memories (memory trigger memos :: items) = (trigger, memos) :: memories items := rfl

@[simp] theorem entries_rule (entry : Entry) :
    entries (rule entry :: items) = entry :: entries items := rfl

@[simp] theorem memories_rule (entry : Entry) :
    memories (rule entry :: items) = memories items := rfl

end

theorem mem_entries {items : List Item} {entry : Entry} :
    entry ∈ entries items ↔ rule entry ∈ items := by
  induction items with
  | nil => simp
  | cons item items ih => cases item <;> simp [ih]

theorem mem_memories {items : List Item} {trigger : String} {memos : List Memo} :
    (trigger, memos) ∈ memories items ↔ memory trigger memos ∈ items := by
  induction items with
  | nil => simp
  | cons item items ih => cases item <;> simp [ih]

end Item

/-- A whole script as it is written. -/
structure Outline where
  greeting : Template
  /-- Whether the word `START` follows the greeting. -/
  started : Bool
  items : List Item

namespace Outline

def tokens (o : Outline) : List Token :=
  listed (o.greeting.map TemplateItem.token) ++
    ((if o.started then [.symbol "START"] else []) ++ o.items.flatMap Item.tokens)

end Outline

end Phrase

end Colloquy
