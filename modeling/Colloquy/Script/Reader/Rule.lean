import Colloquy.Script.Basic
import Colloquy.Script.Reader.List

/-!
# Reading rules

The lists of the notation inside a rule:

    rule           = KEY clause* ')'
    clause         = '=' KEY | NUMBER | DLIST '(' TAG* ')' | '(' '=' KEY ')' | transformation
    transformation = '(' '(' element* ')' response* ')'
    element        = word | NUMBER | '(' word* ')'
    response       = '(' PRE template '(' '=' KEY ')' ')' | '(' '=' KEY ')' | template
    template       = '(' word* ')'
    memory         = KEY recollection*4 ')'
    recollection   = '(' element* '=' word* ')'

A template of the single word `NEWKEY` is the response `pass`. Keywords that a rule refers to,
substitutes and tags are put into upper case.

* `readRule`: a rule after its keyword.
* `readMemory`: the memory rule after `MEMORY`.
-/

namespace Colloquy

open Reading

/-! ## Words, templates and patterns -/

/-- The word that a token stands for where numbers are words like any other. -/
def Token.word? : Token → Option String
  | symbol s => some s
  | number n => some n.repr
  | lparen => none
  | rparen => none

/-- The symbol that a token is. -/
def Token.symbol? : Token → Option String
  | symbol s => some s
  | number _ => none
  | lparen => none
  | rparen => none

/-- The element of a template that a token stands for. -/
def TemplateItem.ofToken? : Token → Option TemplateItem
  | .symbol s => some (.word s)
  | .number k => some (.slot k)
  | .lparen => none
  | .rparen => none

/-- Items of one token each. -/
def ItemReader.single {α : Type} (item? : Token → Option α) (what : Expectation) :
    ItemReader α where
  read t ts := match item? t with
    | some a => .ok (a, ts)
    | none => .error (.expected what t)
  length_le := by
    intro t ts a rest h
    split at h
    · cases h; exact Nat.le_refl _
    · cases h

/-- Reads a template after its opening parenthesis. -/
def readTemplate : List Token → Except ScriptError (Template × List Token) :=
  readList (.single TemplateItem.ofToken? .templateWord)

/-- A class of words in its written form. -/
def groupText (members : List String) : String := "(" ++ " ".intercalate members ++ ")"

/-- Elements of a pattern: a word, a number, or a class in parentheses. -/
def patternItem : ItemReader PatternItem where
  read t ts := match t with
    | .symbol s => .ok (.word s, ts)
    | .number n => .ok (.count n, ts)
    | .lparen =>
      mapFst (.group <| groupText ·) (readList (.single Token.word? .groupMember) ts)
    | .rparen => .error (.expected (.token (.symbol "=")) .rparen)
  length_le := by
    intro t ts a rest h
    split at h
    · cases h; exact Nat.le_refl _
    · cases h; exact Nat.le_refl _
    · obtain ⟨ws, hws, -⟩ := of_mapFst_eq_ok h
      exact Nat.le_of_lt (length_lt_of_readUntil hws)
    · cases h

/-! ## Responses and transformations -/

/-- Reads the keyword and the closing parenthesis of a reference after its `=`. -/
def readTarget (ts : List Token) : Except ScriptError (String × List Token) :=
  match ts with
  | .symbol keyword :: rest => do
    let rest ← readToken .rparen rest
    return (Text.upper keyword, rest)
  | _ => .error (.unexpected .referenceTarget ts)

theorem length_le_of_readTarget {ts rest : List Token} {keyword : String}
    (h : readTarget ts = .ok (keyword, rest)) : rest.length ≤ ts.length := by
  unfold readTarget at h
  split at h
  · obtain ⟨rest', hrest, h⟩ := of_bind_eq_ok h
    cases h
    exact Nat.le_succ_of_le (length_le_of_readToken hrest)
  · cases h

/-- Reads what follows `PRE`: a template, and the keyword to go on with. -/
def readRecast (ts : List Token) : Except ScriptError (Response × List Token) := do
  let ts ← readToken .lparen ts
  let (template, ts) ← readTemplate ts
  let ts ← readToken .lparen ts
  let ts ← readToken (.symbol "=") ts
  let (keyword, ts) ← readTarget ts
  let ts ← readToken .rparen ts
  return (.recast template keyword, ts)

theorem length_le_of_readRecast {ts rest : List Token} {r : Response}
    (h : readRecast ts = .ok (r, rest)) : rest.length ≤ ts.length := by
  obtain ⟨ts₁, h₁, h⟩ := of_bind_eq_ok h
  obtain ⟨⟨template, ts₂⟩, h₂, h⟩ := of_bind_eq_ok h
  obtain ⟨ts₃, h₃, h⟩ := of_bind_eq_ok h
  obtain ⟨ts₄, h₄, h⟩ := of_bind_eq_ok h
  obtain ⟨⟨keyword, ts₅⟩, h₅, h⟩ := of_bind_eq_ok h
  obtain ⟨ts₆, h₆, h⟩ := of_bind_eq_ok h
  cases h
  have l₁ := length_le_of_readToken h₁
  have l₂ : ts₂.length < ts₁.length := length_lt_of_readUntil h₂
  have l₃ := length_le_of_readToken h₃
  have l₄ := length_le_of_readToken h₄
  have l₅ := length_le_of_readTarget h₅
  have l₆ := length_le_of_readToken h₆
  omega

/-- The response that a template is, alone among which `NEWKEY` is no reply. -/
def Response.ofTemplate (template : Template) : Response :=
  if template = [.word "NEWKEY"] then pass else reply template

/-- Reads a response after its opening parenthesis. -/
def readResponse (ts : List Token) : Except ScriptError (Response × List Token) :=
  match ts with
  | .symbol "PRE" :: rest => readRecast rest
  | .symbol "=" :: rest => mapFst .refer (readTarget rest)
  | _ => mapFst .ofTemplate (readTemplate ts)

theorem length_le_of_readResponse {ts rest : List Token} {r : Response}
    (h : readResponse ts = .ok (r, rest)) : rest.length ≤ ts.length := by
  unfold readResponse at h
  split at h
  · exact Nat.le_succ_of_le (length_le_of_readRecast h)
  · obtain ⟨k, hk, -⟩ := of_mapFst_eq_ok h
    exact Nat.le_succ_of_le (length_le_of_readTarget hk)
  · obtain ⟨template, ht, -⟩ := of_mapFst_eq_ok h
    exact Nat.le_of_lt (length_lt_of_readUntil ht)

/-- Responses, each in parentheses. -/
def responseItem : ItemReader Response where
  read t ts := match t with
    | .lparen => readResponse ts
    | _ => .error (.expected .response t)
  length_le := by
    intro t ts a rest h
    split at h
    · exact length_le_of_readResponse h
    · cases h

/-- Reads a transformation after the opening parenthesis of its pattern. -/
def readTransformation (ts : List Token) : Except ScriptError (Transformation × List Token) := do
  let (pattern, ts) ← readList patternItem ts
  let (responses, ts) ← readList responseItem ts
  return (⟨pattern, responses⟩, ts)

theorem length_le_of_readTransformation {ts rest : List Token} {t : Transformation}
    (h : readTransformation ts = .ok (t, rest)) : rest.length ≤ ts.length := by
  obtain ⟨⟨pattern, ts₁⟩, h₁, h⟩ := of_bind_eq_ok h
  obtain ⟨⟨responses, ts₂⟩, h₂, h⟩ := of_bind_eq_ok h
  cases h
  have l₁ : ts₁.length < ts.length := length_lt_of_readUntil h₁
  have l₂ : rest.length < ts₁.length := length_lt_of_readUntil h₂
  omega

/-! ## Rules -/

/-- One part of the body of a rule. -/
inductive RuleClause where
  | substitute (word : String)
  | precedence (n : Nat)
  | tags (tags : List String)
  | link (keyword : String)
  | transformation (t : Transformation)
deriving DecidableEq, Repr

/-- A rule with one more part of its body. All parts but transformations replace what an
earlier part said. -/
def Rule.withClause (rule : Rule) : RuleClause → Rule
  | .substitute word => { rule with substitute := some word }
  | .precedence n => { rule with precedence := n }
  | .tags tags => { rule with tags }
  | .link keyword => { rule with link := some keyword }
  | .transformation t => { rule with transformations := rule.transformations ++ [t] }

/-- The rule with a given keyword and body. -/
def Rule.ofClauses (spelling : String) (clauses : List RuleClause) : Rule :=
  clauses.foldl Rule.withClause { spelling }

/-- The tag that a member of a `DLIST` names: its slashes are dropped, and a lone slash names
none. -/
def tag? (member : String) : Option String :=
  match member.toList.dropWhile (· == '/') with
  | [] => none
  | cs => some (Text.upper (.ofList cs))

/-- Reads what follows `DLIST`. -/
def readTags (ts : List Token) : Except ScriptError (List String × List Token) := do
  let ts ← readToken .lparen ts
  let (members, ts) ← readList (.single Token.symbol? .tagName) ts
  return (members.filterMap tag?, ts)

theorem length_le_of_readTags {ts rest : List Token} {tags : List String}
    (h : readTags ts = .ok (tags, rest)) : rest.length ≤ ts.length := by
  obtain ⟨ts₁, h₁, h⟩ := of_bind_eq_ok h
  obtain ⟨⟨members, ts₂⟩, h₂, h⟩ := of_bind_eq_ok h
  cases h
  have l₁ := length_le_of_readToken h₁
  have l₂ : rest.length < ts₁.length := length_lt_of_readUntil h₂
  omega

/-- Reads the substitute that follows `=`. -/
def readSubstitute (ts : List Token) : Except ScriptError (String × List Token) :=
  match ts with
  | .symbol word :: rest => .ok (Text.upper word, rest)
  | _ => .error (.unexpected .substitute ts)

/-- Reads a transformation or a link after its opening parenthesis. -/
def readBodyList (ts : List Token) : Except ScriptError (RuleClause × List Token) :=
  match ts with
  | .lparen :: rest => mapFst .transformation (readTransformation rest)
  | .symbol "=" :: rest => mapFst .link (readTarget rest)
  | _ => .error (.unexpected .transformationOrLink ts)

theorem length_le_of_readBodyList {ts rest : List Token} {c : RuleClause}
    (h : readBodyList ts = .ok (c, rest)) : rest.length ≤ ts.length := by
  unfold readBodyList at h
  split at h
  · obtain ⟨t, ht, -⟩ := of_mapFst_eq_ok h
    exact Nat.le_succ_of_le (length_le_of_readTransformation ht)
  · obtain ⟨k, hk, -⟩ := of_mapFst_eq_ok h
    exact Nat.le_succ_of_le (length_le_of_readTarget hk)
  · cases h

/-- The parts of the body of a rule. -/
def clauseItem : ItemReader RuleClause where
  read t ts := match t with
    | .number n => .ok (.precedence n, ts)
    | .symbol "=" => mapFst .substitute (readSubstitute ts)
    | .symbol "DLIST" => mapFst .tags (readTags ts)
    | .lparen => readBodyList ts
    | _ => .error (.expected .ruleBody t)
  length_le := by
    intro t ts a rest h
    split at h
    · cases h; exact Nat.le_refl _
    · obtain ⟨w, hw, -⟩ := of_mapFst_eq_ok h
      unfold readSubstitute at hw
      split at hw
      · cases hw; exact Nat.le_succ _
      · cases hw
    · obtain ⟨tags, ht, -⟩ := of_mapFst_eq_ok h
      exact length_le_of_readTags ht
    · exact length_le_of_readBodyList h
    · cases h

/-- Reads the body of a rule after its keyword. -/
def readRule (spelling : String) (ts : List Token) : Except ScriptError (Rule × List Token) :=
  mapFst (Rule.ofClauses spelling) (readList clauseItem ts)

theorem length_lt_of_readRule {spelling : String} {ts rest : List Token} {rule : Rule}
    (h : readRule spelling ts = .ok (rule, rest)) : rest.length < ts.length := by
  obtain ⟨clauses, hc, -⟩ := of_mapFst_eq_ok h
  exact length_lt_of_readUntil hc

/-! ## The memory rule -/

/-- Reads a recollection after its opening parenthesis. -/
def readRecollection (ts : List Token) : Except ScriptError (Recollection × List Token) := do
  let (pattern, ts) ← readUntil (.symbol "=") patternItem ts
  let (template, ts) ← readTemplate ts
  return (⟨pattern, template⟩, ts)

/-- Recollections, each in parentheses. -/
def recollectionItem : ItemReader Recollection where
  read t ts := match t with
    | .lparen => readRecollection ts
    | _ => .error (.expected .recollection t)
  length_le := by
    intro t ts a rest h
    split at h
    · obtain ⟨⟨pattern, ts₁⟩, h₁, h⟩ := of_bind_eq_ok h
      obtain ⟨⟨template, ts₂⟩, h₂, h⟩ := of_bind_eq_ok h
      cases h
      have l₁ : ts₁.length < ts.length := length_lt_of_readUntil h₁
      have l₂ : rest.length < ts₁.length := length_lt_of_readUntil h₂
      omega
    · cases h

/-- The memory rule of a trigger and its recollections, of which there must be four. -/
def MemoryRule.of (trigger : String) (recollections : List Recollection) :
    Except ScriptError MemoryRule :=
  if h : recollections.length = 4 then
    .ok ⟨trigger, ⟨recollections.toArray, by rw [List.size_toArray, h]⟩⟩
  else
    .error (.memoryArity recollections.length)

/-- Reads the memory rule after `MEMORY`. -/
def readMemory (ts : List Token) : Except ScriptError (MemoryRule × List Token) :=
  match ts with
  | .symbol trigger :: rest => do
    let (recollections, rest) ← readList recollectionItem rest
    let memory ← MemoryRule.of (Text.upper trigger) recollections
    return (memory, rest)
  | _ => .error (.unexpected .memoryTrigger ts)

theorem length_lt_of_readMemory {ts rest : List Token} {memory : MemoryRule}
    (h : readMemory ts = .ok (memory, rest)) : rest.length < ts.length := by
  unfold readMemory at h
  split at h
  · obtain ⟨⟨recollections, ts₁⟩, h₁, h⟩ := of_bind_eq_ok h
    obtain ⟨m, -, h⟩ := of_bind_eq_ok h
    cases h
    exact Nat.lt_succ_of_lt (length_lt_of_readUntil h₁)
  · cases h

end Colloquy
