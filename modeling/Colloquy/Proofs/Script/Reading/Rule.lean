import Colloquy.Proofs.Script.Phrase
import Colloquy.Proofs.Script.Reading.List

/-!
# Readers and the grammar: rules

The readers of `Colloquy.Script.Reader.Rule` take exactly the phrases of the grammar. Each has a
lemma for either direction: a phrase is read as its value (`readRule_tokens`), and what is read
is a phrase (`exists_of_readRule`).
-/

namespace Colloquy

open Reading Phrase

/-! ## Words, templates and patterns -/

/-- Every token but a parenthesis is that of a word or a slot. -/
theorem reads_token {α : Type} {item? : Token → Option α} {value : TemplateItem → α}
    (what : Expectation) (hvalue : ∀ x : TemplateItem, item? x.token = some (value x))
    (hlparen : item? .lparen = none) (hrparen : item? .rparen = none) :
    (ItemReader.single item? what).Reads .rparen (fun x : TemplateItem => [x.token]) value :=
  reads_single hvalue hrparen fun {t a} h => by
    cases t with
    | symbol s => exact ⟨.word s, rfl⟩
    | number n => exact ⟨.slot n, rfl⟩
    | lparen => rw [hlparen] at h; cases h
    | rparen => rw [hrparen] at h; cases h

theorem reads_word (what : Expectation) :
    (ItemReader.single Token.word? what).Reads .rparen
      (fun x : TemplateItem => [x.token]) TemplateItem.text :=
  reads_token what (fun x => by cases x <;> rfl) rfl rfl

theorem reads_templateItem :
    (ItemReader.single TemplateItem.ofToken? .templateWord).Reads .rparen
      (fun x : TemplateItem => [x.token]) id :=
  reads_token .templateWord (fun x => by cases x <;> rfl) rfl rfl

theorem reads_symbol (what : Expectation) :
    (ItemReader.single Token.symbol? what).Reads .rparen (fun s => [Token.symbol s]) id :=
  reads_single (fun _ => rfl) rfl fun {t a} h => by
    cases t with
    | symbol s => exact ⟨s, rfl⟩
    | number n => cases h
    | lparen => cases h
    | rparen => cases h

theorem readTemplate_tokens (template : Template) (rest : List Token) :
    readTemplate (template.map TemplateItem.token ++ .rparen :: rest) = .ok (template, rest) := by
  have h := readList_listed reads_templateItem template rest
  rwa [List.map_id, ← List.map_eq_flatMap] at h

theorem exists_of_readTemplate {ts rest : List Token} {template : Template}
    (h : readTemplate ts = .ok (template, rest)) :
    ∃ template : Template, ts = template.map TemplateItem.token ++ .rparen :: rest := by
  obtain ⟨xs, hxs⟩ := exists_of_readUntil reads_templateItem h
  exact ⟨xs, by rw [hxs, List.map_eq_flatMap]⟩

theorem readWords_tokens (what : Expectation) (words : Template) (rest : List Token) :
    readList (.single Token.word? what) (words.map TemplateItem.token ++ .rparen :: rest) =
      .ok (words.map TemplateItem.text, rest) := by
  rw [List.map_eq_flatMap]
  exact readList_listed (reads_word what) words rest

theorem exists_of_readWords {what : Expectation} {ts rest : List Token} {words : List String}
    (h : readList (.single Token.word? what) ts = .ok (words, rest)) :
    ∃ words : Template, ts = words.map TemplateItem.token ++ .rparen :: rest := by
  obtain ⟨xs, hxs⟩ := exists_of_readUntil (reads_word what) h
  exact ⟨xs, by rw [hxs, List.map_eq_flatMap]⟩

theorem patternItem_read_lparen (ts : List Token) : patternItem.read .lparen ts =
    mapFst (.group <| groupText ·) (readList (.single Token.word? .groupMember) ts) := rfl

theorem patternItem_read_tokens (e : Element) :
    ∃ t ts, e.tokens = t :: ts ∧ t ≠ .rparen ∧ (t = .symbol "=" → e = .word "=") ∧
      ∀ rest, patternItem.read t (ts ++ rest) = .ok (e.value, rest) := by
  cases e with
  | word s => exact ⟨_, _, rfl, nofun, fun h => by cases h; rfl, fun rest => rfl⟩
  | count n => exact ⟨_, _, rfl, nofun, nofun, fun rest => rfl⟩
  | group members =>
    refine ⟨_, _, rfl, nofun, nofun, fun rest => ?_⟩
    rw [patternItem_read_lparen, List.append_assoc, List.singleton_append, readWords_tokens]
    rfl

theorem exists_of_patternItem_read {t : Token} {ts rest : List Token} {p : PatternItem}
    (h : patternItem.read t ts = .ok (p, rest)) : ∃ e : Element, t :: ts = e.tokens ++ rest := by
  cases t with
  | symbol s => cases h; exact ⟨.word s, rfl⟩
  | number n => cases h; exact ⟨.count n, rfl⟩
  | rparen => cases h
  | lparen =>
    rw [patternItem_read_lparen] at h
    obtain ⟨ws, hws, -⟩ := of_mapFst_eq_ok h
    obtain ⟨members, rfl⟩ := exists_of_readWords hws
    exact ⟨.group members, by simp [Element.tokens, listed]⟩

/-- In the pattern of a transformation `=` is a word like any other. -/
theorem reads_element : patternItem.Reads .rparen Element.tokens Element.value where
  read_tokens e := by
    obtain ⟨t, ts, htokens, ht, -, hread⟩ := patternItem_read_tokens e
    exact ⟨t, ts, htokens, ht, hread⟩
  exists_of_read h _ := exists_of_patternItem_read h

/-- In the pattern of a recollection `=` is the end. -/
theorem reads_memoElement :
    patternItem.Reads (.symbol "=") (fun e : { e : Element // e ≠ .word "=" } => e.val.tokens)
      (·.val.value) where
  read_tokens := by
    rintro ⟨e, he⟩
    obtain ⟨t, ts, htokens, -, heq, hread⟩ := patternItem_read_tokens e
    exact ⟨t, ts, htokens, fun h => he (heq h), hread⟩
  exists_of_read := by
    intro t ts p rest h ht
    obtain ⟨e, he⟩ := exists_of_patternItem_read h
    refine ⟨⟨e, ?_⟩, he⟩
    rintro rfl
    exact ht (List.cons.inj he).1

/-! ## Responses and transformations -/

theorem readToken_self (t : Token) (rest : List Token) : readToken t (t :: rest) = .ok rest :=
  if_pos rfl

theorem eq_of_readToken {t : Token} {ts rest : List Token} (h : readToken t ts = .ok rest) :
    ts = t :: rest := by
  unfold readToken at h
  split at h
  · cases h
  · split at h
    · rename_i ht
      cases h
      rw [ht]
    · cases h

theorem readTarget_tokens (target : String) (rest : List Token) :
    readTarget (.symbol target :: .rparen :: rest) = .ok (Text.upper target, rest) := rfl

theorem exists_of_readTarget {ts rest : List Token} {keyword : String}
    (h : readTarget ts = .ok (keyword, rest)) :
    ∃ target, ts = .symbol target :: .rparen :: rest := by
  unfold readTarget at h
  split at h
  · rename_i target ts
    obtain ⟨rest', hclose, h⟩ := of_bind_eq_ok h
    cases h
    exact ⟨target, by rw [eq_of_readToken hclose]⟩
  · cases h

theorem readRecast_tokens (template : Template) (target : String) (rest : List Token) :
    readRecast (listed (template.map TemplateItem.token) ++ reference target ++ .rparen :: rest) =
      .ok (.recast template (Text.upper target), rest) := by
  simp only [listed, reference, readRecast, List.cons_append, List.append_assoc, List.nil_append,
    readToken_self, ok_bind, readTemplate_tokens, readTarget_tokens]
  rfl

theorem exists_of_readRecast {ts rest : List Token} {r : Response}
    (h : readRecast ts = .ok (r, rest)) : ∃ (template : Template) (target : String),
      ts = listed (template.map TemplateItem.token) ++ reference target ++ .rparen :: rest := by
  obtain ⟨ts₁, h₁, h⟩ := of_bind_eq_ok h
  obtain ⟨⟨_, ts₂⟩, h₂, h⟩ := of_bind_eq_ok h
  obtain ⟨ts₃, h₃, h⟩ := of_bind_eq_ok h
  obtain ⟨ts₄, h₄, h⟩ := of_bind_eq_ok h
  obtain ⟨⟨_, ts₅⟩, h₅, h⟩ := of_bind_eq_ok h
  obtain ⟨ts₆, h₆, h⟩ := of_bind_eq_ok h
  cases h
  obtain ⟨template, ht⟩ := exists_of_readTemplate h₂
  obtain ⟨target, htarget⟩ := exists_of_readTarget h₅
  refine ⟨template, target, ?_⟩
  rw [eq_of_readToken h₁, ht, eq_of_readToken h₃, eq_of_readToken h₄, htarget, eq_of_readToken h₆]
  simp [listed, reference]

/-- A template that stands alone is not taken for a redirect. -/
theorem readResponse_of_isPlain {template : Template} (h : IsPlain template) (rest : List Token) :
    readResponse (template.map TemplateItem.token ++ .rparen :: rest) =
      .ok (.ofTemplate template, rest) := by
  have hread := readTemplate_tokens template rest
  unfold readResponse
  split
  · rename_i ts hts
    cases template with
    | nil => cases hts
    | cons x template =>
      cases x with
      | word s => cases (List.cons.inj hts).1; exact absurd rfl h.1
      | slot k => cases hts
  · rename_i ts hts
    cases template with
    | nil => cases hts
    | cons x template =>
      cases x with
      | word s => cases (List.cons.inj hts).1; exact absurd rfl h.2
      | slot k => cases hts
  · rw [hread, mapFst_ok]

theorem isPlain_of_tokens {template : Template} {ts rest : List Token}
    (hts : ts = template.map TemplateItem.token ++ rest)
    (hpre : ∀ rest, ts ≠ .symbol "PRE" :: rest) (heq : ∀ rest, ts ≠ .symbol "=" :: rest) :
    IsPlain template := by
  subst hts
  cases template with
  | nil => exact ⟨nofun, nofun⟩
  | cons x template =>
    refine ⟨fun h => ?_, fun h => ?_⟩
    · cases h; exact hpre _ rfl
    · cases h; exact heq _ rfl

theorem reads_reaction : responseItem.Reads .rparen Reaction.tokens Reaction.value where
  read_tokens x := by
    refine ⟨.lparen, x.tokens.tail, by cases x <;> rfl, nofun, fun rest => ?_⟩
    show readResponse _ = _
    cases x with
    | reply template plain =>
      rw [Reaction.tokens, listed, List.tail_cons, List.append_assoc]
      exact readResponse_of_isPlain plain rest
    | refer target => rfl
    | recast template target =>
      have h := readRecast_tokens template target rest
      rw [Reaction.tokens, listed, List.tail_cons, List.append_assoc]
      exact h
  exists_of_read := by
    intro t ts r rest h _
    cases t with
    | lparen =>
      change readResponse ts = _ at h
      unfold readResponse at h
      split at h
      · rename_i ts
        obtain ⟨template, target, rfl⟩ := exists_of_readRecast h
        exact ⟨.recast template target, by simp [Reaction.tokens, listed]⟩
      · rename_i ts
        obtain ⟨k, hk, -⟩ := of_mapFst_eq_ok h
        obtain ⟨target, rfl⟩ := exists_of_readTarget hk
        exact ⟨.refer target, rfl⟩
      · rename_i hpre heq
        obtain ⟨_, ht, -⟩ := of_mapFst_eq_ok h
        obtain ⟨template, hts⟩ := exists_of_readTemplate ht
        exact ⟨.reply template (isPlain_of_tokens hts hpre heq),
          by simp [Reaction.tokens, listed, hts]⟩
    | rparen => cases h
    | symbol s => cases h
    | number n => cases h

theorem readTransformation_tokens (pattern : List Element) (reactions : List Reaction)
    (rest : List Token) :
    readTransformation (pattern.flatMap Element.tokens ++ .rparen ::
        (reactions.flatMap Reaction.tokens ++ .rparen :: rest)) =
      .ok (⟨pattern.map Element.value, reactions.map Reaction.value⟩, rest) := by
  rw [readTransformation, readList_listed reads_element]
  simp only [ok_bind]
  rw [readList_listed reads_reaction]
  rfl

theorem exists_of_readTransformation {ts rest : List Token} {t : Transformation}
    (h : readTransformation ts = .ok (t, rest)) :
    ∃ (pattern : List Element) (reactions : List Reaction),
      ts = pattern.flatMap Element.tokens ++ .rparen ::
        (reactions.flatMap Reaction.tokens ++ .rparen :: rest) := by
  obtain ⟨⟨_, ts₁⟩, h₁, h⟩ := of_bind_eq_ok h
  obtain ⟨⟨_, ts₂⟩, h₂, h⟩ := of_bind_eq_ok h
  cases h
  obtain ⟨pattern, hpattern⟩ := exists_of_readUntil reads_element h₁
  obtain ⟨reactions, hreactions⟩ := exists_of_readUntil reads_reaction h₂
  exact ⟨pattern, reactions, by rw [hpattern, hreactions]⟩

/-! ## Rules -/

theorem readTags_tokens (members : List String) (rest : List Token) :
    readTags (listed (members.map .symbol) ++ rest) = .ok (members.filterMap tag?, rest) := by
  have h := readList_listed (reads_symbol .tagName) members rest
  rw [← List.map_eq_flatMap, List.map_id] at h
  simp only [readTags, listed, List.cons_append, readToken_self, ok_bind, List.append_assoc,
    List.nil_append]
  rw [h]
  rfl

theorem exists_of_readTags {ts rest : List Token} {tags : List String}
    (h : readTags ts = .ok (tags, rest)) :
    ∃ members : List String, ts = listed (members.map .symbol) ++ rest := by
  obtain ⟨ts₁, h₁, h⟩ := of_bind_eq_ok h
  obtain ⟨⟨_, ts₂⟩, h₂, h⟩ := of_bind_eq_ok h
  cases h
  obtain ⟨members, hmembers⟩ := exists_of_readUntil (reads_symbol .tagName) h₂
  refine ⟨members, ?_⟩
  rw [eq_of_readToken h₁, hmembers, List.map_eq_flatMap]
  simp [listed]

theorem exists_of_readBodyList {ts rest : List Token} {c : RuleClause}
    (h : readBodyList ts = .ok (c, rest)) : ∃ x : Clause, .lparen :: ts = x.tokens ++ rest := by
  unfold readBodyList at h
  split at h
  · rename_i ts
    obtain ⟨t, ht, -⟩ := of_mapFst_eq_ok h
    obtain ⟨pattern, reactions, rfl⟩ := exists_of_readTransformation ht
    exact ⟨.transformation pattern reactions, by simp [Clause.tokens, listed]⟩
  · rename_i ts
    obtain ⟨k, hk, -⟩ := of_mapFst_eq_ok h
    obtain ⟨target, rfl⟩ := exists_of_readTarget hk
    exact ⟨.link target, rfl⟩
  · cases h

theorem clauseItem_read_lparen (ts : List Token) : clauseItem.read .lparen ts = readBodyList ts :=
  rfl

theorem reads_clause : clauseItem.Reads .rparen Clause.tokens Clause.value where
  read_tokens x := by
    cases x with
    | substitute word => exact ⟨_, _, rfl, nofun, fun rest => rfl⟩
    | precedence n => exact ⟨_, _, rfl, nofun, fun rest => rfl⟩
    | tags members =>
      refine ⟨_, _, rfl, nofun, fun rest => ?_⟩
      show mapFst RuleClause.tags (readTags (listed (members.map .symbol) ++ rest)) = _
      rw [readTags_tokens]
      rfl
    | link target => exact ⟨_, _, rfl, nofun, fun rest => rfl⟩
    | transformation pattern reactions =>
      refine ⟨_, _, rfl, nofun, fun rest => ?_⟩
      have h := readTransformation_tokens pattern reactions rest
      rw [clauseItem_read_lparen, List.append_assoc, List.singleton_append, listed,
        List.cons_append, List.cons_append, List.append_assoc, List.append_assoc,
        List.singleton_append, readBodyList, h]
      rfl
  exists_of_read := by
    intro t ts c rest h ht
    simp only [clauseItem] at h
    split at h
    · rename_i n
      cases h
      exact ⟨.precedence n, rfl⟩
    · obtain ⟨w, hw, -⟩ := of_mapFst_eq_ok h
      unfold readSubstitute at hw
      split at hw
      · rename_i word ts
        cases hw
        exact ⟨.substitute word, rfl⟩
      · cases hw
    · obtain ⟨tags, htags, -⟩ := of_mapFst_eq_ok h
      obtain ⟨members, rfl⟩ := exists_of_readTags htags
      exact ⟨.tags members, rfl⟩
    · exact exists_of_readBodyList h
    · cases h

theorem readRule_tokens (e : Entry) (rest : List Token) :
    readRule e.spelling (e.clauses.flatMap Clause.tokens ++ .rparen :: rest) =
      .ok (e.value, rest) := by
  rw [readRule, readList_listed reads_clause]
  rfl

theorem exists_of_readRule {spelling : String} {ts rest : List Token} {rule : Rule}
    (h : readRule spelling ts = .ok (rule, rest)) :
    ∃ clauses : List Clause, ts = clauses.flatMap Clause.tokens ++ .rparen :: rest := by
  obtain ⟨clauses, hc, -⟩ := of_mapFst_eq_ok h
  exact exists_of_readUntil reads_clause hc

/-! ## The memory rule -/

theorem reads_memo : recollectionItem.Reads .rparen Memo.tokens Memo.value where
  read_tokens m := by
    refine ⟨_, _, rfl, nofun, fun rest => ?_⟩
    show readRecollection _ = _
    rw [List.append_assoc, List.append_assoc, List.cons_append, readRecollection,
      readUntil_tokens reads_memoElement]
    simp only [ok_bind, List.singleton_append]
    rw [readTemplate_tokens]
    rfl
  exists_of_read := by
    intro t ts r rest h _
    cases t with
    | lparen =>
      change readRecollection ts = _ at h
      obtain ⟨⟨_, ts₁⟩, h₁, h⟩ := of_bind_eq_ok h
      obtain ⟨⟨_, ts₂⟩, h₂, h⟩ := of_bind_eq_ok h
      cases h
      obtain ⟨pattern, hpattern⟩ := exists_of_readUntil reads_memoElement h₁
      obtain ⟨template, htemplate⟩ := exists_of_readTemplate h₂
      exact ⟨⟨pattern, template⟩, by rw [hpattern, htemplate]; simp [Memo.tokens, listed]⟩
    | rparen => cases h
    | symbol s => cases h
    | number n => cases h

/-- The memory rule that a memory item stands for. -/
def Phrase.memoryRule (trigger : String) (memos : List Memo) : Except ScriptError MemoryRule :=
  MemoryRule.of (Text.upper trigger) (memos.map Memo.value)

theorem readMemory_tokens (trigger : String) (memos : List Memo) (rest : List Token) :
    readMemory (.symbol trigger :: (memos.flatMap Memo.tokens ++ .rparen :: rest)) =
      (memoryRule trigger memos).map (·, rest) := by
  simp only [readMemory]
  rw [readList_listed reads_memo, ok_bind]
  simp only [memoryRule]
  cases MemoryRule.of (Text.upper trigger) (memos.map Memo.value) <;> rfl

theorem exists_of_readMemory {ts rest : List Token} {memory : MemoryRule}
    (h : readMemory ts = .ok (memory, rest)) : ∃ (trigger : String) (memos : List Memo),
      ts = .symbol trigger :: (memos.flatMap Memo.tokens ++ .rparen :: rest) := by
  unfold readMemory at h
  split at h
  · rename_i trigger ts
    obtain ⟨⟨recollections, ts₁⟩, h₁, h⟩ := of_bind_eq_ok h
    obtain ⟨m, -, h⟩ := of_bind_eq_ok h
    cases h
    obtain ⟨memos, hmemos⟩ := exists_of_readUntil reads_memo h₁
    exact ⟨trigger, memos, by rw [hmemos]⟩
  · cases h

end Colloquy
