import Colloquy.Proofs.Pattern.WordClass
import Colloquy.Proofs.Script.RoundTrip

/-!
# Reading back scripts that were not read

A script can also be put together by hand. It is printed as a text of itself if it is well-formed:
its words are words of the notation, what stands for a keyword is in upper case, and no part looks
like a part of another kind. Then a phrase of the grammar is found for each of its parts, and these
are the source that it could have been read from.

* `Script.WellFormed`: what is asked of a script, part by part.
* `Script.WellFormed.nonempty_source`: a well-formed script has a source.
* `Script.read_text_of_wellFormed`: a well-formed script is read back from its own text.
-/

namespace Colloquy

open Phrase

/-! ## Words -/

/-- Whether a text is read as one symbol, which it is. -/
def IsLexable (text : String) : Prop := tokens text = [.symbol text]

/-- Whether a text is read as one symbol or number, and is the word that this token stands for. -/
def IsWordText (text : String) : Prop := (tokens text).map Token.word? = [some text]

/-- Whether a text is read as one symbol and is in upper case. -/
@[mk_iff]
structure IsName (text : String) : Prop where
  lexable : IsLexable text
  upper_eq : Text.upper text = text

/-! ## Parts of a script -/

/-- The words of a pattern are symbols, its numbers are in bounds, and its classes are words in
parentheses, with single spaces between them. -/
def PatternItem.WellFormed : PatternItem → Prop
  | word text => IsLexable text
  | count n => n < Token.numberBound
  | group written => ∃ parts, written = groupText parts ∧ ∀ part ∈ parts, IsWordText part

def TemplateItem.WellFormed : TemplateItem → Prop
  | word text => IsLexable text
  | slot k => k < Token.numberBound

/-- A template that is a reply must not look like a redirect or like `pass`. -/
def Response.WellFormed : Response → Prop
  | reply template =>
    (∀ x ∈ template, x.WellFormed) ∧ IsPlain template ∧ template ≠ [.word "NEWKEY"]
  | refer keyword => IsName keyword
  | recast template keyword => (∀ x ∈ template, x.WellFormed) ∧ IsName keyword
  | pass => True

@[mk_iff]
structure Transformation.WellFormed (t : Transformation) : Prop where
  pattern : ∀ item ∈ t.pattern, item.WellFormed
  responses : ∀ r ∈ t.responses, r.WellFormed

@[mk_iff]
structure Rule.WellFormed (rule : Rule) : Prop where
  spelling : IsLexable rule.spelling
  spelling_ne : rule.spelling ≠ "MEMORY"
  substitute : ∀ word ∈ rule.substitute, IsName word
  precedence : rule.precedence < Token.numberBound
  tags : ∀ tag ∈ rule.tags, IsName tag ∧ tag.toList.head? ≠ some '/'
  link : ∀ keyword ∈ rule.link, IsName keyword
  transformations : ∀ t ∈ rule.transformations, t.WellFormed

/-- The pattern of a recollection ends at the first `=`, and so must not have one. -/
@[mk_iff]
structure Recollection.WellFormed (r : Recollection) : Prop where
  pattern : ∀ item ∈ r.pattern, item.WellFormed ∧ item ≠ .word "="
  template : ∀ x ∈ r.template, x.WellFormed

@[mk_iff]
structure MemoryRule.WellFormed (memory : MemoryRule) : Prop where
  trigger : IsName memory.trigger
  recollections : ∀ r ∈ memory.recollections.toList, r.WellFormed

/-- What is asked of a script: its parts are well-formed, the keywords differ in upper case, only
the fallback rule is called `NONE`, and each keyword that is referred to is that of an applicable
rule. -/
@[mk_iff]
structure Script.WellFormed (script : Script) : Prop where
  greeting : ∀ text ∈ script.greeting, IsWordText text
  rules : ∀ rule ∈ script.rules ++ [script.fallback], rule.WellFormed
  memory : script.memory.WellFormed
  distinct : (script.rules.map fun rule => Text.upper rule.spelling).Nodup
  rules_ne : ∀ rule ∈ script.rules, Text.upper rule.spelling ≠ RuleName.fallbackSpelling
  fallback_eq : Text.upper script.fallback.spelling = RuleName.fallbackSpelling
  references : ∀ rule ∈ script.rules ++ [script.fallback], ∀ target ∈ rule.references,
    ∃ rule' ∈ script.rules, Text.upper rule'.spelling = target ∧ rule'.isApplicable = true

/-! ## Phrases of the parts -/

/-- If each item of a list is the image of something, so is the list. -/
theorem exists_map_eq {α β : Type} {f : β → α} {P : β → Prop} {xs : List α}
    (h : ∀ x ∈ xs, ∃ y, f y = x ∧ P y) : ∃ ys : List β, ys.map f = xs ∧ ∀ y ∈ ys, P y := by
  induction xs with
  | nil => exact ⟨[], rfl, nofun⟩
  | cons x xs ih =>
    obtain ⟨⟨y, rfl, hy⟩, hxs⟩ := List.forall_mem_cons.1 h
    obtain ⟨ys, rfl, hys⟩ := ih hxs
    exact ⟨y :: ys, rfl, List.forall_mem_cons.2 ⟨hy, hys⟩⟩

theorem Token.wellFormed_of_tokens {text : String} {t : Token} (h : tokens text = [t]) :
    t.WellFormed := by
  have hmem : t ∈ tokens text := by simp [h]
  exact wellFormed_of_mem_all hmem

theorem IsLexable.wellFormed {text : String} (h : IsLexable text) :
    (Token.symbol text).WellFormed := Token.wellFormed_of_tokens h

theorem IsWordText.exists_item {text : String} (h : IsWordText text) :
    ∃ x : TemplateItem, x.text = text ∧ x.token.WellFormed := by
  obtain ⟨t, ht, hword⟩ := List.map_eq_singleton_iff.1 h
  cases t with
  | lparen => cases hword
  | rparen => cases hword
  | symbol s =>
    cases hword
    exact ⟨.word text, rfl, Token.wellFormed_of_tokens ht⟩
  | number n =>
    cases hword
    exact ⟨.slot n, rfl, Token.wellFormed_of_tokens ht⟩

/-- Texts that are words are those of a template. -/
theorem exists_template {texts : List String} (h : ∀ text ∈ texts, IsWordText text) :
    ∃ template : Template, template.map TemplateItem.text = texts ∧
      AllWellFormed (template.map TemplateItem.token) := by
  obtain ⟨template, htexts, hwell⟩ := exists_map_eq fun text htext => (h text htext).exists_item
  exact ⟨template, htexts, List.forall_mem_map.2 hwell⟩

theorem TemplateItem.WellFormed.token {x : TemplateItem} (h : x.WellFormed) :
    x.token.WellFormed := by
  cases x with
  | word text => exact IsLexable.wellFormed h
  | slot k => exact h

theorem allWellFormed_template {template : Template} (h : ∀ x ∈ template, x.WellFormed) :
    AllWellFormed (template.map TemplateItem.token) :=
  List.forall_mem_map.2 fun x hx => (h x hx).token

theorem PatternItem.WellFormed.exists_element {item : PatternItem} (h : item.WellFormed) :
    ∃ e : Element, e.value = item ∧ AllWellFormed e.tokens := by
  cases item with
  | word text =>
    exact ⟨.word text, rfl, allWellFormed_cons.2 ⟨IsLexable.wellFormed h, allWellFormed_nil⟩⟩
  | count n => exact ⟨.count n, rfl, allWellFormed_cons.2 ⟨h, allWellFormed_nil⟩⟩
  | group written =>
    obtain ⟨parts, rfl, hparts⟩ := h
    obtain ⟨members, rfl, hmembers⟩ := exists_template hparts
    exact ⟨.group members, rfl, allWellFormed_listed.2 hmembers⟩

theorem wellFormed_equals : (Token.symbol "=").WellFormed := .sign rfl

theorem allWellFormed_reference {target : String} (h : IsLexable target) :
    AllWellFormed (reference target) := by
  simpa [reference, wellFormed_equals] using h.wellFormed

theorem Response.WellFormed.exists_reaction {r : Response} (h : r.WellFormed) :
    ∃ x : Reaction, x.value = r ∧ AllWellFormed x.tokens := by
  have hpre : (Token.symbol "PRE").WellFormed := .of_all rfl (by decide)
  have hpass : (Token.symbol "NEWKEY").WellFormed := .of_all rfl (by decide)
  cases r with
  | reply template =>
    obtain ⟨htemplate, hplain, hne⟩ := h
    exact ⟨.reply template hplain, if_neg hne,
      allWellFormed_listed.2 (allWellFormed_template htemplate)⟩
  | refer keyword =>
    have hname : IsName keyword := h
    exact ⟨.refer keyword, by simp [Reaction.value, hname.upper_eq],
      allWellFormed_reference hname.lexable⟩
  | recast template keyword =>
    obtain ⟨htemplate, hname⟩ := h
    refine ⟨.recast template keyword, by simp [Reaction.value, hname.upper_eq], ?_⟩
    simp [Reaction.tokens, hpre, allWellFormed_template htemplate,
      allWellFormed_reference hname.lexable]
  | pass =>
    exact ⟨.reply [.word "NEWKEY"] ⟨by decide, by decide⟩, rfl,
      by simpa [Reaction.tokens, TemplateItem.token] using hpass⟩

theorem Transformation.WellFormed.exists_clause {t : Transformation} (h : t.WellFormed) :
    ∃ c : Clause, c.value = .transformation t ∧ AllWellFormed c.tokens := by
  obtain ⟨pattern, hpattern, hitems⟩ :=
    exists_map_eq fun item hitem => (h.pattern item hitem).exists_element
  obtain ⟨reactions, hreactions, hresponses⟩ :=
    exists_map_eq fun r hr => (h.responses r hr).exists_reaction
  refine ⟨.transformation pattern reactions, by rw [Clause.value, hpattern, hreactions], ?_⟩
  simp only [Clause.tokens, allWellFormed_listed, allWellFormed_append, allWellFormed_flatMap]
  exact ⟨hitems, hresponses⟩

/-- A name without a slash in front is a tag. -/
theorem IsName.isTag {tag : String} (h : IsName tag) (hslash : tag.toList.head? ≠ some '/') :
    IsTag tag := by
  refine isTag_of_tag? h.lexable.wellFormed ?_
  have hne : tag.toList ≠ [] := by
    intro hnil
    have hwell : Token.IsSymbol tag.toList := h.lexable.wellFormed
    rw [hnil] at hwell
    cases hwell
    contradiction
  have hdrop : tag.toList.dropWhile (· == '/') = tag.toList := by
    cases hcs : tag.toList with
    | nil => rfl
    | cons c cs =>
      rw [hcs] at hslash
      exact List.dropWhile_cons_of_neg (by simpa using hslash)
  rw [tag?_eq_some (by rw [hdrop]; exact hne), hdrop, String.ofList_toList, h.upper_eq]

theorem Rule.WellFormed.isTag {rule : Rule} (h : rule.WellFormed) : ∀ tag ∈ rule.tags, IsTag tag :=
  fun tag htag => (h.tags tag htag).1.isTag (h.tags tag htag).2

theorem Rule.WellFormed.allWellFormed_ruleClauses {rule : Rule} (h : rule.WellFormed)
    {transformations : List Clause} (ht : ∀ c ∈ transformations, AllWellFormed c.tokens) :
    ∀ c ∈ ruleClauses rule rule.tags transformations, AllWellFormed c.tokens := by
  have hdlist : (Token.symbol "DLIST").WellFormed := .of_all rfl (by decide)
  simp only [ruleClauses, List.forall_mem_append]
  refine ⟨⟨⟨?_, ?_⟩, ?_⟩, ht, ?_⟩
  · intro c hc
    obtain ⟨word, hword, rfl⟩ := Option.map_eq_some_iff.1 (Option.mem_toList.1 hc)
    simp [Clause.tokens, wellFormed_equals, (h.substitute word hword).lexable.wellFormed]
  · intro c hc
    split at hc
    · cases hc
    · obtain rfl := List.mem_singleton.1 hc
      exact allWellFormed_cons.2 ⟨h.precedence, allWellFormed_nil⟩
  · intro c hc
    split at hc
    · cases hc
    · obtain rfl := List.mem_singleton.1 hc
      refine allWellFormed_cons.2 ⟨hdlist, allWellFormed_listed.2 ?_⟩
      exact List.forall_mem_map.2 fun tag htag => (h.tags tag htag).1.lexable.wellFormed
  · intro c hc
    obtain ⟨target, htarget, rfl⟩ := Option.map_eq_some_iff.1 (Option.mem_toList.1 hc)
    exact allWellFormed_reference (h.link target htarget).lexable

theorem Rule.WellFormed.exists_entry {rule : Rule} (h : rule.WellFormed) :
    ∃ e : Entry, e.value = rule ∧ AllWellFormed e.tokens := by
  have hclause : ∀ c ∈ rule.transformations.map RuleClause.transformation,
      ∃ c' : Clause, c'.value = c ∧ AllWellFormed c'.tokens :=
    List.forall_mem_map.2 fun t ht => (h.transformations t ht).exists_clause
  obtain ⟨transformations, htransformations, hwell⟩ := exists_map_eq hclause
  have htags : (if rule.tags = [] then [] else rule.tags.filterMap tag?) = rule.tags := by
    rw [List.filterMap_congr fun tag htag => (h.isTag tag htag).tag?_eq, List.filterMap_some]
    split <;> simp_all
  refine ⟨⟨rule.spelling, h.spelling_ne, ruleClauses rule rule.tags transformations⟩, ?_, ?_⟩
  · rw [Entry.value, ofClauses_ruleClauses (fun word hword => (h.substitute word hword).upper_eq)
      (fun keyword hkeyword => (h.link keyword hkeyword).upper_eq) htransformations, htags]
  · simp only [Entry.tokens, allWellFormed_listed, allWellFormed_cons, allWellFormed_flatMap]
    exact ⟨h.spelling.wellFormed, h.allWellFormed_ruleClauses hwell⟩

theorem Recollection.WellFormed.exists_memo {r : Recollection} (h : r.WellFormed) :
    ∃ m : Memo, m.value = r ∧ AllWellFormed m.tokens := by
  -- An element stands for `=` only if it is this word.
  have hitem : ∀ item ∈ r.pattern, ∃ e : { e : Element // e ≠ .word "=" },
      e.val.value = item ∧ AllWellFormed e.val.tokens := by
    intro item hmem
    obtain ⟨hwell, hne⟩ := h.pattern item hmem
    obtain ⟨e, rfl, htokens⟩ := hwell.exists_element
    exact ⟨⟨e, fun heq => hne (by rw [heq]; rfl)⟩, rfl, htokens⟩
  obtain ⟨pattern, hpattern, htokens⟩ := exists_map_eq hitem
  refine ⟨⟨pattern, r.template⟩, by rw [Memo.value, hpattern], ?_⟩
  simp only [Memo.tokens, allWellFormed_listed, allWellFormed_append, allWellFormed_cons,
    allWellFormed_flatMap]
  exact ⟨htokens, wellFormed_equals, allWellFormed_template h.template⟩

theorem MemoryRule.of_toList (memory : MemoryRule) :
    MemoryRule.of memory.trigger memory.recollections.toList = .ok memory := by
  obtain ⟨trigger, ⟨⟨recollections⟩, hsize⟩⟩ := memory
  exact dif_pos hsize

theorem MemoryRule.WellFormed.exists_memory {memory : MemoryRule} (h : memory.WellFormed) :
    ∃ memos : List Memo, memoryRule memory.trigger memos = .ok memory ∧
      AllWellFormed (Item.memory memory.trigger memos).tokens := by
  have hname : (Token.symbol "MEMORY").WellFormed := .of_all rfl (by decide)
  obtain ⟨memos, hmemos, htokens⟩ :=
    exists_map_eq fun r hr => (h.recollections r hr).exists_memo
  refine ⟨memos, ?_, ?_⟩
  · rw [memoryRule, hmemos, h.trigger.upper_eq, MemoryRule.of_toList]
  · simp only [Item.tokens, allWellFormed_listed, allWellFormed_cons, allWellFormed_flatMap]
    exact ⟨hname, h.trigger.lexable.wellFormed, htokens⟩

/-! ## Scripts -/

namespace Script

variable {script : Script}

/-- A well-formed script could have been read. -/
theorem WellFormed.nonempty_source (h : script.WellFormed) : Nonempty (Phrase.Source script) := by
  have hrules : ∀ rule ∈ script.rules, ∃ e : Entry, e.value = rule ∧ AllWellFormed e.tokens :=
    fun rule hrule => (h.rules rule (List.mem_append_left _ hrule)).exists_entry
  obtain ⟨greeting, hgreeting, hwords⟩ := exists_template h.greeting
  obtain ⟨rules, hvalues, hentries⟩ := exists_map_eq hrules
  obtain ⟨fallback, hvalue, hentry⟩ :=
    (h.rules script.fallback (List.mem_append_right _ (List.mem_singleton_self _))).exists_entry
  obtain ⟨memos, hmemory, htokens⟩ := h.memory.exists_memory
  refine ⟨⟨greeting, rules, fallback, script.memory.trigger, memos, hgreeting, hvalues, hvalue,
    hmemory, hwords, ?_, htokens⟩⟩
  rw [List.forall_mem_append, List.forall_mem_singleton]
  exact ⟨hentries, hentry⟩

theorem WellFormed.sound (h : script.WellFormed) : script.Sound := by
  have hdistinct : (script.rules.map Rule.name).Nodup := by
    have hdistinct := h.distinct
    simp only [List.Nodup, List.pairwise_map, ne_eq, Rule.name, RuleName.ofSpelling_inj]
      at hdistinct ⊢
    exact hdistinct
  refine ⟨hdistinct, fun rule hrule => ?_, ?_, ?_⟩
  · simp [Rule.name, RuleName.ofSpelling, h.rules_ne rule hrule]
  · simp [Rule.name, RuleName.ofSpelling, h.fallback_eq]
  · rw [danglingReference?_eq_none_iff]
    intro rule hrule target htarget
    obtain ⟨rule', hrule', rfl, happlicable⟩ := h.references rule hrule target htarget
    refine (answers_eq_true_iff hdistinct).2 ⟨rule', hrule', ?_, happlicable⟩
    simp [Rule.name, RuleName.ofSpelling, h.rules_ne rule' hrule', RuleName.word?]

/-- A well-formed script is what its text is read as. -/
theorem read_text_of_wellFormed (h : script.WellFormed) : read script.text = .ok script := by
  obtain ⟨src⟩ := h.nonempty_source
  have hentry : ∀ e ∈ src.rules ++ [src.fallback], e.HasMembers ∧ e.printed.value = e.value := by
    intro e he
    refine (Entry.hasMembers_and_value_printed_iff (src.wellFormed_rules e he)).2 ?_
    have hmem : e.value ∈ script.rules ++ [script.fallback] := by
      rw [← src.rules_value, ← src.fallback_value, ← List.map_singleton (f := Entry.value),
        ← List.map_append]
      exact List.mem_map_of_mem he
    exact fun tag htag => ((h.rules _ hmem).tags tag (List.mem_of_mem_tail htag)).1.lexable
  rw [read, src.tokens_text, ← src.tokens_outline fun e he => (hentry e he).1, ofTokens_tokens,
    src.script_outline_eq_ok_iff h.sound]
  exact fun e he => (hentry e he).2

end Script

/-! ## Computing well-formedness -/

/-- The words of a class as it is written. -/
def groupParts (written : String) : List String :=
  Text.fields (.ofList (WordClass.withoutParens written.toList))

/-- The words that a class is put together of are found again in it. -/
theorem PatternItem.wellFormed_group_iff {written : String} : (group written).WellFormed ↔
    written = groupText (groupParts written) ∧ ∀ part ∈ groupParts written, IsWordText part := by
  constructor
  · rintro ⟨parts, rfl, hparts⟩
    obtain ⟨template, rfl, htemplate⟩ := exists_template hparts
    have hfields := fields_intercalate_of_isRun (isRun_of_mem_template htemplate)
    rw [groupParts, WordClass.withoutParens_groupText, String.ofList_toList, hfields]
    exact ⟨rfl, hparts⟩
  · rintro ⟨hwritten, hparts⟩
    exact ⟨_, hwritten, hparts⟩

section Decidable

instance (text : String) : Decidable (IsLexable text) := inferInstanceAs (Decidable (_ = _))

instance (text : String) : Decidable (IsWordText text) := inferInstanceAs (Decidable (_ = _))

instance (text : String) : Decidable (IsName text) := decidable_of_iff' _ (isName_iff text)

instance (template : Template) : Decidable (IsPlain template) :=
  inferInstanceAs (Decidable (_ ∧ _))

instance : (item : PatternItem) → Decidable item.WellFormed
  | .word text => inferInstanceAs (Decidable (IsLexable text))
  | .count n => inferInstanceAs (Decidable (n < Token.numberBound))
  | .group _ => decidable_of_iff' _ PatternItem.wellFormed_group_iff

instance : (x : TemplateItem) → Decidable x.WellFormed
  | .word text => inferInstanceAs (Decidable (IsLexable text))
  | .slot k => inferInstanceAs (Decidable (k < Token.numberBound))

instance : (r : Response) → Decidable r.WellFormed
  | .reply _ => inferInstanceAs (Decidable (_ ∧ _ ∧ _))
  | .refer keyword => inferInstanceAs (Decidable (IsName keyword))
  | .recast _ _ => inferInstanceAs (Decidable (_ ∧ _))
  | .pass => inferInstanceAs (Decidable True)

instance (t : Transformation) : Decidable t.WellFormed := decidable_of_iff' _ t.wellFormed_iff

instance (rule : Rule) : Decidable rule.WellFormed := decidable_of_iff' _ rule.wellFormed_iff

instance (r : Recollection) : Decidable r.WellFormed := decidable_of_iff' _ r.wellFormed_iff

instance (memory : MemoryRule) : Decidable memory.WellFormed :=
  decidable_of_iff' _ memory.wellFormed_iff

instance (script : Script) : Decidable script.WellFormed :=
  decidable_of_iff' _ script.wellFormed_iff

end Decidable

/-! ## A script with parts of every kind -/

/-- The spellings are in lower case, a tag is the sign `=`, and what looks like a redirect does so
only in part. -/
def everyPartScript : Script where
  greeting := ["WELL", ",", "7"]
  rules :=
    [{ spelling := "my"
       substitute := some "YOUR"
       precedence := 2
       tags := ["OWN", "="]
       link := some "WHY"
       transformations :=
         [⟨[.count 0, .word "YOUR", .group "(* SON 2)", .group "(/OWN)"],
           [.reply [.word "SO", .word "PRE", .slot 3], .refer "WHY",
            .recast [.word "=", .slot 1] "WHY", .pass, .reply []]⟩] },
     { spelling := "WHY", transformations := [⟨[], []⟩] }]
  fallback := { spelling := "none", transformations := [⟨[.count 0], [.reply [.word "GO"]]⟩] }
  memory :=
    ⟨"MY", #v[⟨[.word "MY", .group "(=)"], [.slot 1, .word "="]⟩, ⟨[.count 0], []⟩,
      ⟨[.count 0], [.word "GO"]⟩, ⟨[], [.word "GO"]⟩]⟩

/-- The script is read back from its text, with all its parts. -/
theorem read_text_everyPartScript :
    everyPartScript.WellFormed ∧ Script.read everyPartScript.text = .ok everyPartScript := by
  have h : everyPartScript.WellFormed := by decide +kernel
  exact ⟨h, Script.read_text_of_wellFormed h⟩

end Colloquy
