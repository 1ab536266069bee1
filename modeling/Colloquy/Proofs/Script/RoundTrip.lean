import Colloquy.Proofs.Script.Acceptance
import Colloquy.Proofs.Script.Printing

/-!
# Reading a printed script

A script that has been read is printed as an outline of the same rules, but for their tags. It is
read back as itself if and only if every tag but the first of its rule is a symbol in its own
right: a tag such as `12` was set apart by a slash where it was read, and is printed without it.

* `Phrase.Entry.printed`: the entry that a printed rule is read as, if it is read at all.
* `Phrase.Source`: the phrases that a script was read from.
* `Script.read_text_eq_ok_iff`: which scripts are read back.
-/

namespace Colloquy

open Reading Phrase

/-! ## Rules from their fields -/

theorem Rule.foldl_transformations (rule : Rule) (ts : List Transformation) :
    (ts.map RuleClause.transformation).foldl withClause rule =
      { rule with transformations := rule.transformations ++ ts } := by
  induction ts generalizing rule with
  | nil => simp
  | cons t ts ih =>
    rw [List.map_cons, List.foldl_cons, ih]
    simp [withClause]

/-- A rule is made up of its fields, apart from its tags. -/
theorem Rule.ofClauses_parts (rule : Rule) (tags : List String) :
    ofClauses rule.spelling ((rule.substitute.map RuleClause.substitute).toList ++
      (if rule.precedence = 0 then [] else [.precedence rule.precedence]) ++
      (if rule.tags = [] then [] else [.tags tags]) ++
      (rule.transformations.map .transformation ++ (rule.link.map RuleClause.link).toList)) =
        { rule with tags := if rule.tags = [] then [] else tags } := by
  obtain ⟨spelling, substitute, precedence, tags', link, transformations⟩ := rule
  simp only [ofClauses, List.foldl_append, foldl_transformations]
  cases substitute <;> cases link <;> split <;> split <;> simp_all [withClause]

namespace Phrase

/-- The parts of a rule as it is printed, with the members of its tags and its transformations as
they are written. -/
def ruleClauses (rule : Rule) (members : List String) (transformations : List Clause) :
    List Clause :=
  ((rule.substitute.map Clause.substitute).toList ++
    if rule.precedence = 0 then [] else [.precedence rule.precedence]) ++
  (if rule.tags = [] then [] else [.tags members]) ++
  (transformations ++ (rule.link.map Clause.link).toList)

/-- The parts of a rule whose names are in upper case make up the rule, apart from its tags. -/
theorem ofClauses_ruleClauses {rule : Rule} {members : List String} {transformations : List Clause}
    (hsubstitute : ∀ word ∈ rule.substitute, Text.upper word = word)
    (hlink : ∀ keyword ∈ rule.link, Text.upper keyword = keyword)
    (htransformations : transformations.map Clause.value =
      rule.transformations.map .transformation) :
    Rule.ofClauses rule.spelling ((ruleClauses rule members transformations).map Clause.value) =
      { rule with tags := if rule.tags = [] then [] else members.filterMap tag? } := by
  have hword : (rule.substitute.map Clause.substitute).toList.map Clause.value =
      (rule.substitute.map RuleClause.substitute).toList := by
    cases hword : rule.substitute with
    | none => rfl
    | some word => simp [Clause.value, hsubstitute word hword]
  have htarget : (rule.link.map Clause.link).toList.map Clause.value =
      (rule.link.map RuleClause.link).toList := by
    cases hkeyword : rule.link with
    | none => rfl
    | some keyword => simp [Clause.value, hlink keyword hkeyword]
  have hprecedence : (if rule.precedence = 0 then [] else
      [Clause.precedence rule.precedence]).map Clause.value =
        if rule.precedence = 0 then [] else [.precedence rule.precedence] := by
    split <;> rfl
  have htags : (if rule.tags = [] then [] else [Clause.tags members]).map Clause.value =
      if rule.tags = [] then [] else [.tags (members.filterMap tag?)] := by
    split <;> rfl
  rw [← Rule.ofClauses_parts rule (members.filterMap tag?), ← hword, ← htarget,
    ← htransformations, ← hprecedence, ← htags]
  simp only [ruleClauses, List.map_append]

namespace Entry

variable {e : Entry}

/-! ## Printed rules -/

/-- The symbols among the tokens of the printed tags. -/
def members (e : Entry) : List String := (tagTokens e.value.tags).filterMap Token.symbol?

/-- The parts of a printed rule, if its printed tags are symbols. -/
def printedClauses (e : Entry) : List Clause :=
  e.front ++ (if e.value.tags = [] then [] else [.tags e.members]) ++ e.back

/-- The entry that a printed rule is read as, if its printed tags are symbols. -/
def printed (e : Entry) : Entry := ⟨e.spelling, e.spelling_ne, e.printedClauses⟩

/-- Whether all printed tags are symbols. -/
def HasMembers (e : Entry) : Prop := tagTokens e.value.tags = e.members.map .symbol

theorem tokens_printed (h : e.HasMembers) : e.printed.tokens = e.printedTokens := by
  have hmiddle : (if e.value.tags = [] then [] else [Clause.tags e.members]).flatMap
      Clause.tokens = e.middle := by
    rw [middle, h]
    split
    · rfl
    · exact List.append_nil _
  rw [Entry.tokens, printedTokens, ← hmiddle]
  simp only [printed, printedClauses, List.flatMap_append, List.append_assoc]

theorem value_printed (h : AllWellFormed e.tokens) : e.printed.value =
    { e.value with tags := if e.value.tags = [] then [] else e.members.filterMap tag? } := by
  have hspelling : e.value.spelling = e.spelling := by rw [value_eq]
  have htransformations : (e.transformations.map fun t =>
      Clause.transformation t.1 (t.2.map Reaction.canonical)).map Clause.value =
        e.value.transformations.map RuleClause.transformation := by
    rw [value_eq, List.map_map, List.map_map]
    refine List.map_congr_left fun t _ => ?_
    simp [Clause.value, value_canonical]
  rw [← ofClauses_ruleClauses (fun word hword => (wellFormed_substitute h hword).2) ?_
    htransformations, hspelling]
  · rfl
  · intro keyword hkeyword
    obtain ⟨spelled, -, rfl⟩ := wellFormed_link h hkeyword
    exact Text.upper_upper spelled

/-! ## Printed tags that are not symbols -/

theorem readTags_number (members : List String) (n : Nat) (ts : List Token) :
    readTags (.lparen :: (members.map .symbol ++ .number n :: ts)) =
      .error (.expected .tagName (.number n)) := by
  have hread : readUntil .rparen (.single Token.symbol? .tagName) (.number n :: ts) =
      .error (.expected .tagName (.number n)) := readUntil_error nofun rfl
  have happend := readUntil_append (reads_symbol .tagName) members (.number n :: ts)
  rw [hread, mapFst_error, ← List.map_eq_flatMap] at happend
  rw [readTags, readToken_self, ok_bind, readList, happend]
  rfl

/-- A rule whose printed tags are not all symbols is refused. -/
theorem exists_readRule_error (h : AllWellFormed e.tokens) (hmembers : ¬e.HasMembers)
    (ts : List Token) : ∃ error, readRule e.spelling
      (e.front.flatMap Clause.tokens ++ (e.middle ++ ts)) = .error error := by
  have hne : e.value.tags ≠ [] := by
    intro hnil
    have hslash : tagTokens [] = [.symbol "/"] := by
      rw [tagTokens, spacedOut, String.intercalate_nil, String.append_empty]
      exact slash_lexes.tokens_eq
    rw [HasMembers, members, hnil, hslash] at hmembers
    exact hmembers rfl
  have hparen := fun t => not_paren_of_mem_tagTokens (t := t) fun tag htag => isTag_of_mem h htag
  obtain ⟨ms, n, rest, hnumber⟩ := (eq_symbols_or_exists_number hparen).resolve_left hmembers
  have hclause : clauseItem.read (.symbol "DLIST") (listed (tagTokens e.value.tags) ++ ts) =
      .error (.expected .tagName (.number n)) := by
    show mapFst RuleClause.tags (readTags _) = _
    rw [hnumber, listed, List.cons_append, List.append_assoc, List.append_assoc, List.cons_append,
      readTags_number, mapFst_error]
  have hlist : readUntil .rparen clauseItem
      (.symbol "DLIST" :: (listed (tagTokens e.value.tags) ++ ts)) =
        .error (.expected .tagName (.number n)) := readUntil_error (by decide) hclause
  refine ⟨.expected .tagName (.number n), ?_⟩
  rw [readRule, readList, readUntil_append reads_clause, middle, if_neg hne, List.cons_append,
    hlist]
  rfl

end Entry

/-- If a script is read where rules are printed, all their printed tags are symbols. -/
theorem hasMembers_of_read {es : List Entry} (h : ∀ e ∈ es, AllWellFormed e.tokens)
    {rest : List Token} {draft draft' : Draft}
    (hread : draft.read (es.flatMap Entry.printedTokens ++ rest) = .ok draft') :
    ∀ e ∈ es, e.HasMembers := by
  induction es generalizing draft with
  | nil => exact nofun
  | cons e es ih =>
    obtain ⟨he, hes⟩ := List.forall_mem_cons.1 h
    rw [List.flatMap_cons, List.append_assoc] at hread
    by_cases hmembers : e.HasMembers
    · rw [← Entry.tokens_printed hmembers] at hread
      rw [show e.printed.tokens = (Item.rule e.printed).tokens from rfl, Draft.read_item] at hread
      obtain ⟨draft'', -, hread⟩ := of_bind_eq_ok hread
      exact List.forall_mem_cons.2 ⟨hmembers, ih hes hread⟩
    · obtain ⟨error, herror⟩ := Entry.exists_readRule_error he hmembers
        (e.back.flatMap Clause.tokens ++ .rparen :: (es.flatMap Entry.printedTokens ++ rest))
      have hrefused := draft.read_rule_error e.spelling_ne herror
      simp only [Entry.printedTokens, listed, List.cons_append, List.append_assoc,
        List.nil_append] at hread
      rw [hrefused] at hread
      cases hread

/-! ## Printed scripts -/

/-- The phrases that a script was read from. -/
structure Source (script : Script) where
  greeting : Template
  rules : List Entry
  fallback : Entry
  trigger : String
  memos : List Memo
  greeting_text : greeting.map TemplateItem.text = script.greeting
  rules_value : rules.map Entry.value = script.rules
  fallback_value : fallback.value = script.fallback
  memory_eq : memoryRule trigger memos = .ok script.memory
  wellFormed_greeting : AllWellFormed (greeting.map TemplateItem.token)
  wellFormed_rules : ∀ e ∈ rules ++ [fallback], AllWellFormed e.tokens
  wellFormed_memory : AllWellFormed (Item.memory trigger memos).tokens

/-- A script that is read has a source. -/
theorem nonempty_source {text : String} {script : Script} (h : Script.read text = .ok script) :
    Nonempty (Source script) := by
  obtain ⟨o, htokens, hscript⟩ := Script.exists_of_read h
  obtain ⟨ha, hfinish⟩ := Outline.script_eq_ok_iff.1 hscript
  obtain ⟨hrules, hfallback, hmemory, hgreeting, -⟩ := Draft.finish_eq_ok_iff.1 hfinish
  have hwell : AllWellFormed o.tokens := fun t ht => by
    rw [htokens] at ht
    exact Token.wellFormed_of_mem_all ht
  have hitem {item : Item} (hitem : item ∈ o.items) : AllWellFormed item.tokens :=
    hwell.of_append_right.of_append_right.of_flatMap hitem
  have hentry {e : Entry} (he : e ∈ Item.entries o.items) : AllWellFormed e.tokens :=
    hitem (Item.mem_entries.1 he)
  obtain ⟨fallback, hmem, hvalue⟩ := List.mem_map.1 (List.mem_of_find?_eq_some hfallback)
  obtain ⟨m, hm, hrule⟩ := Option.bind_eq_some_iff.1 hmemory
  have hmemo : Item.memory m.1 m.2 ∈ o.items := Item.mem_memories.1 (List.mem_of_mem_head? hm)
  refine ⟨⟨o.greeting, (Item.entries o.items).filter (·.value.name ≠ .fallback), fallback, m.1, m.2,
    hgreeting, ?_, hvalue, ?_, hwell.of_append_left.listed, ?_, hitem hmemo⟩⟩
  · rw [← hrules, Draft.ofItems, List.filter_map]
    rfl
  · cases hm : memoryRule m.1 m.2 with
    | error error => simp [hm, Except.toOption] at hrule
    | ok memory => simpa [hm, Except.toOption] using hrule
  · intro e he
    rcases List.mem_append.1 he with he | he
    · exact hentry (List.mem_of_mem_filter he)
    · rw [List.mem_singleton.1 he]
      exact hentry hmem

namespace Source

variable {script : Script} (src : Source script)

theorem allRules_value : (src.rules ++ [src.fallback]).map Entry.value =
    script.rules ++ [script.fallback] := by
  rw [List.map_append, List.map_singleton, src.rules_value, src.fallback_value]

include src in
/-- Each rule of a script was read from an entry. -/
theorem exists_entry {rule : Rule} (h : rule ∈ script.rules ++ [script.fallback]) :
    ∃ e : Entry, AllWellFormed e.tokens ∧ e.value = rule := by
  rw [← src.allRules_value] at h
  obtain ⟨e, he, hvalue⟩ := List.mem_map.1 h
  exact ⟨e, src.wellFormed_rules e he, hvalue⟩

/-- The tokens of a printed script. -/
def printedTokens : List Token :=
  listed (src.greeting.map TemplateItem.token) ++ (.symbol "START" ::
    ((src.rules ++ [src.fallback]).flatMap Entry.printedTokens ++
      ((Item.memory (Text.upper src.trigger) src.memos).tokens ++ listed [])))

theorem trails_rules : Trails
    (String.join ((script.rules ++ [script.fallback]).map (·.text ++ "\n")))
      ((src.rules ++ [src.fallback]).flatMap Entry.printedTokens) := by
  rw [← src.allRules_value, List.map_map]
  refine .join fun e he => ?_
  have htrails := (Entry.trails_text (src.wellFormed_rules e he)).append .newline
  rwa [List.append_nil] at htrails

theorem tokens_text : tokens script.text = src.printedTokens := by
  have hgreeting : Trails ("(" ++ spacedOut script.greeting ++ ")")
      (listed (src.greeting.map TemplateItem.token)) := by
    rw [← src.greeting_text]
    exact (lexes_template src.wellFormed_greeting).listed
  have hstart : Trails ("\n" ++ "START") [.symbol "START"] :=
    Lexes.blank (c := '\n') rfl (Lexes.of_symbol (.of_all rfl (by decide)))
  have hmemory := trails_memory src.wellFormed_memory src.memory_eq
  have hblank : Trails "()" (listed []) := Trails.nil.lexes.listed
  have htext : script.text = "(" ++ spacedOut script.greeting ++ ")" ++ ("\n" ++ "START") ++ "\n" ++
      String.join ((script.rules ++ [script.fallback]).map (·.text ++ "\n")) ++
        script.memory.text ++ "\n" ++ "()" := by
    have hopen : ")\nSTART\n" = ")" ++ ("\n" ++ "START") ++ "\n" := rfl
    have hclose : "\n()" = "\n" ++ "()" := rfl
    rw [Script.text, hopen, hclose, List.map_append, String.join_append]
    simp only [List.map_cons, List.map_nil, String.join_cons, String.join_nil, String.append_empty,
      String.append_assoc]
  have hlexes := ((((((hgreeting.append hstart).append .newline).append src.trails_rules).append
    hmemory).append .newline).append hblank).lexes
  rw [← htext] at hlexes
  rw [hlexes.tokens_eq, printedTokens]
  simp only [List.append_assoc, List.nil_append, List.cons_append]

/-- What a printed script is read as, if all its printed tags are symbols. -/
def outline : Outline where
  greeting := src.greeting
  started := true
  items := (src.rules ++ [src.fallback]).map (Item.rule ∘ Entry.printed) ++
    [.memory (Text.upper src.trigger) src.memos, .blank]

theorem tokens_outline (h : ∀ e ∈ src.rules ++ [src.fallback], e.HasMembers) :
    src.outline.tokens = src.printedTokens := by
  have hrules :
      ((src.rules ++ [src.fallback]).map (Item.rule ∘ Entry.printed)).flatMap Item.tokens =
        (src.rules ++ [src.fallback]).flatMap Entry.printedTokens := by
    rw [List.flatMap_map]
    exact List.flatMap_congr fun e he => Entry.tokens_printed (h e he)
  rw [Outline.tokens, printedTokens, outline, List.flatMap_append, hrules]
  rfl

theorem entries_outline :
    Item.entries src.outline.items = (src.rules ++ [src.fallback]).map Entry.printed := by
  rw [outline, Item.entries_append, Item.entries_memory, Item.entries_blank, Item.entries_nil,
    List.append_nil, Item.entries, List.filterMap_map]
  exact congrFun (List.filterMap_eq_map (f := Entry.printed)) _

theorem memories_outline :
    Item.memories src.outline.items = [(Text.upper src.trigger, src.memos)] := by
  have hrules :
      Item.memories ((src.rules ++ [src.fallback]).map (Item.rule ∘ Entry.printed)) = [] := by
    rw [Item.memories, List.filterMap_eq_nil_iff]
    intro item hitem
    obtain ⟨e, -, rfl⟩ := List.mem_map.1 hitem
    rfl
  rw [outline, Item.memories_append, hrules, Item.memories_memory, Item.memories_blank,
    Item.memories_nil, List.nil_append]

theorem name_of_mem_rules (hs : script.Sound) {e : Entry} (he : e ∈ src.rules) :
    e.value.name ≠ .fallback :=
  hs.rules_name _ (by rw [← src.rules_value]; exact List.mem_map_of_mem he)

theorem name_fallback (hs : script.Sound) : src.fallback.value.name = .fallback := by
  rw [src.fallback_value, hs.fallback_name]

theorem name_value_printed (e : Entry) : e.printed.value.name = e.value.name := by
  rw [Entry.name_value, Entry.name_value]
  rfl

theorem admissible_outline (hs : script.Sound) : Draft.Admissible src.outline.items where
  distinct := by
    have hrules : (src.rules.map Entry.keyword).Nodup := by
      have hdistinct := hs.distinct
      rw [← src.rules_value] at hdistinct
      simp only [List.Nodup, List.pairwise_map, ne_eq, Entry.name_value_inj] at hdistinct ⊢
      exact hdistinct
    have hfallback : src.fallback.keyword ∉ src.rules.map Entry.keyword := by
      intro hmem
      obtain ⟨e, he, hkeyword⟩ := List.mem_map.1 hmem
      refine src.name_of_mem_rules hs he ?_
      rw [Entry.name_value_inj.2 hkeyword, src.name_fallback hs]
    rw [entries_outline, List.map_map]
    show ((src.rules ++ [src.fallback]).map Entry.keyword).Nodup
    rw [List.map_append, List.map_singleton, ← List.concat_eq_append, List.nodup_concat]
    exact ⟨hfallback, hrules⟩
  single := by
    rw [memories_outline]
    exact Nat.le_refl 1
  arity m hm := by
    rw [memories_outline, List.mem_singleton] at hm
    rw [hm, ← isSome_memoryRule_iff src.trigger, src.memory_eq]
    rfl

theorem printed_name_of_mem_rules (hs : script.Sound) {e : Entry} (he : e ∈ src.rules) :
    e.printed.value.name ≠ .fallback := by
  rw [name_value_printed]
  exact src.name_of_mem_rules hs he

theorem printed_name_fallback (hs : script.Sound) :
    src.fallback.printed.value.name = .fallback := by
  rw [name_value_printed, src.name_fallback hs]

theorem rules_outline (hs : script.Sound) :
    (Draft.ofItems src.outline.items).rules = src.rules.map (·.printed.value) := by
  rw [Draft.ofItems, entries_outline, List.map_map, List.map_append, List.filter_append,
    List.filter_eq_self.2, List.map_singleton]
  · simp [src.printed_name_fallback hs]
  · intro rule hrule
    obtain ⟨e, he, rfl⟩ := List.mem_map.1 hrule
    exact decide_eq_true (src.printed_name_of_mem_rules hs he)

theorem fallback_outline (hs : script.Sound) :
    (Draft.ofItems src.outline.items).fallback = some src.fallback.printed.value := by
  rw [Draft.ofItems, entries_outline, List.map_map, List.map_append, List.find?_append,
    List.find?_eq_none.2, List.map_singleton]
  · simp [src.printed_name_fallback hs]
  · intro rule hrule
    obtain ⟨e, he, rfl⟩ := List.mem_map.1 hrule
    simpa using src.printed_name_of_mem_rules hs he

theorem memory_outline : (Draft.ofItems src.outline.items).memory = some script.memory := by
  have hupper : memoryRule (Text.upper src.trigger) src.memos = .ok script.memory := by
    rw [← src.memory_eq, memoryRule, memoryRule, Text.upper_upper]
  rw [Draft.ofItems, memories_outline]
  simp [hupper, Except.toOption]

/-- A printed script is read as itself if and only if each of its rules is. -/
theorem script_outline_eq_ok_iff (hs : script.Sound) : src.outline.script = .ok script ↔
    ∀ e ∈ src.rules ++ [src.fallback], e.printed.value = e.value := by
  rw [Outline.script_eq_ok_iff, and_iff_right (src.admissible_outline hs), Draft.finish_eq_ok_iff,
    src.rules_outline hs, src.fallback_outline hs, src.memory_outline, ← src.rules_value,
    ← src.fallback_value]
  rw [List.map_inj_left, Option.some.injEq, List.forall_mem_append, List.forall_mem_singleton]
  exact ⟨fun h => ⟨h.1, h.2.1⟩, fun h => ⟨h.1, h.2, rfl, src.greeting_text, hs.references⟩⟩

/-- If a printed script is read at all, its printed tags are symbols. -/
theorem hasMembers_of_ofTokens {script' : Script}
    (h : Script.ofTokens src.printedTokens = .ok script') :
    ∀ e ∈ src.rules ++ [src.fallback], e.HasMembers := by
  rw [Script.ofTokens, printedTokens, listed, List.cons_append, List.append_assoc,
    List.singleton_append, readGreeting, readWords_tokens, ok_bind] at h
  obtain ⟨draft, hread, -⟩ := of_bind_eq_ok h
  exact hasMembers_of_read src.wellFormed_rules hread

end Source

/-- A rule is read back with its tags if and only if all but the first of them are symbols. -/
theorem Entry.hasMembers_and_value_printed_iff {e : Entry} (h : AllWellFormed e.tokens) :
    e.HasMembers ∧ e.printed.value = e.value ↔
      ∀ tag ∈ e.value.tags.tail, Colloquy.tokens tag = [.symbol tag] := by
  have hiff := exists_members_iff fun tag htag => isTag_of_mem h htag
  constructor
  · rintro ⟨hmembers, hvalue⟩
    by_cases hnil : e.value.tags = []
    · rw [hnil]
      exact nofun
    · have htags := congrArg Rule.tags hvalue
      rw [value_printed h] at htags
      exact hiff.1 ⟨e.members, hmembers, by simpa [hnil] using htags⟩
  · intro htags
    obtain ⟨members, htokens, hmembers⟩ := hiff.2 htags
    have heq : e.members = members := by
      rw [Entry.members, htokens, List.filterMap_map]
      exact List.filterMap_some
    refine ⟨by rw [HasMembers, heq, htokens], ?_⟩
    have hself : (if e.value.tags = [] then [] else e.value.tags) = e.value.tags := by
      split <;> simp_all
    rw [value_printed h, heq, hmembers, hself]

end Phrase

/-- A printed script is read back if and only if every tag but the first of its rule is a symbol
in its own right. -/
theorem Script.read_text_eq_ok_iff {text : String} {script : Script}
    (h : Script.read text = .ok script) : Script.read script.text = .ok script ↔
      ∀ rule ∈ script.rules ++ [script.fallback], ∀ tag ∈ rule.tags.tail,
        tokens tag = [.symbol tag] := by
  obtain ⟨src⟩ := nonempty_source h
  have hs := Script.sound_of_read h
  have hrules : script.rules ++ [script.fallback] =
      (src.rules ++ [src.fallback]).map Entry.value := by
    rw [List.map_append, List.map_singleton, src.rules_value, src.fallback_value]
  rw [hrules, List.forall_mem_map, Script.read, src.tokens_text]
  constructor
  · intro hread e he
    have hmembers := src.hasMembers_of_ofTokens hread
    rw [← src.tokens_outline hmembers, Script.ofTokens_tokens,
      src.script_outline_eq_ok_iff hs] at hread
    exact (Entry.hasMembers_and_value_printed_iff (src.wellFormed_rules e he)).1
      ⟨hmembers e he, hread e he⟩
  · intro htags
    have hentry := fun e he =>
      (Entry.hasMembers_and_value_printed_iff (src.wellFormed_rules e he)).2 (htags e he)
    rw [← src.tokens_outline fun e he => (hentry e he).1, Script.ofTokens_tokens,
      src.script_outline_eq_ok_iff hs]
    exact fun e he => (hentry e he).2

/-- A script with the tag `12`, which is read from `/12`. -/
def digitTagText : String :=
  "(HI) (A DLIST(/A /12)) (NONE ((0) (OK))) (MEMORY A (0 = A) (0 = B) (0 = C) (0 = D))"

def digitTagScript : Script where
  greeting := ["HI"]
  rules := [{ spelling := "A", tags := ["A", "12"] }]
  fallback := { spelling := "NONE", transformations := [⟨[.count 0], [.reply [.word "OK"]]⟩] }
  memory := .letters "A"

/-- The tag is printed as a number, and the printed script is not read back. -/
theorem read_text_digitTagScript : Script.read digitTagText = .ok digitTagScript ∧
    Script.read digitTagScript.text ≠ .ok digitTagScript := by
  have h : Script.read digitTagText = .ok digitTagScript := by decide +kernel
  refine ⟨h, fun hread => ?_⟩
  have htags := (Script.read_text_eq_ok_iff h).1 hread
  have htag : tokens "12" ≠ [.symbol "12"] := by decide +kernel
  exact htag (htags _ List.mem_cons_self "12" List.mem_cons_self)

end Colloquy
