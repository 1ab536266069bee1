import Colloquy.Proofs.Script.Entry
import Colloquy.Proofs.Script.Reading

/-!
# Which texts are scripts

A text is a script if and only if its tokens are generated by the grammar and the outline that
they write is valid: one memory rule of four recollections, one fallback rule, no keyword with
two rules, and no reference to a keyword that cannot answer.

* `Phrase.Outline.Valid`: what is asked of an outline beyond its form.
* `Draft.foldlM_accept_eq_ok_iff`: which lists a draft admits, and the draft that they make up.
* `Phrase.Outline.script_eq_ok_iff`: the script that an outline stands for.
* `Script.exists_read_eq_ok_iff`: the texts that are read as scripts.
-/

namespace Colloquy

open Reading Phrase

/-! ## Validity -/

namespace Phrase

/-- What is asked of an outline beyond its form. As keywords are distinct, there is exactly one
fallback rule. -/
structure Outline.Valid (o : Outline) : Prop where
  memory : ∃ trigger memos, Item.memories o.items = [(trigger, memos)] ∧ memos.length = 4
  distinct : ((Item.entries o.items).map Entry.keyword).Nodup
  fallback : ∃ e ∈ Item.entries o.items, e.keyword = RuleName.fallbackSpelling
  references : ∀ e ∈ Item.entries o.items, ∀ target ∈ e.targets, ∃ e' ∈ Item.entries o.items,
    e'.keyword = Text.upper target ∧ e'.keyword ≠ RuleName.fallbackSpelling ∧ e'.IsActive

end Phrase

/-! ## Drafts -/

theorem isSome_memoryRule_iff (trigger : String) {memos : List Memo} :
    (memoryRule trigger memos).toOption.isSome = true ↔ memos.length = 4 := by
  simp only [memoryRule, MemoryRule.of, List.length_map]
  split <;> simp_all [Except.toOption]

namespace Draft

/-- What a draft asks of the lists of a script. -/
structure Admissible (items : List Item) : Prop where
  distinct : ((Item.entries items).map Entry.keyword).Nodup
  single : (Item.memories items).length ≤ 1
  arity : ∀ m ∈ Item.memories items, m.2.length = 4

/-- The draft that the lists of a script make up. -/
def ofItems (items : List Item) : Draft where
  rules := ((Item.entries items).map Entry.value).filter (·.name ≠ .fallback)
  fallback := ((Item.entries items).map Entry.value).find? (·.name = .fallback)
  memory := (Item.memories items).head?.bind fun m => (memoryRule m.1 m.2).toOption

variable {items : List Item} {draft : Draft}

theorem hasRule_ofItems {e : Entry} : (ofItems items).hasRule e.value.name = true ↔
    e.keyword ∈ (Item.entries items).map Entry.keyword := by
  have hiff : (ofItems items).hasRule e.value.name = true ↔
      ∃ e' ∈ Item.entries items, e'.value.name = e.value.name := by
    cases hname : e.value.name with
    | fallback => simp [hasRule, ofItems]
    | keyword word =>
      simp only [hasRule, ofItems, List.any_eq_true, List.mem_filter, List.mem_map]
      constructor
      · rintro ⟨_, ⟨⟨e', he', rfl⟩, -⟩, heq⟩
        exact ⟨e', he', by simpa using heq⟩
      · rintro ⟨e', he', heq⟩
        exact ⟨_, ⟨⟨e', he', rfl⟩, by simp [heq]⟩, by simp [heq]⟩
  rw [hiff, List.mem_map]
  exact exists_congr fun e' => and_congr_right fun _ => Entry.name_value_inj

theorem isSome_memory_ofItems (h : Admissible items) :
    (ofItems items).memory.isSome = true ↔ Item.memories items ≠ [] := by
  have harity := h.arity
  simp only [ofItems]
  cases hm : Item.memories items with
  | nil => simp
  | cons m ms =>
    rw [hm] at harity
    simpa using (isSome_memoryRule_iff _).2 (harity m List.mem_cons_self)

theorem accept_ofItems_memory (h : Admissible items) {trigger : String} {memos : List Memo} :
    (ofItems items).accept (.memory trigger memos) = .ok draft ↔
      Admissible (items ++ [.memory trigger memos]) ∧
        draft = ofItems (items ++ [.memory trigger memos]) := by
  by_cases hm : Item.memories items = []
  · have hnone : (ofItems items).memory.isSome = false := by
      rw [← Bool.not_eq_true, isSome_memory_ofItems h, hm]
      exact fun hne => hne rfl
    have hadmissible : Admissible (items ++ [.memory trigger memos]) ↔ memos.length = 4 := by
      refine ⟨fun ha => ha.arity (trigger, memos) (by simp), fun hlen => ?_⟩
      exact ⟨by simpa using h.distinct, by simp [hm], by simp [hm, hlen]⟩
    rw [accept, hnone, hadmissible, ← isSome_memoryRule_iff trigger]
    cases hrule : memoryRule trigger memos with
    | error e => simp [Except.map, Except.toOption]
    | ok memory => simp [Except.map, Except.toOption, ofItems, hm, hrule, eq_comm]
  · have hsome := (isSome_memory_ofItems h).2 hm
    rw [accept, if_pos hsome]
    constructor
    · intro h
      cases h
    · rintro ⟨ha, -⟩
      have hsingle := ha.single
      have hpos := List.length_pos_iff.2 hm
      simp only [Item.memories_append, Item.memories_memory, List.length_append,
        List.length_cons] at hsingle
      omega

theorem accept_ofItems_rule (h : Admissible items) {e : Entry} :
    (ofItems items).accept (.rule e) = .ok draft ↔
      Admissible (items ++ [.rule e]) ∧ draft = ofItems (items ++ [.rule e]) := by
  have hadmissible : Admissible (items ++ [.rule e]) ↔
      e.keyword ∉ (Item.entries items).map Entry.keyword := by
    have hnodup : ((Item.entries (items ++ [.rule e])).map Entry.keyword).Nodup ↔
        e.keyword ∉ (Item.entries items).map Entry.keyword := by
      rw [Item.entries_append, List.map_append, Item.entries_rule, Item.entries_nil,
        List.map_singleton, ← List.concat_eq_append, List.nodup_concat]
      exact and_iff_left h.distinct
    exact ⟨fun ha => hnodup.1 ha.distinct, fun hnew =>
      ⟨hnodup.2 hnew, by simpa using h.single, by simpa using h.arity⟩⟩
  rw [accept, add, hadmissible, ← hasRule_ofItems]
  split
  · rename_i hhas
    constructor
    · intro h
      cases h
    · rintro ⟨hno, -⟩
      exact absurd hhas hno
  · rename_i hhas
    rw [and_iff_right hhas]
    cases hname : e.value.name with
    | fallback =>
      have hnone : ((Item.entries items).map Entry.value).find? (·.name = .fallback) = none := by
        rw [hname] at hhas
        simpa [hasRule, ofItems] using hhas
      simp [ofItems, hname, hnone, eq_comm (b := draft)]
    | keyword word => simp [ofItems, hname, eq_comm]

/-- What is asked of a list after others: `Admissible` holds of all of them, and the draft is
the one that all of them make up. -/
theorem accept_ofItems_eq_ok_iff (h : Admissible items) {item : Item} :
    (ofItems items).accept item = .ok draft ↔
      Admissible (items ++ [item]) ∧ draft = ofItems (items ++ [item]) := by
  cases item with
  | blank =>
    have hadmissible : Admissible (items ++ [.blank]) :=
      ⟨by simpa using h.distinct, by simpa using h.single, by simpa using h.arity⟩
    simp [accept, ofItems, hadmissible, eq_comm]
  | memory trigger memos => exact accept_ofItems_memory h
  | rule e => exact accept_ofItems_rule h

theorem Admissible.of_append {items' : List Item} (h : Admissible (items ++ items')) :
    Admissible items where
  distinct := by
    have hdistinct := h.distinct
    rw [Item.entries_append, List.map_append] at hdistinct
    exact hdistinct.of_append_left
  single := by
    have hsingle := h.single
    rw [Item.memories_append, List.length_append] at hsingle
    omega
  arity m hm := by
    refine h.arity m ?_
    rw [Item.memories_append]
    exact List.mem_append_left _ hm

/-- A draft admits the lists of a script if and only if no keyword has two rules and there is
at most one memory rule, of four recollections. -/
theorem foldlM_accept_eq_ok_iff :
    items.foldlM accept {} = .ok draft ↔ Admissible items ∧ draft = ofItems items := by
  induction items using List.reverseRecOn generalizing draft with
  | nil =>
    have hnil : Admissible [] := ⟨List.nodup_nil, Nat.zero_le 1, nofun⟩
    rw [and_iff_right hnil]
    exact ⟨fun h => by cases h; rfl, fun h => by rw [h]; rfl⟩
  -- What has been accepted before the last list is the draft of the lists before it.
  | append_singleton items item ih =>
    rw [List.foldlM_append]
    constructor
    · intro h
      obtain ⟨draft', h₁, h₂⟩ := of_bind_eq_ok h
      obtain ⟨ha, rfl⟩ := ih.1 h₁
      rw [List.foldlM_cons] at h₂
      obtain ⟨draft'', h₂, h₃⟩ := of_bind_eq_ok h₂
      cases h₃
      exact (accept_ofItems_eq_ok_iff ha).1 h₂
    · intro h
      have ha := h.1.of_append
      rw [ih.2 ⟨ha, rfl⟩, ok_bind, List.foldlM_cons, (accept_ofItems_eq_ok_iff ha).2 h]
      rfl

end Draft

/-! ## Scripts -/

namespace Script

variable {script : Script}

theorem danglingReference?_eq_none_iff : script.danglingReference? = none ↔
    ∀ rule ∈ script.rules ++ [script.fallback], ∀ target ∈ rule.references,
      script.answers target = true := by
  simp only [danglingReference?, List.findSome?_eq_none_iff, Option.map_eq_none_iff,
    List.find?_eq_none, Bool.not_eq_true', Bool.not_eq_false]

/-- As no two rules have the same name, each is found by its word. -/
theorem rule?_eq_some_iff (h : (script.rules.map Rule.name).Nodup) {keyword : String}
    {rule : Rule} : script.rule? keyword = some rule ↔
      rule ∈ script.rules ∧ rule.name.word? = some keyword := by
  constructor
  · intro hrule
    exact ⟨List.mem_of_find?_eq_some hrule, by simpa using List.find?_some hrule⟩
  · rintro ⟨hrule, hword⟩
    have hsome : (script.rule? keyword).isSome = true :=
      List.find?_isSome.2 ⟨rule, hrule, by simp [hword]⟩
    obtain ⟨rule', hfind⟩ := Option.isSome_iff_exists.1 hsome
    have hword' : rule'.name.word? = some keyword := by simpa using List.find?_some hfind
    have hname : rule'.name = rule.name := RuleName.word?_inj (hword'.trans hword.symm) hword'
    rw [hfind, List.inj_on_of_nodup_map h (List.mem_of_find?_eq_some hfind) hrule hname]

/-- A keyword answers if any rule of it is applicable. -/
theorem answers_eq_true_iff (h : (script.rules.map Rule.name).Nodup) {keyword : String} :
    script.answers keyword = true ↔
      ∃ rule ∈ script.rules, rule.name.word? = some keyword ∧ rule.isApplicable = true := by
  simp only [answers, Option.any_eq_true, rule?_eq_some_iff h, and_assoc]

end Script

theorem Draft.finish_eq_ok_iff {draft : Draft} {greeting : List String} {script : Script} :
    draft.finish greeting = .ok script ↔
      draft.rules = script.rules ∧ draft.fallback = some script.fallback ∧
        draft.memory = some script.memory ∧ greeting = script.greeting ∧
          script.danglingReference? = none := by
  obtain ⟨rules, fallback, memory⟩ := draft
  obtain ⟨greeting', rules', fallback', memory'⟩ := script
  cases fallback with
  | none => simp [finish]
  | some fallback =>
    cases memory with
    | none => simp [finish]
    | some memory =>
      simp only [finish]
      split
      · rename_i hdangling
        simp only [Option.some.injEq]
        refine ⟨nofun, ?_⟩
        rintro ⟨rfl, rfl, rfl, rfl, hnone⟩
        rw [hdangling] at hnone
        cases hnone
      · rename_i hdangling
        simp only [Except.ok.injEq, Script.mk.injEq, Option.some.injEq]
        constructor
        · rintro ⟨rfl, rfl, rfl, rfl⟩
          exact ⟨rfl, rfl, rfl, rfl, hdangling⟩
        · rintro ⟨rfl, rfl, rfl, rfl, -⟩
          exact ⟨rfl, rfl, rfl, rfl⟩

namespace Draft.Admissible

variable {items : List Item} {script : Script}

theorem entry_inj (h : Admissible items) {e e' : Entry} (he : e ∈ Item.entries items)
    (he' : e' ∈ Item.entries items) (hname : e.value.name = e'.value.name) : e = e' :=
  List.inj_on_of_nodup_map h.distinct he he' (Entry.name_value_inj.1 hname)

/-- The keyword rules of a script are the rules that are not called `NONE`. -/
theorem mem_rules_iff (hrules : (ofItems items).rules = script.rules) {rule : Rule} :
    rule ∈ script.rules ↔ ∃ e ∈ Item.entries items, e.value = rule ∧ rule.name ≠ .fallback := by
  rw [← hrules]
  simp only [ofItems, List.mem_filter, List.mem_map, decide_eq_true_eq]
  grind

/-- The rules of a script are those that are written in it. -/
theorem mem_rules_fallback_iff (h : Admissible items)
    (hrules : (ofItems items).rules = script.rules)
    (hfallback : (ofItems items).fallback = some script.fallback) {rule : Rule} :
    rule ∈ script.rules ++ [script.fallback] ↔ ∃ e ∈ Item.entries items, e.value = rule := by
  obtain ⟨e₀, he₀, hvalue₀⟩ := List.mem_map.1 (List.mem_of_find?_eq_some hfallback)
  have hname₀ := List.find?_some hfallback
  rw [decide_eq_true_eq] at hname₀
  rw [List.mem_append, List.mem_singleton, mem_rules_iff hrules]
  constructor
  · rintro (⟨e, he, hvalue, -⟩ | rfl)
    · exact ⟨e, he, hvalue⟩
    · exact ⟨e₀, he₀, hvalue₀⟩
  · rintro ⟨e, he, rfl⟩
    by_cases hname : e.value.name = .fallback
    · have heq := h.entry_inj he he₀ (by rw [hname, hvalue₀, hname₀])
      exact .inr (by rw [heq, hvalue₀])
    · exact .inl ⟨e, he, rfl, hname⟩

theorem nodup_name (h : Admissible items) (hrules : (ofItems items).rules = script.rules) :
    (script.rules.map Rule.name).Nodup := by
  have hnames : (((Item.entries items).map Entry.value).map Rule.name).Nodup := by
    have hdistinct := h.distinct
    simp only [List.Nodup, List.pairwise_map, ne_eq, Entry.name_value_inj] at hdistinct ⊢
    exact hdistinct
  rw [← hrules]
  exact hnames.sublist (List.filter_sublist.map _)

/-- A keyword answers if a rule of the outline other than `NONE` is called so and has something
to do. -/
theorem answers_iff (h : Admissible items) (hrules : (ofItems items).rules = script.rules)
    {keyword : String} : script.answers keyword = true ↔ ∃ e ∈ Item.entries items,
      e.keyword = keyword ∧ e.keyword ≠ RuleName.fallbackSpelling ∧ e.IsActive := by
  rw [Script.answers_eq_true_iff (h.nodup_name hrules)]
  constructor
  · rintro ⟨rule, hrule, hword, happlicable⟩
    obtain ⟨e, he, rfl, -⟩ := (mem_rules_iff hrules).1 hrule
    obtain ⟨hkeyword, hne⟩ := Entry.word?_name_value.1 hword
    exact ⟨e, he, hkeyword, hne, Entry.isApplicable_value.1 happlicable⟩
  · rintro ⟨e, he, hkeyword, hne, hactive⟩
    have hname : e.value.name ≠ .fallback := fun hf => hne (Entry.name_value_eq_fallback.1 hf)
    exact ⟨e.value, (mem_rules_iff hrules).2 ⟨e, he, rfl, hname⟩,
      Entry.word?_name_value.2 ⟨hkeyword, hne⟩, Entry.isApplicable_value.2 hactive⟩

theorem danglingReference?_eq_none_iff (h : Admissible items)
    (hrules : (ofItems items).rules = script.rules)
    (hfallback : (ofItems items).fallback = some script.fallback) :
    script.danglingReference? = none ↔
      ∀ e ∈ Item.entries items, ∀ target ∈ e.targets, ∃ e' ∈ Item.entries items,
        e'.keyword = Text.upper target ∧ e'.keyword ≠ RuleName.fallbackSpelling ∧
          e'.IsActive := by
  rw [Script.danglingReference?_eq_none_iff]
  constructor
  · intro hall e he target htarget
    refine (h.answers_iff hrules).1 (hall e.value ?_ _ ?_)
    · exact (h.mem_rules_fallback_iff hrules hfallback).2 ⟨e, he, rfl⟩
    · rw [Entry.references_value]
      exact List.mem_map_of_mem htarget
  · intro hall rule hrule target htarget
    obtain ⟨e, he, rfl⟩ := (h.mem_rules_fallback_iff hrules hfallback).1 hrule
    rw [Entry.references_value, List.mem_map] at htarget
    obtain ⟨target, htarget, rfl⟩ := htarget
    exact (h.answers_iff hrules).2 (hall e he target htarget)

end Draft.Admissible

namespace Phrase.Outline

variable {o : Outline}

theorem script_eq_ok_iff {script : Script} : o.script = .ok script ↔
    Draft.Admissible o.items ∧
      (Draft.ofItems o.items).finish (o.greeting.map TemplateItem.text) = .ok script := by
  constructor
  · intro h
    obtain ⟨draft, hdraft, hfinish⟩ := of_bind_eq_ok h
    obtain ⟨ha, rfl⟩ := Draft.foldlM_accept_eq_ok_iff.1 hdraft
    exact ⟨ha, hfinish⟩
  · rintro ⟨ha, hfinish⟩
    rw [Outline.script, Draft.foldlM_accept_eq_ok_iff.2 ⟨ha, rfl⟩]
    exact hfinish

theorem Valid.admissible (h : o.Valid) : Draft.Admissible o.items := by
  obtain ⟨trigger, memos, hmemory, hlen⟩ := h.memory
  exact ⟨h.distinct, by rw [hmemory]; exact Nat.le_refl 1, by rw [hmemory]; simpa using hlen⟩

/-- An outline stands for a script if and only if it is valid. -/
theorem exists_script_eq_ok_iff : (∃ script, o.script = .ok script) ↔ o.Valid := by
  constructor
  · rintro ⟨script, h⟩
    obtain ⟨ha, hfinish⟩ := script_eq_ok_iff.1 h
    obtain ⟨hrules, hfallback, hmemory, -, hdangling⟩ := Draft.finish_eq_ok_iff.1 hfinish
    refine ⟨?_, ha.distinct, ?_, (ha.danglingReference?_eq_none_iff hrules hfallback).1 hdangling⟩
    · have hne := (Draft.isSome_memory_ofItems ha).1 (by rw [hmemory]; rfl)
      obtain ⟨m, hm⟩ := List.exists_mem_of_ne_nil _ hne
      have hone : (Item.memories o.items).length = 1 :=
        Nat.le_antisymm ha.single (List.length_pos_of_mem hm)
      obtain ⟨m', hm'⟩ := List.length_eq_one_iff.1 hone
      exact ⟨m'.1, m'.2, hm', ha.arity m' (by rw [hm']; exact List.mem_singleton_self m')⟩
    · have hname := List.find?_some hfallback
      rw [decide_eq_true_eq] at hname
      obtain ⟨e, he, hvalue⟩ := List.mem_map.1 (List.mem_of_find?_eq_some hfallback)
      exact ⟨e, he, Entry.name_value_eq_fallback.1 (by rw [hvalue, hname])⟩
  · intro h
    have ha := h.admissible
    obtain ⟨trigger, memos, hmemories, hlen⟩ := h.memory
    obtain ⟨e, he, hkeyword⟩ := h.fallback
    have hsome : (Draft.ofItems o.items).memory.isSome = true :=
      (Draft.isSome_memory_ofItems ha).2 (by rw [hmemories]; exact List.cons_ne_nil _ _)
    obtain ⟨memory, hmemory⟩ := Option.isSome_iff_exists.1 hsome
    have hsome : (Draft.ofItems o.items).fallback.isSome = true :=
      List.find?_isSome.2 ⟨e.value, List.mem_map_of_mem he,
        decide_eq_true (Entry.name_value_eq_fallback.2 hkeyword)⟩
    obtain ⟨fallback, hfallback⟩ := Option.isSome_iff_exists.1 hsome
    let script : Script := ⟨o.greeting.map TemplateItem.text, (Draft.ofItems o.items).rules,
      fallback, memory⟩
    refine ⟨script, script_eq_ok_iff.2 ⟨ha, Draft.finish_eq_ok_iff.2 ?_⟩⟩
    exact ⟨rfl, hfallback, hmemory, rfl,
      (ha.danglingReference?_eq_none_iff rfl hfallback).2 h.references⟩

end Phrase.Outline

/-- What is read as a script is the script of an outline. -/
theorem Script.exists_of_read {text : String} {script : Script}
    (h : Script.read text = .ok script) :
    ∃ o : Outline, o.tokens = tokens text ∧ o.script = .ok script := by
  obtain ⟨o, ho⟩ := Script.exists_of_ofTokens h
  rw [Script.read, ho, Script.ofTokens_tokens] at h
  exact ⟨o, ho.symm, h⟩

/-- The texts that are read as scripts are those whose tokens are a valid outline. -/
theorem Script.exists_read_eq_ok_iff (text : String) :
    (∃ script, Script.read text = .ok script) ↔
      ∃ o : Outline, o.tokens = tokens text ∧ o.Valid := by
  constructor
  · rintro ⟨script, h⟩
    obtain ⟨o, ho, hscript⟩ := Script.exists_of_read h
    exact ⟨o, ho, Outline.exists_script_eq_ok_iff.1 ⟨script, hscript⟩⟩
  · rintro ⟨o, ho, hvalid⟩
    rw [Script.read, ← ho, Script.ofTokens_tokens]
    exact Outline.exists_script_eq_ok_iff.2 hvalid

/-! ## What holds of every script -/

/-- What reading makes sure of: names are distinct, the fallback rule is not among the keyword
rules, and no reference leads nowhere. -/
structure Script.Sound (script : Script) : Prop where
  distinct : (script.rules.map Rule.name).Nodup
  rules_name : ∀ rule ∈ script.rules, rule.name ≠ .fallback
  fallback_name : script.fallback.name = .fallback
  references : script.danglingReference? = none

theorem Phrase.Outline.sound_of_script {o : Outline} {script : Script}
    (h : o.script = .ok script) : script.Sound := by
  obtain ⟨ha, hfinish⟩ := script_eq_ok_iff.1 h
  obtain ⟨hrules, hfallback, -, -, hdangling⟩ := Draft.finish_eq_ok_iff.1 hfinish
  refine ⟨ha.nodup_name hrules, fun rule hrule => ?_, ?_, hdangling⟩
  · obtain ⟨e, -, -, hname⟩ := (Draft.Admissible.mem_rules_iff hrules).1 hrule
    exact hname
  · have hname := List.find?_some hfallback
    rwa [decide_eq_true_eq] at hname

theorem Script.sound_of_read {text : String} {script : Script}
    (h : Script.read text = .ok script) : script.Sound := by
  obtain ⟨o, -, hscript⟩ := Script.exists_of_read h
  exact Outline.sound_of_script hscript

/-! ## Samples -/

/-- The memory rule of the sample scripts: one of four letters is kept, whatever was said. -/
def MemoryRule.letters (trigger : String) : MemoryRule :=
  ⟨trigger, #v[⟨[.count 0], [.word "A"]⟩, ⟨[.count 0], [.word "B"]⟩,
    ⟨[.count 0], [.word "C"]⟩, ⟨[.count 0], [.word "D"]⟩]⟩

/-- The fallback rule of sample scripts as it is written. -/
def Phrase.Item.so : Item :=
  .rule ⟨"NONE", by decide,
    [.transformation [.count 0] [.reply [.word "SO"] ⟨by decide, by decide⟩]]⟩

/-- The memory rule of the sample scripts as it is written. -/
def Phrase.Item.letters (trigger : String) : Item :=
  .memory trigger (["A", "B", "C", "D"].map fun letter =>
    ⟨[⟨.count 0, by decide⟩], [.word letter]⟩)

end Colloquy
