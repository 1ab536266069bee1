import Colloquy.Proofs.Script.Reading.Rule

/-!
# Readers and the grammar: scripts

The reader of scripts takes exactly the outlines of the grammar.

* `Draft.read_append`: lists in front of a script are admitted to its draft one after the other.
* `Script.ofTokens_tokens`: an outline is read as the script that it stands for.
* `Script.exists_of_ofTokens`: what is read as a script is an outline.
-/

namespace Colloquy

open Reading Phrase

/-- A draft with one more list of the script. -/
def Draft.accept (draft : Draft) : Item → Except ScriptError Draft
  | .blank => .ok draft
  | .memory trigger memos =>
    if draft.memory.isSome then .error .secondMemory
    else (memoryRule trigger memos).map fun memory => { draft with memory := some memory }
  | .rule entry => draft.add entry.value

section Rules

variable {spelling : String} {ts : List Token}

theorem Draft.read_rule_error (draft : Draft) (hne : spelling ≠ "MEMORY") {e : ScriptError}
    (h : readRule spelling ts = .error e) :
    draft.read (.lparen :: .symbol spelling :: ts) = .error e := by
  rw [Draft.read]
  · split <;> simp_all
  · exact hne

theorem Draft.read_rule_ok (draft : Draft) (hne : spelling ≠ "MEMORY") {rule : Rule}
    {rest : List Token} (h : readRule spelling ts = .ok (rule, rest)) :
    draft.read (.lparen :: .symbol spelling :: ts) = (draft.add rule >>= (·.read rest)) := by
  rw [Draft.read]
  · split
    · simp_all
    · rename_i hr
      rw [h] at hr
      cases hr
      cases draft.add rule <;> rfl
  · exact hne

end Rules

theorem Draft.read_item (draft : Draft) (item : Item) (rest : List Token) :
    draft.read (item.tokens ++ rest) = (draft.accept item >>= (·.read rest)) := by
  cases item with
  | blank =>
    show draft.read (.lparen :: .rparen :: rest) = _
    rw [Draft.read]
    rfl
  | memory trigger memos =>
    rw [Item.tokens, listed, List.cons_append, List.append_assoc, List.singleton_append,
      List.cons_append, List.cons_append, Draft.read, Draft.accept]
    split
    · rfl
    · have h := readMemory_tokens trigger memos rest
      cases hm : memoryRule trigger memos with
      | error e =>
        rw [hm] at h
        split
        · rename_i e' he
          rw [h] at he
          cases he
          rfl
        · rename_i hok
          rw [h] at hok
          cases hok
      | ok memory =>
        rw [hm] at h
        split
        · rename_i e' he
          rw [h] at he
          cases he
        · rename_i hok
          rw [h] at hok
          cases hok
          rfl
  | rule entry =>
    rw [Item.tokens, Entry.tokens, listed, List.cons_append, List.append_assoc,
      List.singleton_append, List.cons_append]
    exact draft.read_rule_ok entry.spelling_ne (readRule_tokens entry rest)

/-- Lists in front of a script are admitted one after the other. -/
theorem Draft.read_append (draft : Draft) (items : List Item) (rest : List Token) :
    draft.read (items.flatMap Item.tokens ++ rest) =
      (items.foldlM Draft.accept draft >>= (·.read rest)) := by
  induction items generalizing draft with
  | nil => rfl
  | cons item items ih =>
    rw [List.flatMap_cons, List.append_assoc, Draft.read_item, List.foldlM_cons]
    cases draft.accept item with
    | error e => rfl
    | ok draft => exact ih draft

theorem Draft.read_tokens (draft : Draft) (items : List Item) :
    draft.read (items.flatMap Item.tokens) = items.foldlM Draft.accept draft := by
  have h := draft.read_append items []
  rw [List.append_nil] at h
  rw [h]
  cases items.foldlM Draft.accept draft with
  | error e => rfl
  | ok draft => exact Draft.read.eq_1 draft

/-- What is read to the end is lists of the grammar. -/
theorem Draft.exists_of_read {draft draft' : Draft} {ts : List Token}
    (h : draft.read ts = .ok draft') : ∃ items : List Item, ts = items.flatMap Item.tokens := by
  fun_induction Draft.read draft ts with
  | case1 => exact ⟨[], rfl⟩
  | case2 draft ts ih =>
    obtain ⟨items, rfl⟩ := ih h
    exact ⟨.blank :: items, rfl⟩
  | case3 => cases h
  | case4 => cases h
  | case5 draft ts _ memory rest hmemory ih =>
    obtain ⟨items, rfl⟩ := ih h
    obtain ⟨trigger, memos, rfl⟩ := exists_of_readMemory hmemory
    exact ⟨.memory trigger memos :: items, by simp [Item.tokens, listed]⟩
  | case6 => cases h
  | case7 => cases h
  | case8 draft spelling ts hne rule rest hrule draft' hadd ih =>
    obtain ⟨items, rfl⟩ := ih h
    obtain ⟨clauses, rfl⟩ := exists_of_readRule hrule
    exact ⟨.rule ⟨spelling, hne, clauses⟩ :: items, by simp [Item.tokens, Entry.tokens, listed]⟩
  | case9 => cases h
  | case10 => cases h
  | case11 => cases h

/-- The script that an outline stands for, unless its lists do not make up a script. -/
def Phrase.Outline.script (o : Outline) : Except ScriptError Script := do
  let draft ← o.items.foldlM Draft.accept {}
  draft.finish (o.greeting.map TemplateItem.text)

theorem skipStart_tokens (o : Outline) :
    skipStart ((if o.started then [.symbol "START"] else []) ++ o.items.flatMap Item.tokens) =
      o.items.flatMap Item.tokens := by
  cases o.started with
  | true => rfl
  | false =>
    cases o.items with
    | nil => rfl
    | cons item items => cases item <;> rfl

/-- An outline is read as the script that it stands for, and refused for its own fault. -/
theorem Script.ofTokens_tokens (o : Outline) : Script.ofTokens o.tokens = o.script := by
  have h := readWords_tokens .greetingWord o.greeting
    ((if o.started then [.symbol "START"] else []) ++ o.items.flatMap Item.tokens)
  rw [Script.ofTokens, Outline.tokens, listed, List.cons_append, List.append_assoc,
    List.singleton_append, readGreeting, h, ok_bind]
  simp only [skipStart_tokens, Draft.read_tokens]
  rfl

/-- What is read as a script is an outline. -/
theorem Script.exists_of_ofTokens {ts : List Token} {s : Script}
    (h : Script.ofTokens ts = .ok s) : ∃ o : Outline, ts = o.tokens := by
  obtain ⟨⟨_, ts₁⟩, h₁, h⟩ := of_bind_eq_ok h
  obtain ⟨draft, h₂, -⟩ := of_bind_eq_ok h
  obtain ⟨items, hitems⟩ := Draft.exists_of_read h₂
  unfold readGreeting at h₁
  split at h₁
  · obtain ⟨greeting, rfl⟩ := exists_of_readWords h₁
    have hstart (ts : List Token) : ∃ started : Bool,
        ts = (if started then [.symbol "START"] else []) ++ skipStart ts := by
      unfold skipStart
      split
      · exact ⟨true, rfl⟩
      · exact ⟨false, rfl⟩
    obtain ⟨started, hts₁⟩ := hstart ts₁
    refine ⟨⟨greeting, started, items⟩, ?_⟩
    rw [hts₁, hitems, Outline.tokens]
    simp [listed]
  · cases h₁

end Colloquy