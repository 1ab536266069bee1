import Colloquy.Conversation
import Colloquy.Proofs.Rulebook
import Colloquy.Proofs.Script.Lexing

/-!
# The order of declaration

The lists of a script may be written in any order. No keyword has two rules, so a rule is found
by its keyword wherever it stands, and of the rules that carry a tag only the set counts.

* `Phrase.Outline.Valid.perm`: validity does not depend on the order of the lists.
* `Script.Reorders`: two scripts that differ in the order of their rules only.
* `Script.Reorders.ofScript_eq`: a conversation looks up the same in both.
* `Interlocutor.converse_of_perm`: conversations that follow a script with its lists in another
  order go the same way.
-/

namespace Colloquy

open Phrase

/-! ## Outlines -/

namespace Phrase

variable {items items' : List Item}

theorem Item.entries_perm (h : items'.Perm items) :
    (Item.entries items').Perm (Item.entries items) := h.filterMap _

theorem Item.memories_perm (h : items'.Perm items) :
    (Item.memories items').Perm (Item.memories items) := h.filterMap _

/-- An outline with its lists in another order. -/
def Outline.withItems (o : Outline) (items : List Item) : Outline := { o with items }

/-- What is asked of an outline is asked of its lists in any order. -/
theorem Outline.Valid.perm {o : Outline} (h : o.Valid) (hitems : items.Perm o.items) :
    (o.withItems items).Valid := by
  have hentries := Item.entries_perm hitems
  obtain ⟨trigger, memos, hmemories, hlen⟩ := h.memory
  obtain ⟨e, he, hkeyword⟩ := h.fallback
  refine ⟨⟨trigger, memos, ?_, hlen⟩, ?_, ⟨e, hentries.mem_iff.2 he, hkeyword⟩, ?_⟩
  · exact List.perm_singleton.1 (hmemories ▸ Item.memories_perm hitems)
  · exact (hentries.map _).nodup_iff.2 h.distinct
  · intro e he target htarget
    obtain ⟨e', he', hanswers⟩ := h.references e (hentries.mem_iff.1 he) target htarget
    exact ⟨e', hentries.mem_iff.2 he', hanswers⟩

/-- The lists of a text can be written in any order. -/
theorem Outline.exists_text_of_perm {o : Outline} {text : String}
    (h : o.tokens = Colloquy.tokens text) (hitems : items.Perm o.items) :
    ∃ text', (o.withItems items).tokens = Colloquy.tokens text' := by
  have htokens : ∀ t ∈ (o.withItems items).tokens, t ∈ o.tokens := by
    intro t ht
    simp only [Outline.tokens, withItems, List.mem_append, List.mem_flatMap, hitems.mem_iff] at ht ⊢
    exact ht
  have hlexes : ∀ t ∈ (o.withItems items).tokens, Lexes t.text [t] := by
    intro t ht
    exact Lexes.of_token (Token.wellFormed_of_mem_all (h ▸ htokens t ht))
  have heq := (Lexes.spacedOut hlexes).tokens_eq
  rw [List.flatMap_singleton'] at heq
  exact ⟨_, heq.symm⟩

end Phrase

/-- The fallback rule of a draft is the rule that is called `NONE`, wherever it stands. -/
theorem Draft.Admissible.fallback_eq_some_iff {items : List Item} (h : Draft.Admissible items)
    {rule : Rule} : (Draft.ofItems items).fallback = some rule ↔
      ∃ e ∈ Item.entries items, e.value = rule ∧ rule.name = .fallback := by
  constructor
  · intro hrule
    obtain ⟨e, he, rfl⟩ := List.mem_map.1 (List.mem_of_find?_eq_some hrule)
    exact ⟨e, he, rfl, by simpa using List.find?_some hrule⟩
  · rintro ⟨e, he, rfl, hname⟩
    have hsome : (Draft.ofItems items).fallback.isSome = true :=
      List.find?_isSome.2 ⟨e.value, List.mem_map_of_mem he, by simpa using hname⟩
    obtain ⟨rule', hfind⟩ := Option.isSome_iff_exists.1 hsome
    obtain ⟨e', he', rfl⟩ := List.mem_map.1 (List.mem_of_find?_eq_some hfind)
    have hname' : e'.value.name = .fallback := by simpa using List.find?_some hfind
    rw [hfind, h.entry_inj he' he (hname'.trans hname.symm)]

/-! ## Scripts -/

namespace Script

/-- Whether two scripts differ in the order of their keyword rules only. -/
structure Reorders (script' script : Script) : Prop where
  greeting : script'.greeting = script.greeting
  rules : script'.rules.Perm script.rules
  fallback : script'.fallback = script.fallback
  memory : script'.memory = script.memory

end Script

/-- The lists of a script in another order make up a script with its rules in another order. -/
theorem Phrase.Outline.reorders_of_perm {o : Outline} {items : List Item}
    {script script' : Script} (h : o.script = .ok script)
    (h' : (o.withItems items).script = .ok script') (hitems : items.Perm o.items) :
    script'.Reorders script := by
  obtain ⟨ha, hfinish⟩ := Outline.script_eq_ok_iff.1 h
  obtain ⟨ha', hfinish'⟩ := Outline.script_eq_ok_iff.1 h'
  obtain ⟨hrules, hfallback, hmemory, hwords, -⟩ := Draft.finish_eq_ok_iff.1 hfinish
  obtain ⟨hrules', hfallback', hmemory', hwords', -⟩ := Draft.finish_eq_ok_iff.1 hfinish'
  have hentries := Item.entries_perm hitems
  refine ⟨?_, ?_, ?_, ?_⟩
  · exact hwords'.symm.trans hwords
  · rw [← hrules', ← hrules]
    exact (hentries.map _).filter _
  · obtain ⟨e, he, hrule⟩ := ha'.fallback_eq_some_iff.1 hfallback'
    have hsame := ha.fallback_eq_some_iff.2 ⟨e, hentries.mem_iff.1 he, hrule⟩
    rw [hfallback] at hsame
    exact (Option.some.inj hsame).symm
  -- There is at most one memory rule, so that the lists of them are the same.
  · have hsingle := ha.single
    have hmemories : Item.memories items = Item.memories o.items := by
      match hm : Item.memories o.items, hsingle with
      | [], _ => exact List.perm_nil.1 (hm ▸ Item.memories_perm hitems)
      | [m], _ => exact List.perm_singleton.1 (hm ▸ Item.memories_perm hitems)
    have heq : some script'.memory = some script.memory := by
      rw [← hmemory', ← hmemory]
      simp only [Draft.ofItems, Outline.withItems, hmemories]
    simpa using heq

namespace Script.Reorders

variable {script script' : Script}

theorem rule?_eq (h : script'.Reorders script) (hs : script.Sound) (word : String) :
    script'.rule? word = script.rule? word := by
  have hdistinct : (script'.rules.map Rule.name).Nodup :=
    (h.rules.map _).nodup_iff.2 hs.distinct
  ext rule
  rw [rule?_eq_some_iff hdistinct, rule?_eq_some_iff hs.distinct, h.rules.mem_iff]

/-- A conversation looks up the same in the rules, whatever their order. -/
theorem ofScript_eq (h : script'.Reorders script) (hs : script.Sound) (hs' : script'.Sound) :
    Rulebook.ofScript script' = Rulebook.ofScript script := by
  have hrule : (Rulebook.ofScript script').rule? = (Rulebook.ofScript script).rule? := by
    funext word
    rw [Rulebook.rule?_ofScript hs', Rulebook.rule?_ofScript hs, h.rule?_eq hs]
  have hcarries : (Rulebook.ofScript script').carries = (Rulebook.ofScript script).carries := by
    funext tag word
    rw [Bool.eq_iff_iff, Rulebook.carries_ofScript, Rulebook.carries_ofScript]
    simp only [h.rules.mem_iff]
  have hfallback : (Rulebook.ofScript script').fallback = (Rulebook.ofScript script).fallback :=
    h.fallback
  exact (Rulebook.mk.injEq ..).mpr ⟨hrule, hfallback, hcarries⟩

end Script.Reorders

/-! ## Conversations -/

namespace Interlocutor

/-- Of two scripts that differ in the order of their rules one follows as of one. -/
theorem ofScript_of_reorders {script script' : Script} (h : script'.Reorders script)
    (hs : script.Sound) (hs' : script'.Sound) (settings : Settings) :
    ofScript script' settings = ofScript script settings := by
  simp only [ofScript, h.ofScript_eq hs hs', h.memory, h.greeting]

/-- The lists of a script may be written in any order. A text that is read as a script has an
outline. Its lists in another order can be written, any text of them is read as a script too, and
conversations that follow either script go the same way: with the same replies and the same
states after every input. -/
theorem converse_of_perm {text : String} {script : Script} (h : Script.read text = .ok script) :
    (∃ o : Outline, o.tokens = tokens text) ∧
    ∀ (o : Outline) (items : List Item), o.tokens = tokens text → items.Perm o.items →
      (∃ text', (o.withItems items).tokens = tokens text') ∧
      ∀ text', (o.withItems items).tokens = tokens text' →
        ∃ script', Script.read text' = .ok script' ∧ ∀ settings inputs,
          (ofScript script' settings).converse {} inputs =
            (ofScript script settings).converse {} inputs := by
  obtain ⟨o, ho, -⟩ := Script.exists_of_read h
  refine ⟨⟨o, ho⟩, fun o items ho hitems => ⟨Outline.exists_text_of_perm ho hitems, ?_⟩⟩
  intro text' ho'
  have hscript : o.script = .ok script := by
    rwa [Script.read, ← ho, Script.ofTokens_tokens] at h
  have hvalid := (Outline.exists_script_eq_ok_iff.1 ⟨script, hscript⟩).perm hitems
  obtain ⟨script', hscript'⟩ := Outline.exists_script_eq_ok_iff.2 hvalid
  refine ⟨script', by rw [Script.read, ← ho', Script.ofTokens_tokens, hscript'], ?_⟩
  intro settings inputs
  have hreorders := Outline.reorders_of_perm hscript hscript' hitems
  rw [ofScript_of_reorders hreorders (Outline.sound_of_script hscript)
    (Outline.sound_of_script hscript')]

/-- A script in which two keywords carry the same tag. -/
def sharedTagText : String :=
  "(HI) START (A DLIST(/T) ((0) (=B))) (B DLIST(/T) ((0 (/T) 0) (SEEN 2))) () " ++
    "(NONE ((0) (SO))) (MEMORY A (0 = A) (0 = B) (0 = C) (0 = D))"

def sharedTagScript : Script where
  greeting := ["HI"]
  rules :=
    [{ spelling := "A", tags := ["T"], transformations := [⟨[.count 0], [.refer "B"]⟩] },
     { spelling := "B"
       tags := ["T"]
       transformations := [⟨[.count 0, .group "(/T)", .count 0],
         [.reply [.word "SEEN", .slot 2]]⟩] }]
  fallback := { spelling := "NONE", transformations := [⟨[.count 0], [.reply [.word "SO"]]⟩] }
  memory := .letters "A"

def sharedTagOutline : Outline where
  greeting := [.word "HI"]
  started := true
  items :=
    [.rule ⟨"A", by decide, [.tags ["/T"], .transformation [.count 0] [.refer "B"]]⟩,
     .rule ⟨"B", by decide, [.tags ["/T"],
       .transformation [.count 0, .group [.word "/T"], .count 0]
         [.reply [.word "SEEN", .slot 2] ⟨by decide, by decide⟩]]⟩,
     .blank,
     .so, .letters "A"]

/-- The lists of `sharedTagText` from the last to the first. -/
def reversedTagText : String :=
  "(HI) START (MEMORY A (0 = A) (0 = B) (0 = C) (0 = D)) (NONE ((0) (SO))) () " ++
    "(B DLIST(/T) ((0 (/T) 0) (SEEN 2))) (A DLIST(/T) ((0) (=B)))"

/-- Conversations do not tell the two apart, although a tag is declared in another order. -/
theorem converse_of_reversedTagText : Script.read sharedTagText = .ok sharedTagScript ∧
    ∃ script', Script.read reversedTagText = .ok script' ∧ ∀ settings inputs,
      (ofScript script' settings).converse {} inputs =
        (ofScript sharedTagScript settings).converse {} inputs := by
  have h : Script.read sharedTagText = .ok sharedTagScript := by decide +kernel
  refine ⟨h, ?_⟩
  exact ((converse_of_perm h).2 sharedTagOutline sharedTagOutline.items.reverse
    (by decide +kernel) (List.reverse_perm _)).2 reversedTagText (by decide +kernel)

end Interlocutor

end Colloquy
