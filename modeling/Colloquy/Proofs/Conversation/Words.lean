import Colloquy.Proofs.Conversation.Applied
import Colloquy.Proofs.Conversation.References
import Colloquy.Proofs.Script.RoundTrip
import Colloquy.Proofs.Template

/-!
# The words that rules are applied to

A rule is applied to words without blanks, whatever is done to them before: an input is cut at
blanks, substitutes and templates are words of a script, which are read without blanks, and what
fills a slot is cut at blanks again. So patterns and templates do not lose any words.

* `Rule.InsertsRuns`: a rule that puts in words without blanks.
* `Rulebook.insertsRuns_ofScript`: so do all rules of a script that is read.
* `Dispatch.Runs.isRun_of_mem_uses`: the words that keywords are used on.
* `Interlocutor.words_preserved`: nothing is lost, for the scripts that are read.
-/

namespace Colloquy

open Text Phrase

/-! ## What rules put in -/

/-- Whether a rule puts in words without blanks: its substitute and, where it recasts words, those
of its templates. -/
structure Rule.InsertsRuns (rule : Rule) : Prop where
  substitute : ∀ word, rule.substitute = some word → IsRun word
  recast : ∀ t ∈ rule.transformations, ∀ template keyword, .recast template keyword ∈ t.responses →
    ∀ text, .word text ∈ template → IsRun text

/-- The template that a response is filled from. -/
def Response.template? : Response → Option Template
  | reply template => some template
  | refer _ => none
  | recast template _ => some template
  | pass => none

namespace Phrase

/-- The templates of responses are read without blanks. -/
theorem Reaction.isRun_of_template? {x : Reaction} (h : AllWellFormed x.tokens)
    {template : Template} (hx : x.value.template? = some template) :
    ∀ text, .word text ∈ template → IsRun text := by
  have hrun (htokens : AllWellFormed (template.map TemplateItem.token)) :
      ∀ text, .word text ∈ template → IsRun text :=
    fun text htext => isRun_of_mem_template htokens text (List.mem_map_of_mem htext)
  cases x with
  | reply template' plain =>
    simp only [Reaction.value, Response.ofTemplate] at hx
    split at hx
    · cases hx
    · cases hx
      exact hrun h.listed
  | refer target => cases hx
  | recast template' target =>
    cases hx
    exact hrun (allWellFormed_cons.1 h.listed).2.of_append_left.listed

theorem Entry.isRun_of_template? {e : Entry} (h : AllWellFormed e.tokens) {t : Transformation}
    (ht : t ∈ e.value.transformations) {response : Response} (hresponse : response ∈ t.responses)
    {template : Template} (htemplate : response.template? = some template) :
    ∀ text, .word text ∈ template → IsRun text := by
  rw [value_eq] at ht
  obtain ⟨parts, hparts, rfl⟩ := List.mem_map.1 ht
  obtain ⟨x, hx, rfl⟩ := List.mem_map.1 hresponse
  exact Reaction.isRun_of_template?
    ((wellFormed_transformation h hparts).listed.of_append_right.of_flatMap hx) htemplate

theorem Entry.insertsRuns_value {e : Entry} (h : AllWellFormed e.tokens) : e.value.InsertsRuns where
  substitute _ hword := isRun_of_wellFormed (wellFormed_substitute h hword).1
  recast _ ht _ _ hresponse := isRun_of_template? h ht hresponse rfl

end Phrase

/-- The rules of a script that is read put in words without blanks, and the words of their templates
have none. -/
theorem Script.insertsRuns_and_isRun {text : String} {script : Script}
    (h : Script.read text = .ok script) {rule : Rule}
    (hrule : rule ∈ script.rules ++ [script.fallback]) : rule.InsertsRuns ∧
      ∀ t ∈ rule.transformations, ∀ response ∈ t.responses, ∀ template,
        response.template? = some template → ∀ text, .word text ∈ template → IsRun text := by
  obtain ⟨src⟩ := nonempty_source h
  obtain ⟨e, hwell, rfl⟩ := src.exists_entry hrule
  exact ⟨Entry.insertsRuns_value hwell, fun _ ht _ hresponse _ htemplate =>
    Entry.isRun_of_template? hwell ht hresponse htemplate⟩

namespace Rulebook

/-- Whether all rules put in words without blanks. -/
def InsertsRuns (book : Rulebook) : Prop :=
  ∀ name rule, book.named? name = some rule → rule.InsertsRuns

theorem insertsRuns_ofScript {text : String} {script : Script}
    (h : Script.read text = .ok script) : (ofScript script).InsertsRuns := by
  intro name rule hrule
  obtain ⟨hmem, -⟩ := mem_and_name_of_named? (Script.sound_of_read h) hrule
  exact (Script.insertsRuns_and_isRun h hmem).1

variable {book : Rulebook}

/-- A substitute has no blanks. -/
theorem InsertsRuns.isRun_substitute (hbook : book.InsertsRuns) {word : String}
    (hword : IsRun word) : IsRun (book.substitute word) := by
  rw [substitute]
  cases hrule : book.rule? word with
  | none => exact hword
  | some rule =>
    cases hsubstitute : rule.substitute with
    | none => simpa [hsubstitute] using hword
    | some word' =>
      simpa [hsubstitute] using (hbook (.keyword word) rule hrule).substitute word' hsubstitute

/-- The words of a redirect have no blanks. -/
theorem InsertsRuns.isRun_of_redirect (hbook : book.InsertsRuns) {c : Call} {cursors : Cursors}
    {target : String} {newWords : List String}
    (h : (book.call c cursors).1 = .redirect target (some newWords)) :
    ∀ word ∈ newWords, IsRun word := by
  obtain ⟨rule, hrule, hcall⟩ := exists_rule_of_call (by rw [h]; exact nofun)
  rw [hcall] at h
  obtain ⟨-, hnone⟩ | ⟨t, ht, ⟨-, hnone⟩ | ⟨template, captures, hrecast, hwords⟩⟩ :=
    Rule.redirect_of_apply h
  · cases hnone
  · cases hnone
  · cases hwords
    exact Template.isRun_of_mem_fill ((hbook c.name rule hrule).recast t ht _ _ hrecast) captures

end Rulebook

/-! ## The work on keywords -/

namespace Dispatch.Runs

variable {book : Rulebook} {memory : MemoryRule} {d : Dispatch}
  {uses : List (String × List String)} {redirected : List String} {reply : Option String}
  {state : State}

/-- If the work begins with words without blanks, keywords are only used on such. -/
theorem isRun_of_mem_uses (h : Runs book memory d uses redirected reply state)
    (hbook : book.InsertsRuns) (hwords : ∀ word ∈ d.words, IsRun word) :
    ∀ use ∈ uses, ∀ word ∈ use.2, IsRun word := by
  induction h with
  | idle hstack => exact nofun
  | reply hstack houtcome => exact List.forall_mem_singleton.2 hwords
  | unmatched hstack houtcome => exact List.forall_mem_singleton.2 hwords
  | exhausted hstack houtcome hredirects => exact List.forall_mem_singleton.2 hwords
  | @redirect d keyword target stack newWords redirects uses redirected reply state hstack houtcome
      hredirects rest ih =>
    refine List.forall_mem_cons.2 ⟨hwords, ih ?_⟩
    cases newWords with
    | none => exact hwords
    | some newWords =>
      exact hbook.isRun_of_redirect (c := ⟨.keyword keyword, d.words⟩) houtcome
  | pass hstack houtcome rest ih => exact List.forall_mem_cons.2 ⟨hwords, ih hwords⟩

end Dispatch.Runs

/-! ## Inputs -/

theorem Text.IsWord.isRun {word : String} (h : IsWord word) : IsRun word := by
  rcases h with h | ⟨hne, h⟩
  · have hword : word = "," ∨ word = "." := by simpa [isMarkWord] using h
    rcases hword with rfl | rfl
    · exact ⟨by decide, by simp [isBlank]⟩
    · exact ⟨by decide, by simp [isBlank]⟩
  · exact ⟨hne, fun c hc => (Bool.or_eq_false_iff.1 (h c hc)).1⟩

namespace Interlocutor

variable (i : Interlocutor)

/-- The work on an input begins with words without blanks. -/
theorem isRun_of_mem_words (hbook : i.book.InsertsRuns) (state : State) (input : String) :
    ∀ word ∈ (i.dispatch state input).words, IsRun word := by
  refine List.forall_mem_map.2 fun word hword => hbook.isRun_substitute ?_
  exact (isWord_of_mem_words ((Rulebook.firstClause_infix _ _).subset hword)).isRun

theorem isRun_of_mem_uses (hbook : i.book.InsertsRuns) (state : State) (input : String) :
    ∀ use ∈ (i.dispatch state input).uses i.book i.memory, ∀ word ∈ use.2, IsRun word := by
  obtain ⟨redirected, hruns⟩ := (i.dispatch state input).runs_run i.book i.memory
  exact hruns.isRun_of_mem_uses hbook (i.isRun_of_mem_words hbook state input)

theorem isRun_of_mem_calls (hbook : i.book.InsertsRuns) (state : State) (input : String) :
    ∀ c ∈ i.calls state input, ∀ word ∈ c.words, IsRun word := by
  intro c hc
  rcases i.mem_calls hc with ⟨use, huse, rfl⟩ | rfl
  · exact i.isRun_of_mem_uses hbook state input use huse
  · exact i.isRun_of_mem_words hbook state input

/-- No words are lost, doubled or put before others. What a pattern captures of words without
blanks are the runs of a split of them, one for each element; a template is filled with just these
runs, and the slots of all elements in order give back the words. In a conversation that follows a
script, in whichever state, every rule is called on words without blanks, and so is the memory
rule, which is applied wherever a keyword is used. -/
theorem words_preserved {text : String} {script : Script} (h : Script.read text = .ok script)
    (settings : Settings) :
    let i := ofScript script settings
    (∀ carries (pattern : Pattern) words captures, (∀ word ∈ words, IsRun word) →
      pattern.captures? carries words = some captures →
        ∃ runs, Splits (PatternItem.Fits carries) pattern words runs ∧
          captures = runs.map (" ".intercalate ·) ∧ runs.length = pattern.length ∧
          (∀ template : Template,
            template.fill captures = template.flatMap (TemplateItem.expand runs)) ∧
          (Template.slots pattern.length).fill captures = words) ∧
    (∀ state input, ∀ c ∈ i.calls state input, ∀ word ∈ c.words, IsRun word) ∧
    (∀ state input, ∀ use ∈ (i.dispatch state input).uses i.book i.memory,
      ∀ word ∈ use.2, IsRun word) := by
  intro i
  have hbook : i.book.InsertsRuns := Rulebook.insertsRuns_ofScript h
  exact ⟨fun carries pattern words captures hwords hcaptures =>
      Pattern.exists_splits_of_captures? hwords hcaptures,
    i.isRun_of_mem_calls hbook, i.isRun_of_mem_uses hbook⟩

/-- A script whose first rule recasts what is left of an input. -/
def recastText : String :=
  "(HI) (MY = YOUR ((0 YOUR 0) (PRE (3 IS 9) (=WHY)))) (WHY ((0) (WHY 1))) (NONE ((0) (SO))) " ++
    "(MEMORY M (0 = A) (0 = B) (0 = C) (0 = D))"

def recastScript : Script where
  greeting := ["HI"]
  rules :=
    [{ spelling := "MY", substitute := some "YOUR",
       transformations := [⟨[.count 0, .word "YOUR", .count 0],
         [.recast [.slot 3, .word "IS", .slot 9] "WHY"]⟩] },
     { spelling := "WHY",
       transformations := [⟨[.count 0], [.reply [.word "WHY", .slot 1]]⟩] }]
  fallback := { spelling := "NONE", transformations := [⟨[.count 0], [.reply [.word "SO"]]⟩] }
  memory := .letters "M"

/-- The words that the second rule is called on come from the input, the template and a slot
without a run, and its pattern captures all of them. -/
theorem words_preserved_recastScript : Script.read recastText = .ok recastScript ∧
    let i := ofScript recastScript {}
    let words := ["BIG", "CAT", "IS", "HMM"]
    ⟨.keyword "WHY", words⟩ ∈ i.calls {} "Oh, my big cat" ∧
    ∃ captures, Pattern.captures? i.book.carries [.count 0] words = some captures ∧
      (Template.slots 1).fill captures = words := by
  have h : Script.read recastText = .ok recastScript := by decide +kernel
  refine ⟨h, ?_⟩
  intro i words
  obtain ⟨hfill, hcalls, -⟩ := words_preserved h {}
  have hcall : ⟨.keyword "WHY", words⟩ ∈ i.calls {} "Oh, my big cat" := by decide +kernel
  have hcaptures : Pattern.captures? i.book.carries [.count 0] words =
      some ["BIG CAT IS HMM"] := by decide +kernel
  obtain ⟨runs, -, -, -, -, hslots⟩ := hfill _ _ _ _ (hcalls _ _ _ hcall) hcaptures
  exact ⟨hcall, _, hcaptures, hslots⟩

end Interlocutor

end Colloquy
