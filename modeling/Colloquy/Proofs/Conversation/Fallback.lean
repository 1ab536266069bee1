import Colloquy.Proofs.Conversation.History
import Colloquy.Proofs.Conversation.Selection
import Colloquy.Proofs.Conversation.Words

/-!
# The fallback rule over a conversation

The fallback rule is called once on each turn that neither the greeting, a memory nor a keyword
answers, and on no other turn. So if it begins with a pattern that matches whatever is said, the
templates behind this pattern are used in turn, one on each such turn, and no turn is left to a
stock phrase.

* `Turn.fellThrough`: the turns that are left to the fallback rule.
* `Interlocutor.countP_callsOver`: how often the fallback rule is called in a conversation.
* `Rule.decisive?_of_gap`: a first pattern that matches whatever is said.
* `Interlocutor.fallback_of_conversation`: the answers of such a fallback rule, for the scripts
  that are read.
-/

namespace Colloquy

open Text

/-! ## A pattern that matches whatever is said -/

/-- A gap alone captures all words. -/
theorem Pattern.captures?_gap (carries : String → String → Bool) (words : List String) :
    captures? carries [.count 0] words = some [" ".intercalate words] := by
  have hsplits {runs : List (List String)}
      (h : Splits (PatternItem.Fits carries) [.count 0] words runs) : runs = [words] := by
    obtain ⟨run, rfl⟩ := List.length_eq_one_iff.1 h.length_eq
    rw [← h.flatten_eq, List.flatten_singleton]
  refine captures?_eq_some_iff.2
    ⟨[words], ⟨⟨.cons (.inl rfl) .nil, List.flatten_singleton⟩, ?_⟩, rfl⟩
  exact fun runs hruns hne => absurd (hsplits hruns) hne

theorem Rule.decisive?_of_gap {rule : Rule} {responses : List Response}
    {others : List Transformation} (h : rule.transformations = ⟨[.count 0], responses⟩ :: others)
    (hne : responses ≠ []) (carries : String → String → Bool) (words : List String) :
    rule.decisive? carries words = some 0 := by
  have hdecides : Transformation.decides carries ⟨[.count 0], responses⟩ words = true :=
    Transformation.decides_iff.2 ⟨hne, _, Pattern.captures?_gap carries words⟩
  rw [decisive?, h, List.findIdx?_cons, hdecides]
  rfl

/-! ## Turns that fall through -/

/-- Whether a turn is left to the fallback rule: neither the greeting, a memory nor a keyword
answers it. -/
def Turn.fellThrough (turn : Turn) : Bool :=
  turn.source ≠ .greeting && turn.source ≠ .memory && turn.source ≠ .keyword

namespace Interlocutor

variable (i : Interlocutor)

/-- The work on keywords does not call the fallback rule. -/
theorem countP_callOf (uses : List (String × List String)) :
    (uses.map Dispatch.callOf).countP (·.name = .fallback) = 0 := by
  rw [List.countP_eq_zero, List.forall_mem_map]
  exact fun use _ => by simp [Dispatch.callOf]

/-- The calls of the fallback rule among those for an input. -/
theorem countP_calls (state : State) (input : String) :
    (i.calls state input).countP (·.name = .fallback) =
      if (i.respond state input).fellThrough then 1 else 0 := by
  have hworked := countP_callOf ((i.dispatch state input).uses i.book i.memory)
  unfold calls Turn.fellThrough
  dsimp only
  split <;> simp [*, List.countP_append]

/-- The calls for some inputs, in order. -/
def callsOver (state : State) : List String → List Call
  | [] => []
  | input :: inputs =>
    i.calls state input ++ callsOver (i.respond state input).state inputs

@[simp] theorem callsOver_nil (state : State) : i.callsOver state [] = [] := by
  rw [callsOver]

@[simp] theorem callsOver_cons (state : State) (input : String) (inputs : List String) :
    i.callsOver state (input :: inputs) =
      i.calls state input ++ i.callsOver (i.respond state input).state inputs := by
  rw [callsOver]

/-- The cursors after some inputs are those that the calls for them lead to. -/
theorem cursors_stateAfter (state : State) (inputs : List String) :
    (i.stateAfter state inputs).cursors =
      i.book.cursorsFrom state.cursors (i.callsOver state inputs) := by
  induction inputs generalizing state with
  | nil => rfl
  | cons input inputs ih =>
    rw [stateAfter_cons, ih, cursors_respond, callsOver_cons, Rulebook.cursorsFrom_append]

/-- The fallback rule is called once on each turn that falls through. -/
theorem countP_callsOver (state : State) (inputs : List String) :
    (i.callsOver state inputs).countP (·.name = .fallback) =
      (i.converse state inputs).countP Turn.fellThrough := by
  induction inputs generalizing state with
  | nil => rw [callsOver_nil, converse_nil, List.countP_nil, List.countP_nil]
  | cons input inputs ih =>
    rw [callsOver_cons, converse_cons, List.countP_append, countP_calls, ih, List.countP_cons,
      Nat.add_comm]

/-- A turn that falls through is the answer of the fallback rule to the words that the work on
keywords began with, after calls of other rules. -/
theorem respond_of_fellThrough {state : State} {input : String}
    (h : (i.respond state input).fellThrough = true) :
    ∃ worked after, worked.countP (·.name = .fallback) = 0 ∧
      after.cursors = i.book.cursorsFrom state.cursors worked ∧
      i.respond state input = i.fallBack (i.dispatch state input).words after := by
  by_cases hheard : heard input = []
  · rw [i.respond_of_heard_eq_nil hheard] at h
    cases h
  · have hrun := i.cursors_run_dispatch state input
    rw [i.respond_of_heard_ne_nil hheard] at h ⊢
    obtain ⟨memory, pending, -, hanswer⟩ |
      ⟨-, ⟨reply, after, -, hanswer⟩ | ⟨after, hnone, hanswer⟩⟩ :=
        i.answer_cases (i.dispatch state input)
    · rw [hanswer] at h
      cases h
    · rw [hanswer] at h
      cases h
    · rw [hnone] at hrun
      exact ⟨_, after, countP_callOf _, hrun, hanswer⟩

end Interlocutor

/-! ## The rotation of the fallback rule -/

/-- A rule that begins with a pattern that matches whatever is said, with replies that have a word
of their own each. -/
structure Rule.CatchesAll (rule : Rule) (templates : List Template) : Prop where
  first : ∃ others, rule.transformations = ⟨[.count 0], templates.map .reply⟩ :: others
  templates_ne : templates ≠ []
  literal : ∀ template ∈ templates, ∃ word, .word word ∈ template

namespace Rule.CatchesAll

variable {book : Rulebook} {templates : List Template}

theorem decisive? (h : book.fallback.CatchesAll templates) (words : List String) :
    book.decisive? ⟨.fallback, words⟩ = some 0 := by
  obtain ⟨others, hothers⟩ := h.first
  exact Rule.decisive?_of_gap hothers (by simpa using h.templates_ne) book.carries words

/-- The cursor of the first pattern counts the calls of the rule, around the list of templates. -/
theorem get_cursorsAfter (h : book.fallback.CatchesAll templates) (hw : book.WellNamed)
    (calls : List Call) : (book.cursorsAfter calls).get .fallback 0 =
      calls.countP (·.name = .fallback) % templates.length := by
  obtain ⟨others, hothers⟩ := h.first
  have hnamed : book.named? .fallback = some book.fallback := rfl
  have hfirst : book.fallback.transformations[0]? = some ⟨[.count 0], templates.map .reply⟩ := by
    rw [hothers, List.getElem?_cons_zero]
  have hconsults : book.consults .fallback 0 = fun c => decide (c.name = .fallback) := by
    funext ⟨name, words⟩
    cases name with
    | keyword word => rfl
    | fallback => simp [Rulebook.consults, h.decisive? words]
  rw [Rulebook.get_cursorsAfter hw calls hnamed hfirst, hconsults, List.length_map]

/-- A call of the rule uses the template at the cursor. -/
theorem call_eq (h : book.fallback.CatchesAll templates) (hw : book.WellNamed)
    (words : List String) (cursors : Cursors) : ∃ template after,
      templates[cursors.get .fallback 0 % templates.length]? = some template ∧
      book.applyFallback words cursors =
        (.reply (template.fill [" ".intercalate words]), after) := by
  obtain ⟨rule, t, captures, response, hrule, ht, hcaptures, hresponse, hcall⟩ :=
    Rulebook.call_of_decisive?_eq_some hw (h.decisive? words) cursors
  obtain ⟨others, hothers⟩ := h.first
  cases hrule
  rw [hothers] at ht
  cases ht
  rw [Pattern.captures?_gap] at hcaptures
  cases hcaptures
  rw [List.length_map, List.getElem?_map, Option.map_eq_some_iff] at hresponse
  obtain ⟨template, htemplate, rfl⟩ := hresponse
  exact ⟨template, _, htemplate, hcall⟩

end Rule.CatchesAll

/-- A template with a word says something, whatever its slots are filled with. -/
theorem Template.spoken_fill_ne {template : Template} {word : String} (h : .word word ∈ template)
    (hrun : IsRun word) (captures : List String) : spoken (template.fill captures) ≠ "" := by
  rw [ne_eq, spoken_eq_empty_iff]
  intro hblank
  obtain ⟨c, hc⟩ := List.exists_mem_of_ne_nil word.toList (by simpa using hrun.1)
  have hword : word ∈ template.fill captures :=
    List.mem_flatMap.2 ⟨.word word, h, List.mem_singleton_self _⟩
  have hc' := hrun.2 c hc
  rw [hblank word hword c hc] at hc'
  cases hc'

namespace Interlocutor

variable {i : Interlocutor} {templates : List Template}

/-- On a turn that falls through, the rule uses the template whose number is that of the turns
that fell through before, around the list. -/
theorem respond_of_catchesAll (h : i.book.fallback.CatchesAll templates) (hw : i.book.WellNamed)
    (hspoken : ∀ template ∈ templates, ∀ captures, spoken (template.fill captures) ≠ "")
    {earlier : List String} {input : String}
    (hturn : (i.respond (i.stateAfter {} earlier) input).fellThrough = true) :
    let state := i.stateAfter {} earlier
    let words := (i.dispatch state input).words
    let j := (i.converse {} earlier).countP Turn.fellThrough
    (i.respond state input).source = .fallback ∧ ∃ template,
      templates[j % templates.length]? = some template ∧
      (i.respond state input).reply = spoken (template.fill [" ".intercalate words]) := by
  intro state words j
  obtain ⟨worked, after, hworked, hcursors, hrespond⟩ := i.respond_of_fellThrough hturn
  -- The rules that were called before on this turn have left the cursor where it was.
  have hget : after.cursors.get .fallback 0 = j % templates.length := by
    rw [hcursors, cursors_stateAfter, ← Rulebook.cursorsFrom_append]
    show (i.book.cursorsAfter _).get .fallback 0 = _
    rw [h.get_cursorsAfter hw, List.countP_append, hworked, countP_callsOver, Nat.add_zero]
  obtain ⟨template, cursors, htemplate, happly⟩ := h.call_eq hw words after.cursors
  rw [hget, Nat.mod_mod] at htemplate
  have hreply : Dispatch.nonempty? (spoken (template.fill [" ".intercalate words])) =
      some (spoken (template.fill [" ".intercalate words])) :=
    if_neg (hspoken template (List.mem_of_getElem? htemplate) _)
  have hfallBack : i.fallBack words after = ⟨spoken (template.fill [" ".intercalate words]),
      .fallback, { after with cursors }⟩ := by
    unfold fallBack
    rw [happly]
    dsimp only
    rw [hreply]
  rw [hrespond, hfallBack]
  exact ⟨rfl, template, htemplate, rfl⟩

end Interlocutor

/-! ## Scripts -/

/-- The words of the clause that is answered, each replaced by its substitute: of the first clause
with an applicable keyword, or else of the last. -/
def Script.answeredWords (script : Script) (input : String) : List String :=
  let clauses := (heard input).splitOnP isMarkWord
  (((clauses.find? (·.any script.answers)).or clauses.getLast?).getD []).map script.substitute

namespace Interlocutor

theorem words_dispatch {script : Script} (hs : script.Sound) (settings : Settings) (state : State)
    (input : String) :
    ((ofScript script settings).dispatch state input).words = script.answeredWords input := by
  rw [Script.answeredWords, ← Rulebook.answers_ofScript hs, ← Rulebook.firstClause_eq,
    Option.getD_some, ← Rulebook.substitute_ofScript hs]
  rfl

/-- The rotation of the fallback rule in a conversation that follows a script. If the rule begins
with a pattern that matches whatever is said, and each template behind it has a word, no stock
phrase is ever used. The turn on which `j` turns before have fallen through is answered by template
`j`, around the list, if it falls through itself. Slot 1 stands for the words of the clause, as they
were before any rule recast them, and every other slot for the missing word. -/
theorem fallback_of_conversation {text : String} {script : Script}
    (h : Script.read text = .ok script) {templates : List Template}
    (hfallback : script.fallback.CatchesAll templates) (settings : Settings)
    (earlier : List String) (input : String) :
    let i := ofScript script settings
    let turn := i.respond (i.stateAfter {} earlier) input
    let j := (i.converse {} earlier).countP Turn.fellThrough
    turn.source ≠ .stock ∧ turn.source ≠ .lastWord ∧
    (turn.fellThrough = true → turn.source = .fallback ∧
      ∃ template, templates[j % templates.length]? = some template ∧ turn.reply =
        spoken (template.flatMap (TemplateItem.expand [script.answeredWords input]))) := by
  intro i turn j
  have hs := Script.sound_of_read h
  have hspoken : ∀ template ∈ templates, ∀ captures, spoken (template.fill captures) ≠ "" := by
    intro template hmem
    obtain ⟨word, hword⟩ := hfallback.literal template hmem
    obtain ⟨others, hothers⟩ := hfallback.first
    have hruns := (Script.insertsRuns_and_isRun h (List.mem_append_right _ List.mem_cons_self)).2
    refine Template.spoken_fill_ne hword ?_
    exact hruns _ (by rw [hothers]; exact List.mem_cons_self) _ (List.mem_map_of_mem hmem) _ rfl
      word hword
  have hfell (hturn : turn.fellThrough = true) :=
    respond_of_catchesAll (i := i) hfallback (Rulebook.wellNamed_ofScript hs) hspoken hturn
  have hcaught {source : Source} (hsource : turn.source = source)
      (hturn : turn.fellThrough = true) : source = .fallback :=
    hsource.symm.trans (hfell hturn).1
  refine ⟨fun hstock => ?_, fun hlast => ?_, fun hturn => ?_⟩
  · cases hcaught hstock (by simp [Turn.fellThrough, hstock])
  · cases hcaught hlast (by simp [Turn.fellThrough, hlast])
  · obtain ⟨hsource, template, htemplate, hreply⟩ := hfell hturn
    refine ⟨hsource, template, htemplate, hreply.trans ?_⟩
    have hwords := i.isRun_of_mem_words (Rulebook.insertsRuns_ofScript h) (i.stateAfter {} earlier)
      input
    rw [words_dispatch hs] at hwords ⊢
    have hruns : ∀ run ∈ [script.answeredWords input], ∀ word ∈ run, IsRun word :=
      List.forall_mem_singleton.2 hwords
    exact congrArg spoken (Template.fill_intercalate hruns template)

/-- A script whose first rule recasts the words of a clause for a rule that leaves them to the
next keyword. -/
def passText : String :=
  "(HI) (MY = YOUR ((0 YOUR 0) (PRE (3 IS 9) (=WHY)))) (WHY ((0) (NEWKEY))) " ++
    "(NONE ((0) (TELL ME ABOUT 1) (GO ON 2))) (MEMORY M (0 = A) (0 = B) (0 = C) (0 = D))"

def passScript : Script where
  greeting := ["HI"]
  rules :=
    [{ spelling := "MY", substitute := some "YOUR",
       transformations := [⟨[.count 0, .word "YOUR", .count 0],
         [.recast [.slot 3, .word "IS", .slot 9] "WHY"]⟩] },
     { spelling := "WHY", transformations := [⟨[.count 0], [.pass]⟩] }]
  fallback :=
    { spelling := "NONE",
      transformations := [⟨[.count 0],
        [.reply [.word "TELL", .word "ME", .word "ABOUT", .slot 1],
         .reply [.word "GO", .word "ON", .slot 2]]⟩] }
  memory := .letters "M"

/-- The third turn that falls through uses the first template again, on what was typed. -/
theorem fallback_of_passScript : Script.read passText = .ok passScript ∧
    let i := ofScript passScript {}
    (i.respond (i.stateAfter {} ["My cat", "", "Hm"]) "Oh, my big dog").reply =
      "Tell me about your big dog" := by
  have h : Script.read passText = .ok passScript := by decide +kernel
  refine ⟨h, ?_⟩
  intro i
  have hfallback : passScript.fallback.CatchesAll
      [[.word "TELL", .word "ME", .word "ABOUT", .slot 1], [.word "GO", .word "ON", .slot 2]] := by
    refine ⟨⟨[], rfl⟩, List.cons_ne_nil _ _, ?_⟩
    rw [List.forall_mem_cons, List.forall_mem_singleton]
    exact ⟨⟨"TELL", List.mem_cons_self⟩, ⟨"GO", List.mem_cons_self⟩⟩
  obtain ⟨-, -, hanswer⟩ :=
    fallback_of_conversation h hfallback {} ["My cat", "", "Hm"] "Oh, my big dog"
  obtain ⟨-, template, htemplate, hreply⟩ := hanswer (by decide +kernel)
  have hcount : (i.converse {} ["My cat", "", "Hm"]).countP Turn.fellThrough = 2 := by
    decide +kernel
  rw [hcount] at htemplate
  cases htemplate
  exact hreply.trans (by decide +kernel)

end Interlocutor

end Colloquy
