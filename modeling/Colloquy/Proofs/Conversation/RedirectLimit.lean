import Colloquy.Proofs.Conversation.References
import Colloquy.Proofs.Script.Redirects

/-!
# How many redirects are enough

The limit of redirects is shared by all keywords of an input. A limit that allows for the longest
route from the keywords of an input is never reached, so that any larger limit makes no
difference. The longest path is not enough of a limit: a rule that passes lets the next keyword
start another path.

* `Dispatch.Enough`: redirects that allow for every route.
* `Dispatch.Runs.withRedirects`: with enough redirects, more of them make no difference.
* `Interlocutor.converse_of_longestRoute_le`: the same over a conversation, for the scripts that
  are read.
* `Interlocutor.converse_ne_of_twiceScript`: the longest path is not enough.
-/

namespace Colloquy

/-! ## Edges that the work follows -/

namespace Rulebook

/-- A call passes by a response of the rule that is called. -/
theorem exists_pass_of_call {book : Rulebook} {c : Call} {cursors : Cursors}
    (h : (book.call c cursors).1 = .pass) :
    ∃ rule, book.named? c.name = some rule ∧ ∃ t ∈ rule.transformations, .pass ∈ t.responses := by
  obtain ⟨rule, hrule, hcall⟩ := exists_rule_of_call (by rw [h]; exact nofun)
  rw [hcall] at h
  exact ⟨rule, hrule, Rule.exists_pass_of_apply h⟩

end Rulebook

namespace Dispatch

variable {script : Script} {d : Dispatch} {keyword : String}

theorem leads_of_outcome (hs : script.Sound) {target : String} {newWords : Option (List String)}
    (h : d.outcome (.ofScript script) keyword = .redirect target newWords) :
    script.Leads (.keyword keyword) (.keyword target) := by
  obtain ⟨rule, hrule, htarget⟩ :=
    Rulebook.mem_references_of_call (c := ⟨.keyword keyword, d.words⟩) h
  obtain ⟨hmem, hname⟩ := Rulebook.mem_and_name_of_named? hs hrule
  exact ⟨rule, hmem, hname, target, htarget, rfl⟩

theorem passes_of_outcome (hs : script.Sound)
    (h : d.outcome (.ofScript script) keyword = .pass) : script.Passes (.keyword keyword) := by
  obtain ⟨rule, hrule, hpass⟩ :=
    Rulebook.exists_pass_of_call (c := ⟨.keyword keyword, d.words⟩) h
  obtain ⟨hmem, hname⟩ := Rulebook.mem_and_name_of_named? hs hrule
  exact ⟨rule, hmem, hname, hpass⟩

/-! ## Enough redirects -/

/-- Whether all routes from the stack can be followed. -/
def Enough (script : Script) (d : Dispatch) : Prop := ∀ n, script.Route d.stack n → n ≤ d.redirects

variable {memory : MemoryRule} {uses : List (String × List String)} {redirected : List String}
  {reply : Option String} {state : State}

/-- With enough redirects, more of them make no difference to how the work goes. -/
theorem Runs.withRedirects (hs : script.Sound)
    (h : Runs (.ofScript script) memory d uses redirected reply state) (henough : d.Enough script)
    {limit : Nat} (hlimit : d.redirects ≤ limit) :
    Runs (.ofScript script) memory { d with redirects := limit } uses redirected reply state := by
  induction h generalizing limit with
  | idle hstack => exact .idle hstack
  | reply hstack houtcome => exact .reply hstack houtcome
  | unmatched hstack houtcome => exact .unmatched hstack houtcome
  -- The redirect that is not followed would be a route of length 1.
  | exhausted hstack houtcome hredirects =>
    have hone := henough 1 (hstack ▸ .redirect (leads_of_outcome hs houtcome) (.stop _))
    omega
  | redirect hstack houtcome hredirects rest ih =>
    obtain ⟨limit, rfl⟩ : ∃ limit', limit = limit' + 1 := ⟨limit - 1, by omega⟩
    refine .redirect hstack houtcome rfl (ih (fun n hroute => ?_) (by simp only; omega))
    have hsucc := henough (n + 1) (hstack ▸ .redirect (leads_of_outcome hs houtcome) hroute)
    simp only
    omega
  | pass hstack houtcome rest ih =>
    refine .pass hstack houtcome (ih (fun n hroute => ?_) hlimit)
    exact henough n (hstack ▸ .pass (passes_of_outcome hs houtcome) hroute)

theorem run_withRedirects (hs : script.Sound) (memory : MemoryRule) (henough : d.Enough script)
    {limit : Nat} (hlimit : d.redirects ≤ limit) :
    ({ d with redirects := limit } : Dispatch).run (.ofScript script) memory =
      d.run (.ofScript script) memory := by
  obtain ⟨redirected, hruns⟩ := d.runs_run (.ofScript script) memory
  exact (hruns.withRedirects hs henough hlimit).run_eq

end Dispatch

/-! ## Conversations -/

namespace Interlocutor

/-- An interlocutor with another limit of redirects. -/
abbrev withLimit (i : Interlocutor) (limit : Nat) : Interlocutor :=
  { i with settings := { i.settings with maxRedirects := limit } }

theorem stockReply_withLimit (i : Interlocutor) (limit : Nat) (state : State) :
    (i.withLimit limit).stockReply state = i.stockReply state := by
  simp only [stockReply]

theorem fallBack_withLimit (i : Interlocutor) (limit : Nat) (words : List String) (state : State) :
    (i.withLimit limit).fallBack words state = i.fallBack words state := by
  simp only [fallBack, stockReply_withLimit]

/-- The limit makes no difference to a turn if it makes none to the work on the keywords. -/
theorem respond_withLimit {i : Interlocutor} {limit : Nat} {state : State} {input : String}
    (h : ({ i.dispatch state input with redirects := limit } : Dispatch).run i.book i.memory =
      (i.dispatch state input).run i.book i.memory) :
    (i.withLimit limit).respond state input = i.respond state input := by
  have hdispatch : (i.withLimit limit).dispatch state input =
      { i.dispatch state input with redirects := limit } := rfl
  simp only [respond, answer, hdispatch, h, fallBack_withLimit]

theorem converse_withLimit {script : Script} (hs : script.Sound) {settings : Settings}
    {limit : Nat} (hlimit : settings.maxRedirects ≤ limit) (state : State) {inputs : List String}
    (henough : ∀ input ∈ inputs, ∀ state,
      ((ofScript script settings).dispatch state input).Enough script) :
    ((ofScript script settings).withLimit limit).converse state inputs =
      (ofScript script settings).converse state inputs := by
  induction inputs generalizing state with
  | nil => rw [converse_nil, converse_nil]
  | cons input inputs ih =>
    obtain ⟨hinput, hinputs⟩ := List.forall_mem_cons.1 henough
    have hrun := Dispatch.run_withRedirects hs script.memory (hinput state) hlimit
    rw [converse_cons, converse_cons, respond_withLimit hrun, ih _ hinputs]

/-! ## Scripts -/

/-- In a script without cycles of redirects: a limit that is not less than the longest path
allows for every route from one keyword, and for every route at all if no rule passes; and with
a limit that allows for every route from the keywords of each input, a conversation goes as with
any larger limit. -/
theorem converse_of_longestRoute_le {text : String} {script : Script}
    (h : Script.read text = .ok script) (hacyclic : script.Acyclic) (settings : Settings) :
    let i := ofScript script settings
    let allows (input : String) : Prop :=
      script.longestRoute (i.dispatch {} input).stack ≤ settings.maxRedirects
    ((∀ path : List RuleName, path.IsChain script.Leads → path.length ≤ settings.maxRedirects + 1) →
      ∀ input, ((i.dispatch {} input).stack.length ≤ 1 ∨ ∀ name, ¬script.Passes name) →
        allows input) ∧
    ∀ inputs, (∀ input ∈ inputs, allows input) → ∀ limit, settings.maxRedirects ≤ limit →
      (ofScript script { settings with maxRedirects := limit }).converse {} inputs =
        i.converse {} inputs := by
  intro i allows
  refine ⟨fun hpaths input hinput => Script.longestRoute_le_of_paths hpaths hinput,
    fun inputs hallows limit hlimit => ?_⟩
  refine converse_withLimit (Script.sound_of_read h) hlimit {} fun input hinput state n hroute => ?_
  exact (hroute.le_longestRoute hacyclic).trans (hallows input hinput)

/-- A script in which the same keyword can be worked on twice, with a redirect each time. -/
def twiceText : String :=
  "(HI) (A (=K)) (K ((0) (NEWKEY))) (B ((0) (OK 1))) (NONE ((0) (SO))) " ++
    "(MEMORY M (0 = A) (0 = B) (0 = C) (0 = D))"

def twiceScript : Script where
  greeting := ["HI"]
  rules :=
    [{ spelling := "A", link := some "K" },
     { spelling := "K", transformations := [⟨[.count 0], [.pass]⟩] },
     { spelling := "B", transformations := [⟨[.count 0], [.reply [.word "OK", .slot 1]]⟩] }]
  fallback := { spelling := "NONE", transformations := [⟨[.count 0], [.reply [.word "SO"]]⟩] }
  memory := .letters "M"

/-- Of the rules of the script, only that of `A` leads somewhere. -/
def twiceRank (name : RuleName) : Nat := if name = .keyword "A" then 1 else 0

theorem twiceRank_lt (name name' : RuleName) (hleads : twiceScript.Leads name name') :
    twiceRank name' < twiceRank name :=
  Script.lt_of_leads (by decide +kernel) name name' hleads

/-- The limit 2 allows for the two redirects of the input, and so it does as well as 32. -/
theorem converse_of_twiceScript : Script.read twiceText = .ok twiceScript ∧
    (ofScript twiceScript { maxRedirects := 32 }).converse {} ["a a b"] =
      (ofScript twiceScript { maxRedirects := 2 }).converse {} ["a a b"] := by
  have h : Script.read twiceText = .ok twiceScript := by decide +kernel
  refine ⟨h, (converse_of_longestRoute_le h (Script.acyclic_of_rank twiceRank_lt)
    { maxRedirects := 2 }).2 ["a a b"] (fun input hinput => ?_) 32 (by decide)⟩
  obtain rfl := List.mem_singleton.1 hinput
  have hstack : ((ofScript twiceScript { maxRedirects := 2 }).dispatch {} "a a b").stack =
      ["A", "A", "B"] := by decide +kernel
  rw [hstack]
  exact (Script.longestRoute_le_sum twiceRank_lt _).trans (by decide +kernel)

/-- No path of the script has more than one redirect, and yet the limit 1 is not enough: the
second redirect of the input is not followed. -/
theorem converse_ne_of_twiceScript : Script.read twiceText = .ok twiceScript ∧
    twiceScript.Acyclic ∧
    (∀ path : List RuleName, path.IsChain twiceScript.Leads → path.length ≤ 1 + 1) ∧
    ((ofScript twiceScript { maxRedirects := 1 }).converse {} ["a a b"]).map Turn.reply =
      ["So"] ∧
    ((ofScript twiceScript { maxRedirects := 2 }).converse {} ["a a b"]).map Turn.reply =
      ["Ok a a b"] := by
  refine ⟨by decide +kernel, Script.acyclic_of_rank twiceRank_lt, fun path hpath => ?_,
    by decide +kernel, by decide +kernel⟩
  cases path with
  | nil => exact Nat.zero_le _
  | cons name path =>
    have hrank : twiceRank name ≤ 1 := by
      unfold twiceRank
      split
      · exact Nat.le_refl _
      · exact Nat.zero_le _
    exact Nat.succ_le_succ ((Script.length_le_rank twiceRank_lt hpath).trans hrank)

end Interlocutor

end Colloquy
