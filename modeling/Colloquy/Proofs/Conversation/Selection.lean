import Colloquy.Proofs.Conversation.Applied

/-!
# What is answered and by which keywords

The work on an input begins with the words of one of its clauses, each replaced by its substitute
at most once, and with the keywords of this clause in the order of the stack.

* `Script.substitute`, `Script.precedence`: what the rule of a word says about it.
* `Interlocutor.words_of_head?_calls`: the words that the first rule is called on.
* `Interlocutor.clause_of_input`: the clause, its keywords and its words, for the scripts that
  are read.
* `Interlocutor.stack_of_clause`: the stack and the rule that is called first, for the scripts
  that are read.
-/

namespace Colloquy

open Text

/-! ## Rules of words -/

/-- The word that takes the place of a word. -/
def Script.substitute (script : Script) (word : String) : String :=
  ((script.rule? word).bind Rule.substitute).getD word

/-- The precedence of the rule of a keyword, or 0 if it has none. -/
def Script.precedence (script : Script) (keyword : String) : Nat :=
  (script.rule? keyword).elim 0 Rule.precedence

namespace Rulebook

theorem substitute_ofScript {script : Script} (hs : script.Sound) :
    (ofScript script).substitute = script.substitute := by
  funext word
  rw [substitute, rule?_ofScript hs, Script.substitute]

theorem precedence_ofScript {script : Script} (hs : script.Sound) :
    (ofScript script).precedence = script.precedence := by
  funext word
  rw [precedence, rule?_ofScript hs, Script.precedence]

end Rulebook

/-! ## Calls -/

namespace Interlocutor

variable (i : Interlocutor)

/-- The rule that is called first is called on the substituted clause. -/
theorem words_of_head?_calls {state : State} {input : String} {c : Call}
    (h : (i.calls state input).head? = some c) : c.words = (i.dispatch state input).words := by
  cases hstack : (i.dispatch state input).stack with
  | nil =>
    have hmem := List.mem_of_head? h
    rcases i.mem_calls hmem with ⟨use, huse, -⟩ | rfl
    · rw [Dispatch.uses_eq_nil _ _ hstack] at huse
      cases huse
    · rfl
  | cons keyword stack =>
    rw [i.head?_calls hstack] at h
    cases h
    rfl

/-- The fallback rule is called on the substituted clause, whatever the rules before it made of
it. -/
theorem words_of_fallback_mem_calls {state : State} {input : String} {words : List String}
    (h : ⟨.fallback, words⟩ ∈ i.calls state input) :
    words = (i.dispatch state input).words := by
  rcases i.mem_calls h with ⟨use, -, huse⟩ | hfallback
  · cases huse
  · cases hfallback
    rfl

/-! ## The clause -/

/-- The clause that is answered, in a conversation that follows a script: the marks cut the words
of the input into clauses, and the first with an applicable keyword is answered, or else the last
clause, which may have no words. The keywords on the stack are those of this clause. Rules begin
with its words, of which each that has a substitute is replaced by it, once and where it stands. -/
theorem clause_of_input {text : String} {script : Script} (h : Script.read text = .ok script)
    (settings : Settings) (state : State) (input : String) :
    let i := ofScript script settings
    let d := i.dispatch state input
    let clauses := (heard input).splitOnP isMarkWord
    (∀ clause, clauses.find? (·.any script.answers) = some clause →
      d.stack.Perm (clause.filter script.answers) ∧ d.words = clause.map script.substitute) ∧
    (clauses.find? (·.any script.answers) = none →
      d.stack = [] ∧ clauses.getLast?.map (·.map script.substitute) = some d.words) ∧
    (∀ c, (i.calls state input).head? = some c → c.words = d.words) ∧
    (∀ words, ⟨.fallback, words⟩ ∈ i.calls state input → words = d.words) := by
  intro i d clauses
  have hs := Script.sound_of_read h
  have hanswers : i.book.answers = script.answers := Rulebook.answers_ofScript hs
  have hsubstitute : i.book.substitute = script.substitute := Rulebook.substitute_ofScript hs
  have hclause : some (i.book.clause (heard input)) =
      (clauses.find? (·.any script.answers)).or clauses.getLast? := by
    rw [← hanswers]
    exact Rulebook.firstClause_eq i.book.answers (heard input)
  have hstack : d.stack.Perm ((i.book.clause (heard input)).filter script.answers) := by
    rw [← hanswers]
    exact i.book.stack_perm _
  have hwords : d.words = (i.book.clause (heard input)).map script.substitute := by
    rw [← hsubstitute]
    rfl
  refine ⟨fun clause hfind => ?_, fun hfind => ?_, fun c hc => i.words_of_head?_calls hc,
    fun words hmem => i.words_of_fallback_mem_calls hmem⟩
  · rw [hfind, Option.some_or, Option.some.injEq] at hclause
    rw [hclause] at hstack hwords
    exact ⟨hstack, hwords⟩
  · rw [hfind, Option.none_or] at hclause
    refine ⟨?_, by rw [← hclause, hwords]; rfl⟩
    have hlast : i.book.clause (heard input) ∈ clauses := List.mem_of_getLast? hclause.symm
    have hnone : ¬(i.book.clause (heard input)).any script.answers = true :=
      List.find?_eq_none.1 hfind _ hlast
    rw [List.filter_eq_nil_iff.2 (by simpa using hnone)] at hstack
    exact hstack.eq_nil

/-- A script that swaps two words, and whose other substitutes are a mark and a keyword. -/
def swapsText : String :=
  "(HI) (I = YOU) (YOU = I) (SO = ,) (MY = YOUR 2 ((0) (OK))) (YOUR ((0) (OH))) " ++
    "(NONE ((0) (SO))) (MEMORY M (0 = A) (0 = B) (0 = C) (0 = D))"

def swapsScript : Script where
  greeting := ["HI"]
  rules :=
    [{ spelling := "I", substitute := some "YOU" },
     { spelling := "YOU", substitute := some "I" },
     { spelling := "SO", substitute := some "," },
     { spelling := "MY", substitute := some "YOUR", precedence := 2,
       transformations := [⟨[.count 0], [.reply [.word "OK"]]⟩] },
     { spelling := "YOUR", transformations := [⟨[.count 0], [.reply [.word "OH"]]⟩] }]
  fallback := { spelling := "NONE", transformations := [⟨[.count 0], [.reply [.word "SO"]]⟩] }
  memory := .letters "M"

/-- The second of three clauses has a keyword, and without it the last is answered. -/
theorem clause_of_swapsScript : Script.read swapsText = .ok swapsScript ∧
    let i := ofScript swapsScript {}
    let d := i.dispatch {} "Well, so I told you my name. My dog"
    let d' := i.dispatch {} "Well, I told you so"
    (d.stack = ["MY"] ∧ d.words = [",", "YOU", "TOLD", "I", "YOUR", "NAME"]) ∧
    (d'.stack = [] ∧ d'.words = ["YOU", "TOLD", "I", ","]) := by
  have h : Script.read swapsText = .ok swapsScript := by decide +kernel
  refine ⟨h, ?_⟩
  intro i d d'
  obtain ⟨hsome, -⟩ := clause_of_input h {} {} "Well, so I told you my name. My dog"
  obtain ⟨-, hnone, -⟩ := clause_of_input h {} {} "Well, I told you so"
  obtain ⟨hstack, hwords⟩ := hsome ["SO", "I", "TOLD", "YOU", "MY", "NAME"] (by decide +kernel)
  obtain ⟨hstack', hwords'⟩ := hnone (by decide +kernel)
  have hkeywords :
      ["SO", "I", "TOLD", "YOU", "MY", "NAME"].filter swapsScript.answers = ["MY"] := by
    decide +kernel
  refine ⟨⟨List.perm_singleton.1 (hkeywords ▸ hstack), hwords.trans (by decide +kernel)⟩,
    hstack', Option.some.inj (hwords'.symm.trans (by decide +kernel))⟩

/-! ## The stack -/

/-- The stack in a conversation that follows a script: of the occurrences of keywords in the
clause that is answered, first those of positive precedence that exceeds all before, from the last
to the first, and then the others as they were said. So each is on it once, and the rule that is
applied first is that of the leftmost occurrence of greatest precedence. -/
theorem stack_of_clause {text : String} {script : Script} (h : Script.read text = .ok script)
    (settings : Settings) (state : State) (input : String) :
    let i := ofScript script settings
    let d := i.dispatch state input
    let occurrences := (i.book.clause (heard input)).filter script.answers
    d.stack = (ranked script.precedence occurrences).map Prod.fst ∧
    (ranked script.precedence occurrences).Perm occurrences.zipIdx ∧
    (occurrences ≠ [] → ∃ before keyword after, occurrences = before ++ keyword :: after ∧
      (∀ other ∈ occurrences, script.precedence other ≤ script.precedence keyword) ∧
      (∀ earlier ∈ before, script.precedence earlier < script.precedence keyword) ∧
      (i.calls state input).head? = some ⟨.keyword keyword, d.words⟩) := by
  intro i d occurrences
  have hs := Script.sound_of_read h
  have hstack : d.stack = (ranked script.precedence occurrences).map Prod.fst := by
    have hanswers : i.book.answers = script.answers := Rulebook.answers_ofScript hs
    have hprecedence : i.book.precedence = script.precedence := Rulebook.precedence_ofScript hs
    have heq := i.book.stack_eq (i.book.clause (heard input))
    rwa [hanswers, hprecedence] at heq
  refine ⟨hstack, ranked_perm _ _, fun hne => ?_⟩
  obtain ⟨before, keyword, after, hoccurrences, hle, hbefore, hhead⟩ :=
    exists_head?_ranked script.precedence hne
  refine ⟨before, keyword, after, hoccurrences, hle, hbefore, ?_⟩
  obtain ⟨rest, hranked⟩ := List.head?_eq_some_iff.1 hhead
  rw [hranked, List.map_cons] at hstack
  exact i.head?_calls hstack

/-- A script of three precedences. -/
def ranksText : String :=
  "(HI) (LOW ((0) (ONE))) (MID 2 ((0) (TWO))) (TOP 5 ((0) (THREE))) (NONE ((0) (SO))) " ++
    "(MEMORY M (0 = A) (0 = B) (0 = C) (0 = D))"

def ranksScript : Script where
  greeting := ["HI"]
  rules :=
    [{ spelling := "LOW", transformations := [⟨[.count 0], [.reply [.word "ONE"]]⟩] },
     { spelling := "MID", precedence := 2,
       transformations := [⟨[.count 0], [.reply [.word "TWO"]]⟩] },
     { spelling := "TOP", precedence := 5,
       transformations := [⟨[.count 0], [.reply [.word "THREE"]]⟩] }]
  fallback := { spelling := "NONE", transformations := [⟨[.count 0], [.reply [.word "SO"]]⟩] }
  memory := .letters "M"

/-- A keyword that is said again has no higher precedence, and one of precedence 0 never leads. -/
theorem stack_of_ranksScript : Script.read ranksText = .ok ranksScript ∧
    let i := ofScript ranksScript {}
    let d := i.dispatch {} "Hm, low mid top mid low top"
    d.stack = ["TOP", "MID", "LOW", "MID", "LOW", "TOP"] ∧
    ∃ keyword, ranksScript.precedence keyword = 5 ∧
      (i.calls {} "Hm, low mid top mid low top").head? = some ⟨.keyword keyword, d.words⟩ := by
  have h : Script.read ranksText = .ok ranksScript := by decide +kernel
  refine ⟨h, ?_⟩
  intro i d
  obtain ⟨hstack, -, hfirst⟩ := stack_of_clause h {} {} "Hm, low mid top mid low top"
  have hoccurrences : (i.book.clause (heard "Hm, low mid top mid low top")).filter
      ranksScript.answers = ["LOW", "MID", "TOP", "MID", "LOW", "TOP"] := by decide +kernel
  rw [hoccurrences] at hstack hfirst
  obtain ⟨before, keyword, after, hsplit, hle, -, hhead⟩ := hfirst (List.cons_ne_nil _ _)
  refine ⟨hstack.trans (by decide +kernel), keyword, ?_, hhead⟩
  have htop : ranksScript.precedence "TOP" = 5 := by decide +kernel
  have hmost : ∀ other ∈ ["LOW", "MID", "TOP", "MID", "LOW", "TOP"],
      ranksScript.precedence other ≤ 5 := by decide +kernel
  refine Nat.le_antisymm (hmost keyword ?_) (htop ▸ hle "TOP" (by decide))
  rw [hsplit]
  exact List.mem_append_right _ List.mem_cons_self

end Interlocutor

end Colloquy
