import Colloquy.Proofs.Conversation.Runs
import Colloquy.Proofs.Rulebook.Calls

/-!
# Where references lead

A script is read only if each reference leads to a keyword with an applicable rule. The rules
never change, so this still holds when a conversation follows a reference, and no keyword that
is worked on is without a rule.

* `Rulebook.Closed`: references lead to applicable rules.
* `Rulebook.answers_of_call`: the keywords of redirects.
* `Dispatch.Runs.answers_of_mem_uses`: the keywords that are worked on.
* `applicable_of_redirect`: all of this, for the scripts that are read.
-/

namespace Colloquy

namespace Rulebook

variable {book : Rulebook}

/-! ## Redirects -/

/-- Whether every reference of a rule leads to an applicable rule. -/
def Closed (book : Rulebook) : Prop :=
  ∀ name rule, book.named? name = some rule → ∀ keyword ∈ rule.references,
    book.answers keyword = true

theorem closed_ofScript {script : Script} (hs : script.Sound) : (ofScript script).Closed := by
  intro name rule hrule keyword hkeyword
  obtain ⟨hmem, -⟩ := mem_and_name_of_named? hs hrule
  rw [answers_ofScript hs]
  exact Script.danglingReference?_eq_none_iff.1 hs.references rule hmem keyword hkeyword

/-- A call redirects to a reference of the rule that is called. -/
theorem mem_references_of_call {c : Call} {cursors : Cursors} {keyword : String}
    {newWords : Option (List String)}
    (h : (book.call c cursors).1 = .redirect keyword newWords) :
    ∃ rule, book.named? c.name = some rule ∧ keyword ∈ rule.references := by
  obtain ⟨rule, hrule, hcall⟩ := exists_rule_of_call (by rw [h]; exact nofun)
  rw [hcall] at h
  exact ⟨rule, hrule, Rule.mem_references_of_apply h⟩

theorem answers_of_call (hclosed : book.Closed) {c : Call} {cursors : Cursors} {keyword : String}
    {newWords : Option (List String)}
    (h : (book.call c cursors).1 = .redirect keyword newWords) : book.answers keyword = true := by
  obtain ⟨rule, hrule, hmem⟩ := mem_references_of_call h
  exact hclosed c.name rule hrule keyword hmem

end Rulebook

/-! ## The work on keywords -/

namespace Dispatch.Runs

variable {book : Rulebook} {memory : MemoryRule} {d : Dispatch}
  {uses : List (String × List String)} {redirected : List String} {reply : Option String}
  {state : State}

/-- If all keywords on the stack have applicable rules, so do all that are used. -/
theorem answers_of_mem_uses (h : Runs book memory d uses redirected reply state)
    (hclosed : book.Closed) (hstack : ∀ keyword ∈ d.stack, book.answers keyword = true) :
    ∀ use ∈ uses, book.answers use.1 = true := by
  induction h with
  | idle hd => exact nofun
  | reply hd houtcome => rw [hd] at hstack; simpa using (List.forall_mem_cons.1 hstack).1
  | unmatched hd houtcome => rw [hd] at hstack; simpa using (List.forall_mem_cons.1 hstack).1
  | exhausted hd houtcome hredirects =>
    rw [hd] at hstack
    simpa using (List.forall_mem_cons.1 hstack).1
  | @redirect d keyword target stack newWords redirects uses redirected reply state hd houtcome
      hredirects rest ih =>
    rw [hd] at hstack
    obtain ⟨hkeyword, hrest⟩ := List.forall_mem_cons.1 hstack
    have htarget : book.answers target = true :=
      Rulebook.answers_of_call hclosed (c := ⟨.keyword keyword, d.words⟩) houtcome
    exact List.forall_mem_cons.2 ⟨hkeyword, ih (List.forall_mem_cons.2 ⟨htarget, hrest⟩)⟩
  | pass hd houtcome rest ih =>
    rw [hd] at hstack
    obtain ⟨hkeyword, hrest⟩ := List.forall_mem_cons.1 hstack
    exact List.forall_mem_cons.2 ⟨hkeyword, ih hrest⟩

end Dispatch.Runs

/-! ## Scripts -/

/-- In a script that is read no redirect leads nowhere: after any calls of its rules, a call
redirects only to a keyword with an applicable rule, and so does every keyword have one that is
worked on in a conversation, whether it comes from the input or from a redirect. -/
theorem applicable_of_redirect {text : String} {script : Script}
    (h : Script.read text = .ok script) (settings : Settings) :
    let book := Rulebook.ofScript script
    let i := Interlocutor.ofScript script settings
    (∀ calls c keyword newWords,
      (book.call c (book.cursorsAfter calls)).1 = .redirect keyword newWords →
        ∃ rule, book.rule? keyword = some rule ∧ rule.isApplicable = true) ∧
    (∀ earlier input,
      ∀ use ∈ (i.dispatch (i.stateAfter {} earlier) input).uses i.book i.memory,
        ∃ rule, book.rule? use.1 = some rule ∧ rule.isApplicable = true) := by
  intro book i
  have hclosed : book.Closed := Rulebook.closed_ofScript (Script.sound_of_read h)
  refine ⟨fun calls c keyword newWords hcall => ?_, fun earlier input use huse => ?_⟩
  · exact Rulebook.answers_iff.1 (Rulebook.answers_of_call hclosed hcall)
  · obtain ⟨redirected, hruns⟩ :=
      (i.dispatch (i.stateAfter {} earlier) input).runs_run i.book i.memory
    exact Rulebook.answers_iff.1 (hruns.answers_of_mem_uses hclosed
      (fun keyword hkeyword => Rulebook.answers_of_mem_stack hkeyword) use huse)

/-- A script that redirects by a link, by a reference, after recasting, and from its fallback
rule. -/
def linksText : String :=
  "(HI) (HOW (=WHAT)) (WHAT ((0) (PRE (SO 1) (=WHY)))) (WHY ((0) (=OH)) (=HOW)) (OH ((0) (OK))) " ++
    "(NONE ((0) (=WHAT))) (MEMORY M (0 = A) (0 = B) (0 = C) (0 = D))"

def linksScript : Script where
  greeting := ["HI"]
  rules :=
    [{ spelling := "HOW", link := some "WHAT" },
     { spelling := "WHAT",
       transformations := [⟨[.count 0], [.recast [.word "SO", .slot 1] "WHY"]⟩] },
     { spelling := "WHY", link := some "HOW", transformations := [⟨[.count 0], [.refer "OH"]⟩] },
     { spelling := "OH", transformations := [⟨[.count 0], [.reply [.word "OK"]]⟩] }]
  fallback := { spelling := "NONE", transformations := [⟨[.count 0], [.refer "WHAT"]⟩] }
  memory := .letters "M"

/-- The fallback rule redirects to a rule, and so does the input "how", over others. -/
theorem applicable_of_linksScript : Script.read linksText = .ok linksScript ∧
    let book := Rulebook.ofScript linksScript
    let i := Interlocutor.ofScript linksScript {}
    ((book.call ⟨.fallback, ["X"]⟩ (book.cursorsAfter [])).1 = .redirect "WHAT" none ∧
      ∃ rule, book.rule? "WHAT" = some rule ∧ rule.isApplicable = true) ∧
    (("OH", ["SO", "HOW"]) ∈ (i.dispatch (i.stateAfter {} ["why"]) "how").uses i.book i.memory ∧
      ∃ rule, book.rule? "OH" = some rule ∧ rule.isApplicable = true) := by
  have h : Script.read linksText = .ok linksScript := by decide +kernel
  refine ⟨h, ?_⟩
  intro book i
  obtain ⟨hcalls, huses⟩ := applicable_of_redirect h {}
  have hcall : (book.call ⟨.fallback, ["X"]⟩ (book.cursorsAfter [])).1 = .redirect "WHAT" none := by
    decide +kernel
  have huse : ("OH", ["SO", "HOW"]) ∈
      (i.dispatch (i.stateAfter {} ["why"]) "how").uses i.book i.memory := by decide +kernel
  exact ⟨⟨hcall, hcalls _ _ _ _ hcall⟩, huse, huses _ _ _ huse⟩

end Colloquy
