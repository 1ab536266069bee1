import Colloquy.Proofs.Conversation.Runs
import Colloquy.Proofs.Rulebook.Calls

/-!
# The rules that an answer applies

To answer an input is to call rules: those of the keywords that are worked on and, where they
give no reply, the fallback rule. The cursors move as these calls move them and in no other way.

* `Interlocutor.calls`: the calls for an input, in order.
* `Interlocutor.cursors_respond`: the cursors after them.
* `Interlocutor.mem_calls`: what is called with which words.
-/

namespace Colloquy

/-! ## The work on keywords -/

namespace Dispatch

variable {book : Rulebook} {memory : MemoryRule}

/-- The call that the use of a keyword makes. -/
def callOf (use : String × List String) : Call := ⟨.keyword use.1, use.2⟩

theorem Runs.cursors_eq {d : Dispatch} {uses : List (String × List String)}
    {redirected : List String} {reply : Option String} {state : State}
    (h : Runs book memory d uses redirected reply state) :
    state.cursors = book.cursorsFrom d.state.cursors (uses.map callOf) := by
  induction h with
  | idle hstack => rfl
  | reply hstack houtcome => rfl
  | unmatched hstack houtcome => rfl
  | exhausted hstack houtcome hredirects => rfl
  | redirect hstack houtcome hredirects rest ih => exact ih
  | pass hstack houtcome rest ih => exact ih

theorem cursors_run (d : Dispatch) : (d.run book memory).2.cursors =
    book.cursorsFrom d.state.cursors ((d.uses book memory).map callOf) := by
  obtain ⟨redirected, hruns⟩ := d.runs_run book memory
  exact hruns.cursors_eq

/-- The keyword on top of the stack is used first. -/
theorem head?_uses (d : Dispatch) : (d.uses book memory).head? = d.use? := by
  cases hstack : d.stack with
  | nil => simp [uses_eq_nil book memory hstack, use?, hstack]
  | cons keyword stack =>
    have huse : d.use? = some (keyword, d.words) := by simp [use?, hstack]
    cases hstep : d.step book memory with
    | done reply state => simp [uses_of_done book memory hstep, huse]
    | more d' => simp [uses_of_more book memory hstep, huse]

end Dispatch

/-! ## Answers -/

namespace Interlocutor

variable (i : Interlocutor)

/-- The calls that are made to answer an input, in order. -/
def calls (state : State) (input : String) : List Call :=
  let d := i.dispatch state input
  let worked := (d.uses i.book i.memory).map Dispatch.callOf
  match (i.respond state input).source with
  | .greeting | .memory => []
  | .keyword => worked
  | .fallback | .stock | .lastWord => worked ++ [⟨.fallback, d.words⟩]

theorem cursors_run_dispatch (state : State) (input : String) :
    ((i.dispatch state input).run i.book i.memory).2.cursors =
      i.book.cursorsFrom state.cursors
        (((i.dispatch state input).uses i.book i.memory).map Dispatch.callOf) :=
  Dispatch.cursors_run _

/-- The cursors after an answer are those that the calls for it lead to. -/
theorem cursors_respond (state : State) (input : String) :
    (i.respond state input).state.cursors =
      i.book.cursorsFrom state.cursors (i.calls state input) := by
  unfold calls
  by_cases hheard : heard input = []
  · rw [i.respond_of_heard_eq_nil hheard]
    rfl
  · have hrun := i.cursors_run_dispatch state input
    rw [i.respond_of_heard_ne_nil hheard]
    dsimp only
    generalize ((i.dispatch state input).uses i.book i.memory).map Dispatch.callOf = worked
      at hrun ⊢
    obtain ⟨memory, pending, -, hanswer⟩ |
      ⟨-, ⟨reply, state', hreply, hanswer⟩ | ⟨state', hnone, hanswer⟩⟩ :=
        i.answer_cases (i.dispatch state input)
    · rw [hanswer]
      rfl
    · rw [hreply] at hrun
      rw [hanswer]
      exact hrun
    · obtain ⟨reply, source, -, hsource, hturn⟩ :=
        i.exists_fallBack_eq (i.dispatch state input).words state'
      have hlast := i.book.cursorsFrom_concat state.cursors worked
        ⟨.fallback, (i.dispatch state input).words⟩
      rw [← hrun, hnone] at hlast
      rw [hanswer, hturn]
      rcases hsource with rfl | rfl | rfl <;> exact hlast.symm

/-- A call is made for a keyword that is worked on, or it is of the fallback rule on the words
that the work began with. -/
theorem mem_calls {state : State} {input : String} {c : Call} (h : c ∈ i.calls state input) :
    (∃ use ∈ (i.dispatch state input).uses i.book i.memory, c = Dispatch.callOf use) ∨
      c = ⟨.fallback, (i.dispatch state input).words⟩ := by
  have hworked (h : c ∈ ((i.dispatch state input).uses i.book i.memory).map Dispatch.callOf) :
      ∃ use ∈ (i.dispatch state input).uses i.book i.memory, c = Dispatch.callOf use := by
    obtain ⟨use, huse, rfl⟩ := List.mem_map.1 h
    exact ⟨use, huse, rfl⟩
  unfold calls at h
  dsimp only at h
  split at h
  · cases h
  · cases h
  · exact .inl (hworked h)
  all_goals
    rcases List.mem_append.1 h with h | h
    · exact .inl (hworked h)
    · exact .inr (List.mem_singleton.1 h)

/-- If there is a keyword, the rule of the one on top of the stack is called first, on the words
that the work begins with. -/
theorem head?_calls {state : State} {input : String} {keyword : String} {stack : List String}
    (h : (i.dispatch state input).stack = keyword :: stack) : (i.calls state input).head? =
      some ⟨.keyword keyword, (i.dispatch state input).words⟩ := by
  have hhead : (((i.dispatch state input).uses i.book i.memory).map Dispatch.callOf).head? =
      some ⟨.keyword keyword, (i.dispatch state input).words⟩ := by
    rw [List.head?_map, Dispatch.head?_uses, Dispatch.use?, h]
    rfl
  have hstack : (i.dispatch state input).stack ≠ [] := by
    rw [h]
    exact List.cons_ne_nil _ _
  have hanswers := i.answers_respond state input
  unfold calls
  generalize i.respond state input = turn at hanswers ⊢
  cases hanswers with
  | greeting hheard => exact absurd (i.stack_dispatch_of_heard hheard) hstack
  | memory hheard hnil hphase hpending => exact absurd hnil hstack
  | worked hheard hnone hspeaks =>
    dsimp only
    split
    · exact absurd ‹_› hspeaks.source_ne_greeting
    · exact absurd ‹_› hspeaks.source_ne_memory
    · exact hhead
    all_goals rw [List.head?_append, hhead, Option.some_or]

end Interlocutor

end Colloquy
