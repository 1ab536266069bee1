import Colloquy.Proofs.Conversation.History

/-!
# How the work on keywords goes

The work on a stack of keywords takes them one by one. A rule that is applied ends the work, or
leaves it to the next keyword, or puts another keyword on the stack, as often as redirects may be
followed. `Dispatch.Runs` says so without the function that does it, so that what holds of all
work can be proved by induction on how it goes.

* `Dispatch.Runs`: the keywords that are used, the redirects that are followed, and the end.
* `Dispatch.exists_runs`, `Dispatch.runs_run`: all work goes so, and ends as the run does.
* `Dispatch.Runs.length_uses_le`, `Dispatch.Runs.length_redirected_le`: how long it takes.
* `Interlocutor.exists_runs_dispatch`: the work for an input ends, in a bounded number of uses.
-/

namespace Colloquy

namespace Dispatch

variable (book : Rulebook) (memory : MemoryRule)

/-! ## The use of a keyword -/

/-- What the rule of a keyword makes of the words. -/
def outcome (d : Dispatch) (keyword : String) : Outcome :=
  (book.apply keyword d.words d.state.cursors).1

/-- The state after a keyword has been used. -/
def stateAfter (d : Dispatch) (keyword : String) : State :=
  { d.state with
    cursors := (book.apply keyword d.words d.state.cursors).2
    pending := d.state.pending ++ (memory.memory? book.carries keyword d.words).toList }

theorem step_of_stack_eq_nil {d : Dispatch} (h : d.stack = []) :
    d.step book memory = .done none d.state := by
  rw [step, h]

theorem step_of_stack_eq_cons {d : Dispatch} {keyword : String} {stack : List String}
    (h : d.stack = keyword :: stack) : d.step book memory =
      d.follow stack (d.stateAfter book memory keyword) (d.outcome book keyword) := by
  rw [step, h]
  rfl

/-! ## Runs -/

/-- `Runs d uses redirected reply state`: the work goes through `uses`, the keywords with the
words they are used on, follows redirects to the keywords `redirected`, and ends so. -/
inductive Runs : Dispatch → List (String × List String) → List String → Option String → State →
    Prop
  /-- No keyword is left. -/
  | idle {d : Dispatch} (hstack : d.stack = []) : Runs d [] [] none d.state
  /-- There is a reply, which may be empty. -/
  | reply {d : Dispatch} {keyword : String} {stack words : List String}
      (hstack : d.stack = keyword :: stack) (houtcome : d.outcome book keyword = .reply words) :
      Runs d [(keyword, d.words)] [] (nonempty? (Text.spoken words))
        (d.stateAfter book memory keyword)
  /-- The rule does not match, which ends the work. -/
  | unmatched {d : Dispatch} {keyword : String} {stack : List String}
      (hstack : d.stack = keyword :: stack) (houtcome : d.outcome book keyword = .unmatched) :
      Runs d [(keyword, d.words)] [] none (d.stateAfter book memory keyword)
  /-- No redirect may be followed any more. -/
  | exhausted {d : Dispatch} {keyword target : String} {stack : List String}
      {newWords : Option (List String)} (hstack : d.stack = keyword :: stack)
      (houtcome : d.outcome book keyword = .redirect target newWords)
      (hredirects : d.redirects = 0) :
      Runs d [(keyword, d.words)] [] none (d.stateAfter book memory keyword)
  /-- The work goes on with another keyword, on other words if there are any. -/
  | redirect {d : Dispatch} {keyword target : String} {stack : List String}
      {newWords : Option (List String)} {redirects : Nat} {uses : List (String × List String)}
      {redirected : List String} {reply : Option String} {state : State}
      (hstack : d.stack = keyword :: stack)
      (houtcome : d.outcome book keyword = .redirect target newWords)
      (hredirects : d.redirects = redirects + 1)
      (rest : Runs ⟨target :: stack, newWords.getD d.words, redirects,
        d.stateAfter book memory keyword⟩ uses redirected reply state) :
      Runs d ((keyword, d.words) :: uses) (target :: redirected) reply state
  /-- The work goes on with the next keyword on the stack. -/
  | pass {d : Dispatch} {keyword : String} {stack : List String}
      {uses : List (String × List String)} {redirected : List String} {reply : Option String}
      {state : State} (hstack : d.stack = keyword :: stack)
      (houtcome : d.outcome book keyword = .pass)
      (rest : Runs { d with stack, state := d.stateAfter book memory keyword } uses redirected
        reply state) :
      Runs d ((keyword, d.words) :: uses) redirected reply state

/-- The work comes to its end, as each step lessens what is left. -/
theorem exists_runs (d : Dispatch) :
    ∃ uses redirected reply state, Runs book memory d uses redirected reply state := by
  induction hsize : d.size using Nat.strongRecOn generalizing d with
  | _ n ih =>
    cases hstack : d.stack with
    | nil => exact ⟨_, _, _, _, .idle hstack⟩
    | cons keyword stack =>
      have hlt (d' : Dispatch) (h : d'.size < d.size) := ih d'.size (hsize ▸ h) d' rfl
      cases houtcome : d.outcome book keyword with
      | reply words => exact ⟨_, _, _, _, .reply hstack houtcome⟩
      | unmatched => exact ⟨_, _, _, _, .unmatched hstack houtcome⟩
      | redirect target newWords =>
        cases hredirects : d.redirects with
        | zero => exact ⟨_, _, _, _, .exhausted hstack houtcome hredirects⟩
        | succ redirects =>
          obtain ⟨uses, redirected, reply, state, hrest⟩ := hlt ⟨target :: stack,
            newWords.getD d.words, redirects, d.stateAfter book memory keyword⟩ (by
              simp only [size, hstack, hredirects, List.length_cons]
              omega)
          exact ⟨_, _, _, _, .redirect hstack houtcome hredirects hrest⟩
      | pass =>
        obtain ⟨uses, redirected, reply, state, hrest⟩ :=
          hlt { d with stack, state := d.stateAfter book memory keyword } (by
            simp only [size, hstack, List.length_cons]
            omega)
        exact ⟨_, _, _, _, .pass hstack houtcome hrest⟩

namespace Runs

variable {book memory} {d : Dispatch} {uses : List (String × List String)}
  {redirected : List String} {reply : Option String} {state : State}

/-- Work that goes so ends with the result of the run. -/
theorem run_eq (h : Runs book memory d uses redirected reply state) :
    d.run book memory = (reply, state) := by
  induction h with
  | idle hstack => rw [run, step_of_stack_eq_nil book memory hstack]
  | reply hstack houtcome => rw [run, step_of_stack_eq_cons book memory hstack, houtcome, follow]
  | unmatched hstack houtcome =>
    rw [run, step_of_stack_eq_cons book memory hstack, houtcome, follow]
  | exhausted hstack houtcome hredirects =>
    rw [run, step_of_stack_eq_cons book memory hstack, houtcome, follow, hredirects]
  | redirect hstack houtcome hredirects rest ih =>
    rw [run, step_of_stack_eq_cons book memory hstack, houtcome, follow, hredirects]
    exact ih
  | pass hstack houtcome rest ih =>
    rw [run, step_of_stack_eq_cons book memory hstack, houtcome, follow]
    exact ih

/-- Work that goes so goes through the uses of the run. -/
theorem uses_eq (h : Runs book memory d uses redirected reply state) :
    d.uses book memory = uses := by
  induction h with
  | idle hstack => exact uses_eq_nil book memory hstack
  | reply hstack houtcome =>
    rw [Dispatch.uses, step_of_stack_eq_cons book memory hstack, houtcome, follow, use?, hstack]
    rfl
  | unmatched hstack houtcome =>
    rw [Dispatch.uses, step_of_stack_eq_cons book memory hstack, houtcome, follow, use?, hstack]
    rfl
  | exhausted hstack houtcome hredirects =>
    rw [Dispatch.uses, step_of_stack_eq_cons book memory hstack, houtcome, follow, hredirects,
      use?, hstack]
    rfl
  | redirect hstack houtcome hredirects rest ih =>
    rw [Dispatch.uses, step_of_stack_eq_cons book memory hstack, houtcome, follow, hredirects,
      use?, hstack, ← ih]
    rfl
  | pass hstack houtcome rest ih =>
    rw [Dispatch.uses, step_of_stack_eq_cons book memory hstack, houtcome, follow, use?, hstack,
      ← ih]
    rfl

/-- Each use takes a keyword that was on the stack or was redirected to. -/
theorem length_uses_le (h : Runs book memory d uses redirected reply state) :
    uses.length ≤ d.stack.length + redirected.length := by
  induction h with
  | idle hstack => exact Nat.zero_le _
  | reply hstack houtcome => simp [hstack]
  | unmatched hstack houtcome => simp [hstack]
  | exhausted hstack houtcome hredirects => simp [hstack]
  | redirect hstack houtcome hredirects rest ih =>
    simp only [hstack, List.length_cons] at ih ⊢
    omega
  | pass hstack houtcome rest ih =>
    simp only [hstack, List.length_cons] at ih ⊢
    omega

/-- No more redirects are followed than may be. -/
theorem length_redirected_le (h : Runs book memory d uses redirected reply state) :
    redirected.length ≤ d.redirects := by
  induction h with
  | idle hstack => exact Nat.zero_le _
  | reply hstack houtcome => exact Nat.zero_le _
  | unmatched hstack houtcome => exact Nat.zero_le _
  | exhausted hstack houtcome hredirects => exact Nat.zero_le _
  | redirect hstack houtcome hredirects rest ih =>
    rw [hredirects]
    exact Nat.succ_le_succ ih
  | pass hstack houtcome rest ih => exact ih

end Runs

/-- The work goes through its uses, to the result of the run. -/
theorem runs_run (d : Dispatch) : ∃ redirected, Runs book memory d (d.uses book memory) redirected
    (d.run book memory).1 (d.run book memory).2 := by
  obtain ⟨uses, redirected, reply, state, h⟩ := exists_runs book memory d
  rw [h.uses_eq, h.run_eq]
  exact ⟨redirected, h⟩

end Dispatch

/-! ## Inputs -/

namespace Interlocutor

variable (i : Interlocutor)

/-- No more is brought to mind than there are uses of keywords. -/
theorem length_kept_le (state : State) (input : String) :
    (i.kept state input).length ≤ ((i.dispatch state input).uses i.book i.memory).length :=
  List.length_filterMap_le _ _

/-- No more becomes pending than is brought to mind. -/
theorem length_pending_respond_le (state : State) (input : String) :
    (i.respond state input).state.pending.length ≤
      state.pending.length + (i.kept state input).length := by
  have hlength := congrArg List.length (i.pending_respond state input)
  rw [List.length_append, List.length_append] at hlength
  omega

/-- The work on the keywords of an input ends, whatever the rules and the state are. It uses no
more keywords than were on the stack or may be redirected to, and keeps at most one memory for
each. -/
theorem exists_runs_dispatch (state : State) (input : String) :
    let d := i.dispatch state input
    ∃ uses redirected reply after, d.Runs i.book i.memory uses redirected reply after ∧
      d.run i.book i.memory = (reply, after) ∧
      uses.length ≤ d.stack.length + i.settings.maxRedirects ∧
      redirected.length ≤ i.settings.maxRedirects ∧
      (i.respond state input).state.pending.length ≤
        state.pending.length + (d.stack.length + i.settings.maxRedirects) := by
  intro d
  obtain ⟨redirected, hruns⟩ := d.runs_run i.book i.memory
  have hredirected : redirected.length ≤ i.settings.maxRedirects := hruns.length_redirected_le
  have huses : (d.uses i.book i.memory).length ≤ d.stack.length + i.settings.maxRedirects :=
    Nat.le_trans hruns.length_uses_le (Nat.add_le_add_left hredirected _)
  refine ⟨_, redirected, _, _, hruns, hruns.run_eq, huses, hredirected, ?_⟩
  calc (i.respond state input).state.pending.length
      ≤ state.pending.length + (i.kept state input).length :=
      i.length_pending_respond_le state input
    _ ≤ state.pending.length + (d.uses i.book i.memory).length :=
      Nat.add_le_add_left (i.length_kept_le state input) _
    _ ≤ state.pending.length + (d.stack.length + i.settings.maxRedirects) :=
      Nat.add_le_add_left huses _

/-- Two rules that redirect to each other. -/
def echoScript : Script where
  greeting := ["HI"]
  rules :=
    [{ spelling := "PING", link := some "PONG" },
     { spelling := "PONG", link := some "PING" }]
  fallback := { spelling := "NONE", transformations := [⟨[.count 0], [.reply [.word "STUCK"]]⟩] }
  memory := .letters "M"

/-- One keyword and three redirects make four uses. -/
example :
    let i := ofScript echoScript { maxRedirects := 3 }
    ((i.dispatch {} "ping").uses i.book i.memory).map Prod.fst =
      ["PING", "PONG", "PING", "PONG"] := by
  decide +kernel

end Interlocutor

end Colloquy
