import Colloquy.Conversation.Dispatch

/-!
# What the work on keywords keeps

The work on keywords changes a state in two ways only: rules move cursors, and what the keywords
bring to mind is put behind what is kept already. The phase stays as it is.

* `Dispatch.uses`: the keywords that are worked on and the words they are used on.
* `Dispatch.pending_run`: what the uses bring to mind is kept, in their order.
* `Sayable`: the sentences that are put together from words and not empty.
* `Dispatch.sayable_of_run`: the work never ends with another reply.
-/

namespace Colloquy

/-- A sentence that is put together from words, and is not empty. -/
structure Sayable (sentence : String) : Prop where
  ne_empty : sentence ≠ ""
  exists_words : ∃ words, sentence = Text.spoken words

/-! ## What one keyword brings to mind -/

theorem MemoryRule.sayable_of_recollect? {carries : String → String → Bool} {r : Recollection}
    {words : List String} {memory : String} (h : recollect? carries r words = some memory) :
    Sayable memory := by
  unfold recollect? at h
  split at h
  · cases h
  · dsimp only at h
    split at h
    · cases h
    · rename_i hne
      rw [Option.some.inj h] at hne
      exact ⟨hne, _, (Option.some.inj h).symm⟩

theorem MemoryRule.sayable_of_memory? {carries : String → String → Bool} {rule : MemoryRule}
    {keyword : String} {words : List String} {memory : String}
    (h : rule.memory? carries keyword words = some memory) : Sayable memory := by
  unfold memory? at h
  split at h
  · obtain ⟨last, -, hmemory⟩ := Option.bind_eq_some_iff.1 h
    exact sayable_of_recollect? hmemory
  · cases h

namespace Dispatch

variable (book : Rulebook) (memory : MemoryRule)

/-! ## Steps -/

/-- The state that a step leads to. -/
def Progress.state : Progress → State
  | more d => d.state
  | done _ state => state

@[simp] theorem state_follow (d : Dispatch) (stack : List String) (state : State)
    (outcome : Outcome) : (d.follow stack state outcome).state = state := by
  cases outcome with
  | reply words => rfl
  | redirect keyword newWords =>
    unfold follow
    cases d.redirects with
    | zero => rfl
    | succ redirects => rfl
  | pass => rfl
  | unmatched => rfl

/-- The next keyword and the words it is used on, unless no keyword is left. -/
def use? (d : Dispatch) : Option (String × List String) := d.stack.head?.map (·, d.words)

/-- What the uses of keywords bring to mind. -/
def memories (uses : List (String × List String)) : List String :=
  uses.filterMap fun (keyword, words) => memory.memory? book.carries keyword words

@[simp] theorem memories_append (uses uses' : List (String × List String)) :
    memories book memory (uses ++ uses') =
      memories book memory uses ++ memories book memory uses' :=
  List.filterMap_append

theorem sayable_of_mem_memories {uses : List (String × List String)} {m : String}
    (h : m ∈ memories book memory uses) : Sayable m := by
  obtain ⟨use, -, hm⟩ := List.mem_filterMap.1 h
  exact MemoryRule.sayable_of_memory? hm

theorem pending_step (d : Dispatch) : (d.step book memory).state.pending =
    d.state.pending ++ memories book memory d.use?.toList := by
  unfold step use?
  split
  · rename_i hstack
    simp [hstack, memories, Progress.state]
  · rename_i keyword stack hstack
    rw [state_follow, hstack]
    cases hmemory : memory.memory? book.carries keyword d.words with
    | none => simp [memories, hmemory]
    | some m => simp [memories, hmemory]

theorem phase_step (d : Dispatch) : (d.step book memory).state.phase = d.state.phase := by
  unfold step
  split
  · rfl
  · rw [state_follow]

theorem sayable_of_nonempty? {words : List String} {reply : String}
    (h : nonempty? (Text.spoken words) = some reply) : Sayable reply := by
  unfold nonempty? at h
  split at h
  · cases h
  · rename_i hne
    rw [Option.some.inj h] at hne
    exact ⟨hne, words, (Option.some.inj h).symm⟩

theorem sayable_of_follow {d : Dispatch} {stack : List String} {state state' : State}
    {outcome : Outcome} {reply : String}
    (h : d.follow stack state outcome = .done (some reply) state') : Sayable reply := by
  cases outcome with
  | reply words => exact sayable_of_nonempty? (Progress.done.inj h).1
  | redirect keyword newWords =>
    unfold follow at h
    cases hredirects : d.redirects with
    | zero => simp only [hredirects] at h; cases h
    | succ redirects => simp only [hredirects] at h; cases h
  | pass => cases h
  | unmatched => cases h

theorem sayable_of_step {d : Dispatch} {reply : String} {state : State}
    (h : d.step book memory = .done (some reply) state) : Sayable reply := by
  unfold step at h
  split at h
  · cases h
  · exact sayable_of_follow h

/-! ## Runs -/

/-- The keywords that are worked on until the work ends, each with the words it is used on. -/
def uses (d : Dispatch) : List (String × List String) :=
  match _h : d.step book memory with
  | .done _ _ => d.use?.toList
  | .more d' => d.use?.toList ++ d'.uses
termination_by d.size
decreasing_by exact size_lt_of_step _h

theorem uses_of_done {d : Dispatch} {reply : Option String} {state : State}
    (h : d.step book memory = .done reply state) : d.uses book memory = d.use?.toList := by
  rw [uses, h]

theorem uses_of_more {d d' : Dispatch} (h : d.step book memory = .more d') :
    d.uses book memory = d.use?.toList ++ d'.uses book memory := by
  rw [uses, h]

/-- Everything that the work on the keywords brings to mind is kept, the oldest first. -/
theorem pending_run (d : Dispatch) : (d.run book memory).2.pending =
    d.state.pending ++ memories book memory (d.uses book memory) := by
  fun_induction run book memory d with
  | case1 d reply state hstep =>
    have hpending := pending_step book memory d
    rw [hstep] at hpending
    rw [uses_of_done book memory hstep]
    exact hpending
  | case2 d d' hstep ih =>
    have hpending := pending_step book memory d
    rw [hstep] at hpending
    rw [ih, uses_of_more book memory hstep, memories_append, ← List.append_assoc, ← hpending]
    rfl

theorem phase_run (d : Dispatch) : (d.run book memory).2.phase = d.state.phase := by
  fun_induction run book memory d with
  | case1 d reply state hstep =>
    have hphase := phase_step book memory d
    rwa [hstep] at hphase
  | case2 d d' hstep ih =>
    have hphase := phase_step book memory d
    rw [hstep] at hphase
    exact ih.trans hphase

/-- The work ends with a sentence that is put together from words, if with any. -/
theorem sayable_of_run {d : Dispatch} {reply : String}
    (h : (d.run book memory).1 = some reply) : Sayable reply := by
  fun_induction run book memory d with
  | case1 d reply' state hstep =>
    cases h
    exact sayable_of_step book memory hstep
  | case2 d d' hstep ih => exact ih h

/-- Without keywords there is nothing to work on. -/
theorem uses_eq_nil {d : Dispatch} (h : d.stack = []) : d.uses book memory = [] := by
  have hstep : d.step book memory = .done none d.state := by
    unfold step
    split
    · rfl
    · rename_i hstack
      rw [h] at hstack
      cases hstack
  rw [uses_of_done book memory hstep, use?, h]
  rfl

end Dispatch

end Colloquy
