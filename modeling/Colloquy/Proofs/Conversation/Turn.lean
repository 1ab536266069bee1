import Colloquy.Conversation
import Colloquy.Proofs.Conversation.Dispatch
import Colloquy.Proofs.Text.Sentence

/-!
# What an answer does

There are three ways to answer an input: with the greeting, with the oldest memory, or after
the work on its keywords. Each changes the state in its own way.

* `Interlocutor.answer_cases`: what the work on keywords leads to.
* `Interlocutor.Answers`: the three ways, each with what it changes.
* `Interlocutor.answers_respond`: every input is answered in one of them.
-/

namespace Colloquy

namespace Interlocutor

variable (i : Interlocutor)

/-- What an input brings to mind, in order. -/
def kept (state : State) (input : String) : List String :=
  Dispatch.memories i.book i.memory ((i.dispatch state input).uses i.book i.memory)

theorem sayable_of_mem_kept {state : State} {input : String} {memory : String}
    (h : memory ∈ i.kept state input) : Sayable memory :=
  Dispatch.sayable_of_mem_memories i.book i.memory h

/-- A turn that says something and changes nothing but cursors after `state`. -/
structure Speaks (state : State) (turn : Turn) : Prop where
  reply_ne : turn.reply ≠ ""
  source_ne_greeting : turn.source ≠ .greeting
  source_ne_memory : turn.source ≠ .memory
  pending : turn.state.pending = state.pending
  phase : turn.state.phase = state.phase

/-- The ways in which an input is answered. -/
inductive Answers (state : State) (input : String) : Turn → Prop
  /-- There is nothing to answer. -/
  | greeting (hheard : heard input = []) : Answers state input ⟨i.greeting, .greeting, state⟩
  /-- The oldest memory is said. -/
  | memory {memory : String} {pending : List String} (hheard : heard input ≠ [])
      (hstack : (i.dispatch state input).stack = []) (hphase : state.phase + 1 = 3)
      (hpending : state.pending = memory :: pending) :
      Answers state input ⟨memory, .memory, { state with phase := state.phase + 1, pending }⟩
  /-- The keywords are worked on. -/
  | worked {turn : Turn} (hheard : heard input ≠ [])
      (hnone : (i.dispatch state input).stack = [] → state.phase + 1 = 3 → state.pending = [])
      (hspeaks : Speaks ((i.dispatch state input).run i.book i.memory).2 turn) :
      Answers state input turn

/-! ## Without a reply to keywords -/

/-- The last word is not empty. -/
theorem spoken_missingWord_ne : Text.spoken [missingWord] ≠ "" := by
  rw [ne_eq, Text.spoken_eq_empty_iff]
  intro hblank
  have hfirst := hblank missingWord List.mem_cons_self 'H' (by decide)
  exact absurd hfirst (by decide)

theorem exists_stockReply_eq (state : State) : ∃ reply source, Sayable reply ∧
    (source = .stock ∨ source = .lastWord) ∧ i.stockReply state = ⟨reply, source, state⟩ := by
  unfold stockReply
  dsimp only
  split
  · exact ⟨_, _, ⟨spoken_missingWord_ne, _, rfl⟩, .inr rfl, rfl⟩
  · rename_i hne
    exact ⟨_, _, ⟨hne, _, rfl⟩, .inl rfl, rfl⟩

/-- Without a reply to a keyword, the fallback rule moves cursors, and nothing else changes. -/
theorem exists_fallBack_eq (words : List String) (state : State) : ∃ reply source, Sayable reply ∧
    (source = .fallback ∨ source = .stock ∨ source = .lastWord) ∧ i.fallBack words state =
      ⟨reply, source, { state with cursors := (i.book.applyFallback words state.cursors).2 }⟩ := by
  unfold fallBack
  obtain ⟨outcome, cursors⟩ := i.book.applyFallback words state.cursors
  obtain ⟨reply, source, hreply, hsource, hstock⟩ := i.exists_stockReply_eq { state with cursors }
  cases outcome with
  | reply reply =>
    dsimp only
    split
    · rename_i hsome
      exact ⟨_, _, Dispatch.sayable_of_nonempty? hsome, .inl rfl, rfl⟩
    · exact ⟨_, source, hreply, .inr hsource, hstock⟩
  | redirect keyword newWords => exact ⟨reply, source, hreply, .inr hsource, hstock⟩
  | pass => exact ⟨reply, source, hreply, .inr hsource, hstock⟩
  | unmatched => exact ⟨reply, source, hreply, .inr hsource, hstock⟩

theorem speaks_fallBack (words : List String) (state : State) :
    Speaks state (i.fallBack words state) := by
  obtain ⟨reply, source, hreply, hsource, hturn⟩ := i.exists_fallBack_eq words state
  rw [hturn]
  rcases hsource with rfl | rfl | rfl <;> exact ⟨hreply.ne_empty, nofun, nofun, rfl, rfl⟩

/-! ## Answers -/

theorem remembered?_eq_some {stack : List String} {state : State} {memory : String}
    {pending : List String} (h : remembered? stack state = some (memory, pending)) :
    stack = [] ∧ state.phase = 3 ∧ state.pending = memory :: pending := by
  unfold remembered? at h
  split at h
  · rename_i hwhen
    simp only [Bool.and_eq_true, List.isEmpty_iff, decide_eq_true_eq] at hwhen
    split at h
    · cases h
    · rename_i hpending
      cases h
      exact ⟨hwhen.1, hwhen.2, hpending⟩
  · cases h

theorem pending_of_remembered?_eq_none {stack : List String} {state : State}
    (h : remembered? stack state = none) (hstack : stack = []) (hphase : state.phase = 3) :
    state.pending = [] := by
  unfold remembered? at h
  rw [if_pos (by simp [hstack, hphase])] at h
  split at h
  · assumption
  · cases h

/-- The answer that the work on keywords leads to: a memory in place of the work, the reply that
the work ends with, or what is said without one. -/
theorem answer_cases (d : Dispatch) :
    (∃ memory pending, remembered? d.stack d.state = some (memory, pending) ∧
      i.answer d = ⟨memory, .memory, { d.state with pending }⟩) ∨
    remembered? d.stack d.state = none ∧
      ((∃ reply state, d.run i.book i.memory = (some reply, state) ∧
        i.answer d = ⟨reply, .keyword, state⟩) ∨
      ∃ state, d.run i.book i.memory = (none, state) ∧
        i.answer d = i.fallBack d.words state) := by
  unfold answer
  cases remembered? d.stack d.state with
  | some recalled => exact .inl ⟨recalled.1, recalled.2, rfl, rfl⟩
  | none =>
    refine .inr ⟨rfl, ?_⟩
    obtain ⟨_ | reply, state⟩ := d.run i.book i.memory
    · exact .inr ⟨state, rfl, rfl⟩
    · exact .inl ⟨reply, state, rfl, rfl⟩

/-- An input without words is met with the greeting, and nothing changes. -/
theorem respond_of_heard_eq_nil {state : State} {input : String} (h : heard input = []) :
    i.respond state input = ⟨i.greeting, .greeting, state⟩ := if_pos h

/-- Where there are words, the answer comes from the work on the keywords. -/
theorem respond_of_heard_ne_nil {state : State} {input : String} (h : heard input ≠ []) :
    i.respond state input = i.answer (i.dispatch state input) := if_neg h

/-- Every input is answered in one of the three ways. -/
theorem answers_respond (state : State) (input : String) :
    i.Answers state input (i.respond state input) := by
  by_cases hheard : heard input = []
  · rw [i.respond_of_heard_eq_nil hheard]
    exact .greeting hheard
  · rw [i.respond_of_heard_ne_nil hheard]
    obtain ⟨memory, pending, hsome, hanswer⟩ |
      ⟨hnone, ⟨reply, state', hrun, hanswer⟩ | ⟨state', hrun, hanswer⟩⟩ :=
        i.answer_cases (i.dispatch state input)
    · obtain ⟨hstack, hphase, hpending⟩ := remembered?_eq_some hsome
      rw [hanswer]
      exact .memory hheard hstack hphase hpending
    -- From here on the answer depends on the result of the work only.
    · refine .worked hheard (pending_of_remembered?_eq_none hnone) ?_
      rw [hanswer, hrun]
      exact ⟨(Dispatch.sayable_of_run i.book i.memory (congrArg Prod.fst hrun)).ne_empty, nofun,
        nofun, rfl, rfl⟩
    · refine .worked hheard (pending_of_remembered?_eq_none hnone) ?_
      rw [hanswer, hrun]
      exact i.speaks_fallBack _ state'

end Interlocutor

end Colloquy
