import Colloquy.Proofs.Conversation.Clause
import Colloquy.Proofs.Conversation.Turn
import Colloquy.Proofs.Rulebook

/-!
# Memories over a conversation

A conversation keeps account of its memories: what has been brought to mind so far is what has
been said from memory, followed by what is still pending.

* `Interlocutor.stateAfter`: the state after some inputs.
* `Interlocutor.keptOver`: all that some inputs bring to mind.
* `Interlocutor.pending_respond`, `Interlocutor.pending_stateAfter`: no memory is lost, doubled
  or put before another, in one turn and over a conversation.
* `Interlocutor.memories_of_conversation`: the whole account, for the scripts that are read.
-/

namespace Colloquy

/-- The phase of a state, counted from 1. -/
def State.variety (state : State) : Nat := state.phase.val + 1

theorem State.variety_eq_four_iff {state : State} : state.variety = 4 ↔ state.phase = 3 := by
  rw [variety, ← Fin.val_inj]
  show state.phase.val + 1 = 4 ↔ state.phase.val = 3
  omega

/-- What is said from memory, in order. -/
def recalled (turns : List Turn) : List String :=
  (turns.filter (·.source = .memory)).map Turn.reply

@[simp] theorem recalled_nil : recalled [] = [] := rfl

theorem recalled_cons (turn : Turn) (turns : List Turn) :
    recalled (turn :: turns) = recalled [turn] ++ recalled turns := by
  rw [recalled, recalled, recalled, ← List.map_append, ← List.filter_append, List.singleton_append]

theorem recalled_singleton {turn : Turn} (h : turn.source ≠ .memory) : recalled [turn] = [] := by
  rw [recalled, List.filter_cons_of_neg (by simpa using h)]
  rfl

namespace Interlocutor

variable (i : Interlocutor)

/-! ## One turn -/

theorem stack_dispatch_eq_nil_iff {state : State} {input : String} :
    (i.dispatch state input).stack = [] ↔
      ∀ word ∈ heard input, Text.isMarkWord word = false → i.book.answers word = false :=
  Rulebook.stack_clause_eq_nil_iff i.book (heard input)

theorem stack_dispatch_of_heard {state : State} {input : String} (h : heard input = []) :
    (i.dispatch state input).stack = [] := by
  rw [stack_dispatch_eq_nil_iff, h]
  exact nofun

theorem kept_eq_nil {state : State} {input : String} (h : (i.dispatch state input).stack = []) :
    i.kept state input = [] := by
  rw [kept, Dispatch.uses_eq_nil i.book i.memory h]
  rfl

/-- What is brought to mind goes behind what is pending; what is said from memory is taken from
the front of it. -/
theorem pending_respond (state : State) (input : String) :
    state.pending ++ i.kept state input =
      recalled [i.respond state input] ++ (i.respond state input).state.pending := by
  have hanswers := i.answers_respond state input
  generalize i.respond state input = turn at hanswers ⊢
  cases hanswers with
  | greeting hheard =>
    have hsource : Source.greeting ≠ .memory := nofun
    rw [i.kept_eq_nil (i.stack_dispatch_of_heard hheard), recalled_singleton hsource,
      List.append_nil]
    rfl
  | memory hheard hstack hphase hpending =>
    rw [i.kept_eq_nil hstack, List.append_nil, hpending]
    rfl
  | worked hheard hnone hspeaks =>
    rw [recalled_singleton hspeaks.source_ne_memory, hspeaks.pending, Dispatch.pending_run]
    rfl

/-- Only an input with words moves the phase. -/
theorem phase_respond (state : State) (input : String) :
    (i.respond state input).state.phase =
      if heard input = [] then state.phase else state.phase + 1 := by
  have hanswers := i.answers_respond state input
  generalize i.respond state input = turn at hanswers ⊢
  cases hanswers with
  | greeting hheard => rw [if_pos hheard]
  | memory hheard hstack hphase hpending => rw [if_neg hheard]
  | worked hheard hnone hspeaks =>
    rw [if_neg hheard, hspeaks.phase, Dispatch.phase_run]
    rfl

/-- A memory is said if and only if the input makes the phase the last one and has no keyword,
and a memory is pending. -/
theorem source_respond_eq_memory_iff (state : State) (input : String) :
    (i.respond state input).source = .memory ↔
      heard input ≠ [] ∧ (i.respond state input).state.variety = 4 ∧ state.pending ≠ [] ∧
        ∀ word ∈ heard input, Text.isMarkWord word = false → i.book.answers word = false := by
  have hanswers := i.answers_respond state input
  have hwords : (i.dispatch state input).stack = [] ↔ _ := i.stack_dispatch_eq_nil_iff
  generalize i.respond state input = turn at hanswers ⊢
  rw [State.variety_eq_four_iff, ← hwords]
  cases hanswers with
  | greeting hheard => exact ⟨nofun, fun h => absurd hheard h.1⟩
  | memory hheard hstack hphase hpending =>
    refine ⟨fun _ => ⟨hheard, hphase, ?_, hstack⟩, fun _ => rfl⟩
    rw [hpending]
    exact List.cons_ne_nil _ _
  | worked hheard hnone hspeaks =>
    refine ⟨fun h => absurd h hspeaks.source_ne_memory, ?_⟩
    -- The work leaves the phase alone, so a pending memory would have been said instead.
    rintro ⟨-, hphase, hpending, hstack⟩
    rw [hspeaks.phase, Dispatch.phase_run] at hphase
    exact absurd (hnone hstack hphase) hpending

/-- When a memory is said it leaves what is pending, nothing is brought to mind and no cursor is
moved. -/
theorem respond_of_source_eq_memory {state : State} {input : String}
    (h : (i.respond state input).source = .memory) :
    state.pending = (i.respond state input).reply :: (i.respond state input).state.pending ∧
      i.kept state input = [] ∧ (i.respond state input).state.cursors = state.cursors := by
  have hanswers := i.answers_respond state input
  generalize i.respond state input = turn at hanswers h ⊢
  cases hanswers with
  | greeting hheard => cases h
  | memory hheard hstack hphase hpending => exact ⟨hpending, i.kept_eq_nil hstack, rfl⟩
  | worked hheard hnone hspeaks => exact absurd h hspeaks.source_ne_memory

/-! ## Conversations -/

/-- The state after some inputs. -/
def stateAfter (state : State) (inputs : List String) : State :=
  inputs.foldl (fun state input => (i.respond state input).state) state

/-- All that some inputs bring to mind, in order. -/
def keptOver (state : State) : List String → List String
  | [] => []
  | input :: inputs => i.kept state input ++ keptOver (i.respond state input).state inputs

@[simp] theorem stateAfter_nil (state : State) : i.stateAfter state [] = state := rfl

@[simp] theorem stateAfter_cons (state : State) (input : String) (inputs : List String) :
    i.stateAfter state (input :: inputs) = i.stateAfter (i.respond state input).state inputs := by
  unfold stateAfter
  rw [List.foldl_cons]

@[simp] theorem converse_nil (state : State) : i.converse state [] = [] := by
  rw [converse]

@[simp] theorem converse_cons (state : State) (input : String) (inputs : List String) :
    i.converse state (input :: inputs) =
      i.respond state input :: i.converse (i.respond state input).state inputs := by
  rw [converse]

@[simp] theorem keptOver_nil (state : State) : i.keptOver state [] = [] := by
  rw [keptOver]

@[simp] theorem keptOver_cons (state : State) (input : String) (inputs : List String) :
    i.keptOver state (input :: inputs) =
      i.kept state input ++ i.keptOver (i.respond state input).state inputs := by
  rw [keptOver]

/-- The account of memories is kept over a conversation. -/
theorem pending_stateAfter (state : State) (inputs : List String) :
    state.pending ++ i.keptOver state inputs =
      recalled (i.converse state inputs) ++ (i.stateAfter state inputs).pending := by
  induction inputs generalizing state with
  | nil => rw [keptOver_nil, converse_nil, recalled_nil, List.append_nil, List.nil_append,
      stateAfter_nil]
  | cons input inputs ih =>
    rw [keptOver_cons, converse_cons, stateAfter_cons, ← List.append_assoc, pending_respond,
      List.append_assoc, ih, recalled_cons _ (i.converse _ inputs), List.append_assoc]

/-- The phase counts the inputs that have words, modulo 4. -/
theorem phase_stateAfter (state : State) (inputs : List String) :
    (i.stateAfter state inputs).phase.val =
      (state.phase.val + inputs.countP (heard · ≠ [])) % 4 := by
  induction inputs generalizing state with
  | nil => exact (Nat.mod_eq_of_lt state.phase.isLt).symm
  | cons input inputs ih =>
    rw [stateAfter_cons, ih, phase_respond, List.countP_cons]
    by_cases h : heard input = []
    · simp [h]
    · simp only [h, if_false, Fin.val_add, Fin.val_one, ne_eq, not_false_eq_true, decide_true,
        if_true]
      omega

theorem variety_stateAfter (inputs : List String) :
    (i.stateAfter {} inputs).variety = 1 + inputs.countP (heard · ≠ []) % 4 := by
  have hphase := i.phase_stateAfter {} inputs
  have hzero : ({} : State).phase.val = 0 := rfl
  rw [hzero, Nat.zero_add] at hphase
  rw [State.variety, hphase, Nat.add_comm]

theorem keptOver_eq (inputs : List String) : i.keptOver {} inputs =
    recalled (i.converse {} inputs) ++ (i.stateAfter {} inputs).pending := by
  have hpending := i.pending_stateAfter {} inputs
  rwa [List.nil_append] at hpending

/-! ## Scripts -/

/-- The account of memories in a conversation that follows a script: the phase counts the inputs
with words; what was brought to mind is what was said from memory and then what is pending; and
the next turn says a memory exactly when it is the fourth in turn, has no keyword and one is
pending. -/
theorem memories_of_conversation {text : String} {script : Script}
    (h : Script.read text = .ok script) (settings : Settings) (earlier : List String)
    (input : String) :
    let i := ofScript script settings
    let state := i.stateAfter {} earlier
    let turn := i.respond state input
    state.variety = 1 + earlier.countP (heard · ≠ []) % 4 ∧
    i.keptOver {} earlier = recalled (i.converse {} earlier) ++ state.pending ∧
    (turn.source = .memory ↔
      heard input ≠ [] ∧ turn.state.variety = 4 ∧ state.pending ≠ [] ∧
        ∀ word ∈ heard input, Text.isMarkWord word = false → script.answers word = false) ∧
    (turn.source = .memory →
      state.pending = turn.reply :: turn.state.pending ∧ i.kept state input = [] ∧
        turn.state.cursors = state.cursors) ∧
    (heard input = [] → turn = ⟨Text.spoken script.greeting, .greeting, state⟩) := by
  have hanswers : (ofScript script settings).book.answers = script.answers :=
    Rulebook.answers_ofScript (Script.sound_of_read h)
  have hsaid := (ofScript script settings).source_respond_eq_memory_iff
    ((ofScript script settings).stateAfter {} earlier) input
  rw [hanswers] at hsaid
  exact ⟨variety_stateAfter _ earlier, keptOver_eq _ earlier, hsaid,
    respond_of_source_eq_memory _, respond_of_heard_eq_nil _⟩

/-- A script whose memories are about what is called "my". -/
def ownText : String :=
  "(HI) (MY ((0) (GO ON))) (NONE ((0) (I SEE))) (MEMORY MY (0 = A) (0 = B) (0 = C) (0 = D))"

def ownScript : Script where
  greeting := ["HI"]
  rules :=
    [{ spelling := "MY", transformations := [⟨[.count 0], [.reply [.word "GO", .word "ON"]]⟩] }]
  fallback :=
    { spelling := "NONE", transformations := [⟨[.count 0], [.reply [.word "I", .word "SEE"]]⟩] }
  memory := .letters "MY"

/-- The third input with words, which has no keyword, is answered from memory. -/
theorem memories_of_ownScript : Script.read ownText = .ok ownScript ∧
    let i := ofScript ownScript {}
    (i.respond (i.stateAfter {} ["My cat", "Hello", ""]) "Well").source = .memory := by
  have h : Script.read ownText = .ok ownScript := by decide +kernel
  refine ⟨h, ?_⟩
  obtain ⟨-, -, hiff, -⟩ := memories_of_conversation h {} ["My cat", "Hello", ""] "Well"
  refine hiff.2 ⟨?_, ?_, ?_, ?_⟩
  · decide +kernel
  · decide +kernel
  · decide +kernel
  · decide +kernel

end Interlocutor

end Colloquy
