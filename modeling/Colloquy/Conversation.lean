import Colloquy.Conversation.Dispatch

/-!
# Conversations

An interlocutor answers one input after another. An input without words is met with the
greeting. Otherwise one clause of the input is answered, by the first of these that gives an
answer:

1. what is kept in mind, on every fourth input if no keyword applies;
2. the rules of the keywords of the clause;
3. the fallback rule, on the clause as it was before any rule recast it;
4. the stock phrase of the phase;
5. a last word.

* `Interlocutor.dispatch`: the work on the keywords of an input.
* `Interlocutor.respond`: the answer to an input and where it came from.
* `Interlocutor.converse`: the answers to a list of inputs.
-/

namespace Colloquy

/-- What can be chosen apart from the script. -/
structure Settings where
  /-- The phrases that are used when no rule gives a reply, one for each phase. -/
  stockPhrases : Vector String 4 := #v["PLEASE CONTINUE", "HMMM", "GO ON , PLEASE", "I SEE"]
  /-- How many redirects may be followed for one input. -/
  maxRedirects : Nat := 32
deriving DecidableEq, Repr

/-- One side of a conversation. It does not change; what changes is a `State`. -/
structure Interlocutor where
  book : Rulebook
  memory : MemoryRule
  greeting : String
  settings : Settings

/-- Where an answer came from. -/
inductive Source where
  | greeting
  | memory
  | keyword
  | fallback
  | stock
  | lastWord
deriving DecidableEq, Repr

/-- An answer, where it came from, and the state after it. -/
structure Turn where
  reply : String
  source : Source
  state : State
deriving DecidableEq, Repr

/-- The words that are made out in an input. -/
def heard (input : String) : List String := Text.words (Text.canonical input)

namespace Interlocutor

/-- An interlocutor who follows a script. -/
def ofScript (script : Script) (settings : Settings) : Interlocutor where
  book := .ofScript script
  memory := script.memory
  greeting := Text.spoken script.greeting
  settings := settings

/-- The answer when no rule gives a reply: the stock phrase of the phase, or a last word. -/
def stockReply (i : Interlocutor) (state : State) : Turn :=
  let phrase := Text.spoken (Text.words (i.settings.stockPhrases.get state.phase))
  if phrase = "" then ⟨Text.spoken [missingWord], .lastWord, state⟩
  else ⟨phrase, .stock, state⟩

/-- The answer when no keyword gives a reply to a clause. -/
def fallBack (i : Interlocutor) (words : List String) (state : State) : Turn :=
  let (outcome, cursors) := i.book.applyFallback words state.cursors
  let state := { state with cursors }
  match outcome with
  | .reply reply =>
    match Dispatch.nonempty? (Text.spoken reply) with
    | some reply => ⟨reply, .fallback, state⟩
    | none => i.stockReply state
  | _ => i.stockReply state

/-- What is recalled when `stack` are the keywords of a clause, and what is left to recall. -/
def remembered? (stack : List String) (state : State) : Option (String × List String) :=
  if stack.isEmpty && state.phase = 3 then
    match state.pending with
    | [] => none
    | memory :: pending => some (memory, pending)
  else none

/-- The work on the keywords of an input, before its first step. -/
def dispatch (i : Interlocutor) (state : State) (input : String) : Dispatch :=
  let clause := i.book.clause (heard input)
  ⟨i.book.stack clause, i.book.substituted clause, i.settings.maxRedirects,
    { state with phase := state.phase + 1 }⟩

/-- The answer to an input that has words, from the work on its keywords. -/
def answer (i : Interlocutor) (d : Dispatch) : Turn :=
  match remembered? d.stack d.state with
  | some (memory, pending) => ⟨memory, .memory, { d.state with pending }⟩
  | none =>
    match d.run i.book i.memory with
    | (some reply, state) => ⟨reply, .keyword, state⟩
    | (none, state) => i.fallBack d.words state

/-- The answer to an input. -/
def respond (i : Interlocutor) (state : State) (input : String) : Turn :=
  if heard input = [] then ⟨i.greeting, .greeting, state⟩
  else i.answer (i.dispatch state input)

/-- The turns of a conversation, from a state on. -/
def converse (i : Interlocutor) (state : State) : List String → List Turn
  | [] => []
  | input :: inputs =>
    let turn := i.respond state input
    turn :: i.converse turn.state inputs

end Interlocutor

end Colloquy
